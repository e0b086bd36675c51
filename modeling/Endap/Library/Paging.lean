import Mathlib.Data.List.Nodup
import Mathlib.Order.Lattice

/-!
# Paging through keys that change

A client lists the keys of a table page by page.  Each request names the last
key of the page before it and is answered with the next keys in order, at
most as many as the limit; an empty page ends the listing.  Between two
requests the table may change.

Whatever changes, the listing is strictly increasing, and a listing that ended
has named every key that was in the table at each of the requests.
-/

namespace Endap.Library.Paging

variable {Key : Type*} [LinearOrder Key]

/-- The first keys after a given one, in the order of the list. -/
def page (keys : List Key) (after : Key) (limit : Nat) : List Key :=
  (keys.filter fun key => after < key).take limit

/-- One request, with the keys in the table when it is answered. -/
structure Request (Key : Type*) where
  keys : List Key
  after : Key
  answer : List Key

/-- The request is answered with the next page. -/
def Request.Answered (limit : Nat) (request : Request Key) : Prop :=
  request.answer = page request.keys request.after limit

/-- Each request continues where the answer before it ends; nothing follows an
empty answer. -/
def Continues : Key → List (Request Key) → Prop
  | _, [] => True
  | after, request :: rest =>
      request.after = after ∧
      match request.answer.getLast? with
      | none => rest = []
      | some last => Continues last rest

/-- The keys named by a listing. -/
def emitted (requests : List (Request Key)) : List Key :=
  requests.flatMap Request.answer

/-- The listing has come to an empty page. -/
def Ended (requests : List (Request Key)) : Prop :=
  ∃ request ∈ requests, request.answer = []

/-! ## One page -/

theorem page_pairwise
    {keys : List Key} (sorted : keys.Pairwise (· < ·)) (after : Key)
    (limit : Nat) : (page keys after limit).Pairwise (· < ·) :=
  (sorted.filter _).sublist (List.take_sublist limit _)

variable {limit : Nat}

theorem lt_of_mem_page
    {keys : List Key} {after key : Key}
    (member : key ∈ page keys after limit) : after < key := by
  have inFilter := List.mem_of_mem_take member
  exact of_decide_eq_true (List.mem_filter.mp inFilter).2

theorem mem_page_of_le
    {keys : List Key} (sorted : keys.Pairwise (· < ·))
    {after last key : Key}
    (isLast : last ∈ page keys after limit) (member : key ∈ keys)
    (later : after < key) (within : key ≤ last) :
    key ∈ page keys after limit := by
  let following := keys.filter fun key => after < key
  have present : key ∈ following :=
    List.mem_filter.mpr ⟨member, decide_eq_true later⟩
  have whole : following.take limit ++ following.drop limit = following :=
    List.take_append_drop limit following
  have ordered :
      (following.take limit ++ following.drop limit).Pairwise (· < ·) := by
    rw [whole]
    exact sorted.filter _
  rw [← whole] at present
  rcases List.mem_append.mp present with inPage | beyond
  · exact inPage
  · have greater :=
      (List.pairwise_append.mp ordered).2.2 last isLast key beyond
    exact absurd within (not_le_of_gt greater)

theorem le_of_page_eq_nil
    {keys : List Key} {after key : Key} (positive : 0 < limit)
    (empty : page keys after limit = []) (member : key ∈ keys) :
    key ≤ after := by
  rcases List.take_eq_nil_iff.mp empty with noRoom | nothing
  · omega
  · have notAfter := List.filter_eq_nil_iff.mp nothing key member
    exact le_of_not_gt fun later => notAfter (decide_eq_true later)

/-- After a key of an increasing list stand the greater ones. -/
theorem filter_after
    {before rest : List Key} {key : Key}
    (sorted : (before ++ key :: rest).Pairwise (· < ·)) :
    ((before ++ key :: rest).filter fun other => key < other) = rest := by
  rcases List.pairwise_append.mp sorted with ⟨_, suffix, across⟩
  have none : (before.filter fun other => key < other) = [] := by
    apply List.filter_eq_nil_iff.mpr
    intro other member later
    have earlier := across other member key (List.mem_cons_self ..)
    exact lt_asymm earlier (of_decide_eq_true later)
  have all : (rest.filter fun other => key < other) = rest := by
    apply List.filter_eq_self.mpr
    intro other member
    exact decide_eq_true (List.rel_of_pairwise_cons suffix member)
  rw [List.filter_append, none, List.filter_cons_of_neg (by simp), all]
  rfl

/-! ## Whole listings -/

theorem pairwise_joined
    {before rest : List Key} {key : Key}
    (ending : (before ++ [key]).Pairwise (· < ·))
    (beginning : (key :: rest).Pairwise (· < ·)) :
    (before ++ key :: rest).Pairwise (· < ·) := by
  rcases List.pairwise_append.mp ending with ⟨first, _, toKey⟩
  refine List.pairwise_append.mpr ⟨first, beginning, ?_⟩
  intro earlier member other otherMember
  have below := toKey earlier member key (List.mem_singleton_self _)
  rcases List.mem_cons.mp otherMember with rfl | later
  · exact below
  · exact below.trans (List.rel_of_pairwise_cons beginning later)

/-- A listing names keys in increasing order, all after its start. -/
theorem Continues.increasing
    {requests : List (Request Key)} {after : Key}
    (continues : Continues after requests)
    (answered : ∀ request ∈ requests, request.Answered limit)
    (sorted : ∀ request ∈ requests, request.keys.Pairwise (· < ·)) :
    (after :: emitted requests).Pairwise (· < ·) := by
  induction requests generalizing after with
  | nil => exact List.pairwise_singleton _ _
  | cons request rest induction =>
      rcases continues with ⟨rfl, follows⟩
      have here := answered request (List.mem_cons_self ..)
      have pageSorted :=
        page_pairwise (sorted request (List.mem_cons_self ..))
          request.after limit
      cases last : request.answer.getLast? with
      | none =>
          rw [last] at follows
          subst follows
          have empty := List.getLast?_eq_none_iff.mp last
          simp [emitted, empty]
      | some greatest =>
          rw [last] at follows
          have next :=
            induction follows
              (fun other member =>
                answered other (List.mem_cons_of_mem _ member))
              (fun other member =>
                sorted other (List.mem_cons_of_mem _ member))
          rcases List.getLast?_eq_some_iff.mp last with ⟨initial, split⟩
          have first :
              ((request.after :: initial) ++ [greatest]).Pairwise
                (· < ·) := by
            rw [List.cons_append, ← split, here]
            exact
              List.pairwise_cons.mpr
                ⟨fun _ member => lt_of_mem_page member, pageSorted⟩
          have joined := pairwise_joined first next
          rwa [List.cons_append, List.append_cons, ← split] at joined

/-- A listing that ended has named, exactly once, every key after its start
that was in the table at each request. -/
theorem Continues.complete
    (positive : 0 < limit) {requests : List (Request Key)}
    {after : Key} (continues : Continues after requests)
    (answered : ∀ request ∈ requests, request.Answered limit)
    (sorted : ∀ request ∈ requests, request.keys.Pairwise (· < ·))
    (ended : Ended requests) {key : Key} (later : after < key)
    (present : ∀ request ∈ requests, key ∈ request.keys) :
    (emitted requests).count key = 1 := by
  have distinct : (emitted requests).Nodup :=
    (continues.increasing answered sorted).of_cons.imp ne_of_lt
  refine List.count_eq_one_of_mem distinct ?_
  clear distinct
  induction requests generalizing after with
  | nil =>
      rcases ended with ⟨_, impossible, _⟩
      cases impossible
  | cons request rest induction =>
      rcases continues with ⟨rfl, follows⟩
      have here := answered request (List.mem_cons_self ..)
      have inTable := present request (List.mem_cons_self ..)
      cases last : request.answer.getLast? with
      | none =>
          have empty := List.getLast?_eq_none_iff.mp last
          rw [here] at empty
          exact
            absurd later
              (not_lt_of_ge (le_of_page_eq_nil positive empty inTable))
      | some greatest =>
          rw [last] at follows
          have isLast := List.mem_of_getLast? last
          refine List.mem_append.mpr ?_
          by_cases within : key ≤ greatest
          · refine Or.inl ?_
            rw [here] at isLast ⊢
            exact
              mem_page_of_le (sorted request (List.mem_cons_self ..))
                isLast inTable later within
          · refine Or.inr ?_
            have nonempty : request.answer ≠ [] := List.ne_nil_of_mem isLast
            have restEnded : Ended rest := by
              rcases ended with ⟨other, member, empty⟩
              rcases List.mem_cons.mp member with rfl | inRest
              · exact absurd empty nonempty
              · exact ⟨other, inRest, empty⟩
            exact
              induction follows
                (fun other member =>
                  answered other (List.mem_cons_of_mem _ member))
                (fun other member =>
                  sorted other (List.mem_cons_of_mem _ member))
                restEnded (lt_of_not_ge within)
                (fun other member =>
                  present other (List.mem_cons_of_mem _ member))

end Endap.Library.Paging
