import Mathlib.Data.List.Basic

/-!
# Fixed tables of slots

A table is a list of slots that never changes its length.  A slot is found by
its key, from the front, and is overwritten in place.

The slots that hold a key say all that the table knows about it.  When at most
one slot holds a key, overwriting a slot changes what the table knows about
the old key and the new key of that slot and about nothing else.
-/

namespace Endap.Library.Slots

variable {Slot Key : Type*} [DecidableEq Key] (key : Slot → Key)

/-- The first slot with the key: its position and what it holds. -/
def find? (wanted : Key) (slots : List Slot) : Option (Nat × Slot) :=
  (slots.find? fun slot => key slot = wanted).map fun slot =>
    (slots.findIdx fun slot => key slot = wanted, slot)

/-- The slots that hold the key. -/
def holding (wanted : Key) (slots : List Slot) : List Slot :=
  slots.filter fun slot => key slot = wanted

variable {key} {wanted : Key} {slots : List Slot}

variable {index : Nat}

theorem find?_some
    {slot : Slot}
    (found : find? key wanted slots = some (index, slot)) :
    slots[index]? = some slot ∧ key slot = wanted := by
  rcases Option.map_eq_some_iff.mp found with ⟨first, isFirst, same⟩
  rcases Prod.mk.inj same with ⟨rfl, rfl⟩
  have hasKey := List.find?_some isFirst
  have position :
      (slots.findIdx? fun slot => key slot = wanted) =
        some (slots.findIdx fun slot => key slot = wanted) :=
    List.findIdx?_eq_some_of_exists
      ⟨first, List.mem_of_find?_eq_some isFirst, hasKey⟩
  rw [List.find?_eq_bind_findIdx?_getElem?, position] at isFirst
  exact ⟨isFirst, by simpa using hasKey⟩

theorem find?_none (missing : find? key wanted slots = none) :
    holding key wanted slots = [] := by
  have unmatched := Option.map_eq_none_iff.mp missing
  exact List.filter_eq_nil_iff.mpr (List.find?_eq_none.mp unmatched)

theorem find?_slot :
    (find? key wanted slots).map Prod.snd =
      (holding key wanted slots).head? := by
  rw [find?, holding, List.head?_filter, Option.map_map]
  exact congrFun Option.map_id _

theorem mem_holding {slot : Slot} :
    slot ∈ holding key wanted slots ↔ slot ∈ slots ∧ key slot = wanted := by
  simp [holding]

theorem holding_eq_singleton
    (single : (holding key wanted slots).length ≤ 1)
    {slot : Slot} (member : slot ∈ slots) (hasKey : key slot = wanted) :
    holding key wanted slots = [slot] := by
  have inside := mem_holding.mpr ⟨member, hasKey⟩
  match holding key wanted slots, single, inside with
  | [only], _, inside => rw [List.mem_singleton.mp inside]

/-- A table around one of its slots, and with that slot overwritten. -/
theorem set_around
    {old : Slot} (holds : slots[index]? = some old)
    (new : Slot) :
    ∃ before after,
      slots = before ++ old :: after ∧
      slots.set index new = before ++ new :: after := by
  rcases List.getElem?_eq_some_iff.mp holds with ⟨inside, isOld⟩
  refine ⟨slots.take index, slots.drop (index + 1), ?_, ?_⟩
  · rw [← isOld, List.getElem_cons_drop, List.take_append_drop]
  · exact List.set_eq_take_cons_drop new inside

theorem holding_around (before after : List Slot) (slot : Slot) :
    holding key wanted (before ++ slot :: after) =
      holding key wanted before ++
        ((if key slot = wanted then [slot] else []) ++
          holding key wanted after) := by
  rw [holding, List.filter_append, List.filter_cons]
  by_cases hasKey : key slot = wanted
  · simp [hasKey, holding]
  · simp [hasKey, holding]

theorem holding_around_single
    {before after : List Slot} {slot : Slot} (hasKey : key slot = wanted)
    (single : (holding key wanted (before ++ slot :: after)).length ≤ 1) :
    holding key wanted before = [] ∧ holding key wanted after = [] := by
  rw [holding_around, if_pos hasKey, List.length_append,
    List.length_append, List.length_singleton] at single
  constructor
  · exact List.length_eq_zero_iff.mp (by omega)
  · exact List.length_eq_zero_iff.mp (by omega)

/-- Overwriting a slot keeps what the table knows about every other key. -/
theorem holding_set_other
    {old new : Slot} (holds : slots[index]? = some old)
    (notOld : key old ≠ wanted) (notNew : key new ≠ wanted) :
    holding key wanted (slots.set index new) =
      holding key wanted slots := by
  rcases set_around holds new with ⟨before, after, around, overwritten⟩
  rw [overwritten, around, holding_around, holding_around, if_neg notOld,
    if_neg notNew]

/-- A slot overwritten with a key that no other slot holds. -/
theorem holding_set_own
    {old new : Slot} (holds : slots[index]? = some old)
    (isNew : key new = wanted)
    (alone :
      holding key wanted slots = [] ∨
      key old = wanted ∧ (holding key wanted slots).length ≤ 1) :
    holding key wanted (slots.set index new) = [new] := by
  rcases set_around holds new with ⟨before, after, around, overwritten⟩
  have empty :
      holding key wanted before = [] ∧ holding key wanted after = [] := by
    rw [around] at alone
    rcases alone with none | ⟨isOld, single⟩
    · rw [holding_around] at none
      rcases List.append_eq_nil_iff.mp none with ⟨noneBefore, rest⟩
      exact ⟨noneBefore, (List.append_eq_nil_iff.mp rest).2⟩
    · exact holding_around_single isOld single
  rw [overwritten, holding_around, if_pos isNew, empty.1, empty.2]
  rfl

/-- A key leaves the table when its only slot is overwritten. -/
theorem holding_set_removed
    {old new : Slot} (holds : slots[index]? = some old)
    (isOld : key old = wanted) (notNew : key new ≠ wanted)
    (single : (holding key wanted slots).length ≤ 1) :
    holding key wanted (slots.set index new) = [] := by
  rcases set_around holds new with ⟨before, after, around, overwritten⟩
  rw [around] at single
  have empty := holding_around_single isOld single
  rw [overwritten, holding_around, if_neg notNew, empty.1, empty.2]
  rfl

/-! ## Searching after a write -/

theorem find?_eq_some_iff {slot : Slot} :
    find? key wanted slots = some (index, slot) ↔
    slots[index]? = some slot ∧ key slot = wanted ∧
    ∀ earlier other,
      earlier < index → slots[earlier]? = some other →
      key other ≠ wanted := by
  constructor
  · intro found
    rcases find?_some found with ⟨holds, hasKey⟩
    refine ⟨holds, hasKey, ?_⟩
    intro earlier other before isOther otherKey
    rcases Option.map_eq_some_iff.mp found with ⟨first, -, same⟩
    rw [← (Prod.mk.inj same).1] at before
    rcases List.getElem?_eq_some_iff.mp isOther with ⟨inside, rfl⟩
    have skipped := List.not_of_lt_findIdx before
    simp [otherKey] at skipped
  · rintro ⟨holds, hasKey, skipped⟩
    rcases List.getElem?_eq_some_iff.mp holds with ⟨inside, rfl⟩
    have position : (slots.findIdx fun slot => key slot = wanted) = index := by
      refine (List.findIdx_eq inside).mpr ⟨decide_eq_true hasKey, ?_⟩
      intro earlier before
      exact decide_eq_false
        (skipped earlier _ before (List.getElem?_eq_getElem _))
    have first :
        (slots.find? fun slot => key slot = wanted) =
          some slots[index] := by
      refine
        List.find?_eq_some_iff_getElem.mpr
          ⟨decide_eq_true hasKey, index, inside, rfl, ?_⟩
      intro earlier before
      simp [skipped earlier _ before (List.getElem?_eq_getElem _)]
    rw [find?, first, position]
    rfl

theorem find?_eq_none_iff :
    find? key wanted slots = none ↔ ∀ slot ∈ slots, key slot ≠ wanted := by
  simp [find?]

/-- A search finds the slot it found before, overwritten under the same
key. -/
theorem find?_set_own
    {old new : Slot}
    (found : find? key wanted slots = some (index, old))
    (isNew : key new = wanted) :
    find? key wanted (slots.set index new) = some (index, new) := by
  rcases find?_eq_some_iff.mp found with ⟨holds, -, skipped⟩
  have inside := (List.getElem?_eq_some_iff.mp holds).1
  refine find?_eq_some_iff.mpr ⟨?_, isNew, ?_⟩
  · exact List.getElem?_set_self inside
  · intro earlier other before isOther
    rw [List.getElem?_set_ne (Nat.ne_of_gt before)] at isOther
    exact skipped earlier other before isOther

theorem find?_set_fresh
    {new : Slot} (inside : index < slots.length)
    (unknown : find? key wanted slots = none) (isNew : key new = wanted) :
    find? key wanted (slots.set index new) = some (index, new) := by
  refine find?_eq_some_iff.mpr ⟨List.getElem?_set_self inside, isNew, ?_⟩
  intro earlier other before isOther
  rw [List.getElem?_set_ne (Nat.ne_of_gt before)] at isOther
  exact find?_eq_none_iff.mp unknown other (List.mem_of_getElem? isOther)

/-- Overwriting a slot of another key by one of another key leaves a search
alone. -/
theorem find?_set_other
    {old new : Slot} (holds : slots[index]? = some old)
    (notOld : key old ≠ wanted) (notNew : key new ≠ wanted) :
    find? key wanted (slots.set index new) = find? key wanted slots := by
  have inside := (List.getElem?_eq_some_iff.mp holds).1
  have same :
      ∀ (position : Nat) (slot : Slot), key slot = wanted →
      ((slots.set index new)[position]? = some slot ↔
      slots[position]? = some slot) := by
    intro position slot hasKey
    by_cases isIndex : index = position
    · subst isIndex
      rw [List.getElem?_set_self inside, holds]
      constructor
      · intro isNew
        cases isNew
        exact absurd hasKey notNew
      · intro isOld
        cases isOld
        exact absurd hasKey notOld
    · rw [List.getElem?_set_ne isIndex]
  refine Option.ext fun ⟨position, slot⟩ => ?_
  rw [find?_eq_some_iff, find?_eq_some_iff]
  constructor
  · rintro ⟨holdsHere, hasKey, skipped⟩
    refine ⟨(same position slot hasKey).mp holdsHere, hasKey, ?_⟩
    intro earlier other before isOther otherKey
    exact skipped earlier other before
      ((same earlier other otherKey).mpr isOther) otherKey
  · rintro ⟨holdsHere, hasKey, skipped⟩
    refine ⟨(same position slot hasKey).mpr holdsHere, hasKey, ?_⟩
    intro earlier other before isOther otherKey
    exact skipped earlier other before
      ((same earlier other otherKey).mp isOther) otherKey

/-- Freeing the slot that a search found leaves the key in no slot exactly if
it was in no other. -/
theorem find?_set_removed_iff
    {old new : Slot}
    (found : find? key wanted slots = some (index, old))
    (notNew : key new ≠ wanted) :
    find? key wanted (slots.set index new) = none ↔
    (holding key wanted slots).length = 1 := by
  rcases find?_some found with ⟨holds, isOld⟩
  rcases set_around holds new with ⟨before, after, around, overwritten⟩
  have none_iff :
      ∀ table : List Slot,
        find? key wanted table = none ↔
        (holding key wanted table).length = 0 := by
    intro table
    rw [find?_eq_none_iff, List.length_eq_zero_iff, holding,
      List.filter_eq_nil_iff]
    simp
  rw [none_iff, overwritten, around, holding_around, holding_around,
    if_neg notNew, if_pos isOld]
  simp only [List.length_append, List.length_cons, List.length_nil]
  omega

end Endap.Library.Slots
