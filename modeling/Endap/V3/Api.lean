import Endap.Library.Paging
import Endap.V3.Catalog

/-!
# Listing the catalog

The listing function streams the records of the catalog page by page.  Its
cursor is the identifier of the last record streamed.  The search for the
cursor starts the page behind it when its record is still in the catalog, and
at the first record when it is not.

The pages are the pages of a stable listing as long as the cursor's record is
found, or no record with a smaller identifier is left that the restart would
stream.  When neither holds, the listing goes back.
-/

namespace Endap.V3

open Endap.Library

/-! ## One call -/

/-- `v3_api_cursor_t`. -/
structure ApiCursor where
  afterId : UInt64
  limit : UInt16

/-- The index at which `v3_api_stream_catalog_ndjson` starts. -/
def apiStartIndex (catalog : CatalogPool) (afterId : UInt64) : Nat :=
  if afterId ≠ 0 then
    match (catalog.search afterId).found with
    | some foundIndex => foundIndex + 1
    | none => 0
  else 0

/-- The records for which the loop of `v3_api_stream_catalog_ndjson` writes a
line. -/
def apiStreamed (catalog : CatalogPool) (cursor : ApiCursor) :
    List ResourceRecord :=
  (catalog.records.drop (apiStartIndex catalog cursor.afterId)).take
    cursor.limit.toNat

/-- The identifier that `v3_api_stream_catalog_ndjson` returns. -/
def apiLastId (streamed : List ResourceRecord) : UInt64 :=
  streamed.foldl (fun _ record => record.id) 0

/-! ## Whole listings -/

/-- One call of a listing, with the catalog that it finds. -/
structure CatalogVisit where
  catalog : CatalogPool
  cursor : ApiCursor

namespace CatalogVisit

/-- The identifiers in the catalog. -/
def ids (visit : CatalogVisit) : List UInt64 :=
  visit.catalog.records.map ResourceRecord.id

/-- The identifiers that the call streams. -/
def streamed (visit : CatalogVisit) : List UInt64 :=
  (apiStreamed visit.catalog visit.cursor).map ResourceRecord.id

/-- The identifier that the call returns. -/
def returned (visit : CatalogVisit) : UInt64 :=
  apiLastId (apiStreamed visit.catalog visit.cursor)

/-- The record of the cursor is in the catalog, or none with a smaller
identifier is. -/
def CursorKept (visit : CatalogVisit) : Prop :=
  visit.cursor.afterId ≠ 0 →
  visit.cursor.afterId ∈ visit.ids ∨
  ∀ id ∈ visit.ids, visit.cursor.afterId < id

-- The identifiers of the catalog are searched, not all 64-bit values.
instance (visit : CatalogVisit) : Decidable visit.CursorKept :=
  have : Decidable (∀ id ∈ visit.ids, visit.cursor.afterId < id) :=
    List.decidableBAll _ _
  inferInstanceAs
    (Decidable
      (visit.cursor.afterId ≠ 0 →
      visit.cursor.afterId ∈ visit.ids ∨
      ∀ id ∈ visit.ids, visit.cursor.afterId < id))

end CatalogVisit

/-- The calls of a listing.  Between two of them the catalog is changed by
any calls; the listing is over when zero is returned. -/
def catalogListing (limit : UInt16) :
    CatalogPool → UInt64 → List (List CatalogCall) → List CatalogVisit
  | catalog, afterId, [] => [⟨catalog, ⟨afterId, limit⟩⟩]
  | catalog, afterId, changes :: rest =>
      let visit : CatalogVisit := ⟨catalog, ⟨afterId, limit⟩⟩
      visit ::
        if visit.returned = 0 then []
        else
          catalogListing limit
            (Run.final CatalogPool.call catalog changes) visit.returned
            rest

/-- The identifiers streamed over a whole listing. -/
def listedIds (visits : List CatalogVisit) : List UInt64 :=
  visits.flatMap CatalogVisit.streamed

/-- The listing has returned zero. -/
def ListingEnded (visits : List CatalogVisit) : Prop :=
  ∃ visit ∈ visits, visit.returned = 0

/-- What a stable listing is: the identifiers increase, and a listing that
ended has streamed, exactly once, every record that each of its calls
found in the catalog. -/
def StableListing (visits : List CatalogVisit) : Prop :=
  (listedIds visits).Pairwise (· < ·) ∧
  (ListingEnded visits →
  ∀ id, (∀ visit ∈ visits, id ∈ visit.ids) →
  (listedIds visits).count id = 1)

/-! ## One page -/

theorem apiLastId_eq (streamed : List ResourceRecord) :
    apiLastId streamed =
      ((streamed.map ResourceRecord.id).getLast?).getD 0 := by
  induction streamed using List.reverseRecOn with
  | nil => rfl
  | append_singleton earlier record _ => simp [apiLastId]

namespace CatalogVisit

variable {visit : CatalogVisit}

theorem sorted_ids (kept : visit.catalog.WellKept) :
    visit.ids.Pairwise (· < ·) :=
  List.pairwise_map.mpr kept.increasing

theorem streamed_eq :
    visit.streamed =
      (visit.ids.drop
          (apiStartIndex visit.catalog visit.cursor.afterId)).take
        visit.cursor.limit.toNat := by
  rw [streamed, apiStreamed, ids, List.map_take, List.map_drop]

/-- The request that the call is. -/
def request (visit : CatalogVisit) : Paging.Request UInt64 where
  keys := visit.ids
  after := visit.cursor.afterId
  answer := visit.streamed

theorem drop_found
    (kept : visit.catalog.WellKept) (nonzero : visit.cursor.afterId ≠ 0)
    (present : visit.cursor.afterId ∈ visit.ids) :
    visit.ids.drop (apiStartIndex visit.catalog visit.cursor.afterId) =
      visit.ids.filter fun id => visit.cursor.afterId < id := by
  cases
    BinarySearch.run_outcome kept.keys_increase visit.cursor.afterId with
  | found index inside isId result =>
      have start :
          apiStartIndex visit.catalog visit.cursor.afterId = index + 1 := by
        rw [apiStartIndex, if_pos nonzero, CatalogPool.search, result]
      have split :
          visit.ids =
            visit.ids.take index ++
              visit.cursor.afterId :: visit.ids.drop (index + 1) := by
        have around :=
          congrArg (List.map ResourceRecord.id)
            (CatalogPool.records_around inside)
        rw [List.map_append, List.map_cons, isId] at around
        rwa [ids, ← List.map_take, ← List.map_drop]
      have sorted := sorted_ids kept
      rw [split] at sorted
      have rest := Paging.filter_after sorted
      rw [← split] at rest
      rw [start, rest]
  | missing position belongs result place =>
      rcases List.mem_map.mp present with ⟨record, member, isId⟩
      rcases ArrayList.mem_listed.mp member with ⟨index, inside, rfl⟩
      exact absurd isId (belongs.missing inside)

theorem start_missing
    (kept : visit.catalog.WellKept)
    (missing : visit.cursor.afterId ∉ visit.ids) :
    apiStartIndex visit.catalog visit.cursor.afterId = 0 := by
  rw [apiStartIndex]
  split
  · cases
      BinarySearch.run_outcome kept.keys_increase visit.cursor.afterId with
    | found index inside isId result =>
        refine absurd ?_ missing
        exact List.mem_map.mpr
          ⟨_, ArrayList.mem_listed.mpr ⟨index, inside, rfl⟩, isId⟩
    | missing position belongs result place =>
        rw [CatalogPool.search, result]
  · rfl

theorem CursorKept.answered
    (cursorKept : visit.CursorKept) (kept : visit.catalog.WellKept)
    (nonzero : ∀ id ∈ visit.ids, id ≠ 0) :
    visit.request.Answered visit.cursor.limit.toNat := by
  change
    visit.streamed =
      (visit.ids.filter fun id => visit.cursor.afterId < id).take
        visit.cursor.limit.toNat
  rw [streamed_eq]
  congr 1
  by_cases present : visit.cursor.afterId ≠ 0 ∧ visit.cursor.afterId ∈ visit.ids
  · exact drop_found kept present.1 present.2
  · have all : ∀ id ∈ visit.ids, visit.cursor.afterId < id := by
      intro id member
      by_cases isZero : visit.cursor.afterId = 0
      · rw [isZero]
        exact UInt64.pos_iff_ne_zero.mpr (nonzero id member)
      · have missing := fun held => present ⟨isZero, held⟩
        exact (cursorKept isZero).resolve_left missing id member
    have missing : visit.cursor.afterId ∉ visit.ids :=
      fun held => lt_irrefl _ (all _ held)
    rw [start_missing kept missing, List.drop_zero]
    exact
      (List.filter_eq_self.mpr fun id member =>
        decide_eq_true (all id member)).symm

theorem cursorKept_of_later
    (kept : visit.catalog.WellKept)
    (positive : 0 < visit.cursor.limit.toNat)
    (later : ∀ id ∈ visit.streamed, visit.cursor.afterId < id) :
    visit.CursorKept := by
  intro _
  by_contra lost
  rcases not_or.mp lost with ⟨missing, smaller⟩
  refine smaller ?_
  intro id member
  rw [streamed_eq, start_missing kept missing, List.drop_zero] at later
  cases isIds : visit.ids with
  | nil =>
      rw [isIds] at member
      cases member
  | cons first rest =>
      have sorted := sorted_ids kept
      rw [isIds] at later sorted member
      have isFirst : visit.cursor.afterId < first :=
        later first
          (List.mem_take_iff_getElem.mpr ⟨0, by simpa using positive, rfl⟩)
      rcases List.mem_cons.mp member with rfl | inRest
      · exact isFirst
      · exact isFirst.trans (List.rel_of_pairwise_cons sorted inRest)

theorem mem_ids_of_streamed
    {id : UInt64} (member : id ∈ visit.streamed) : id ∈ visit.ids := by
  rw [streamed_eq] at member
  exact List.mem_of_mem_drop (List.mem_of_mem_take member)

theorem returned_eq : visit.returned = visit.streamed.getLast?.getD 0 :=
  apiLastId_eq _

theorem getLast?_streamed
    (nonzero : ∀ id ∈ visit.ids, id ≠ 0) :
    visit.streamed.getLast? =
      if visit.returned = 0 then none else some visit.returned := by
  rw [returned_eq]
  cases last : visit.streamed.getLast? with
  | none => rfl
  | some id =>
      have isNonzero :=
        nonzero id (mem_ids_of_streamed (List.mem_of_getLast? last))
      exact (if_neg isNonzero).symm

end CatalogVisit

/-! ## Whole listings are pagings -/

section

variable {limit : UInt16}

/-- A listing is its first call alone, or that call and the listing that
continues it in a changed catalog. -/
theorem catalogListing_cases
    (catalog : CatalogPool) (afterId : UInt64)
    (changes : List CatalogCall) (rest : List (List CatalogCall)) :
    let visit : CatalogVisit := ⟨catalog, ⟨afterId, limit⟩⟩
    visit.returned = 0 ∧
        catalogListing limit catalog afterId (changes :: rest) = [visit] ∨
      visit.returned ≠ 0 ∧
      catalogListing limit catalog afterId (changes :: rest) =
        visit ::
          catalogListing limit
            (Run.final CatalogPool.call catalog changes) visit.returned
            rest := by
  intro visit
  by_cases isZero : visit.returned = 0
  · exact Or.inl ⟨isZero, congrArg (visit :: ·) (if_pos isZero)⟩
  · exact Or.inr ⟨isZero, congrArg (visit :: ·) (if_neg isZero)⟩

variable {catalog : CatalogPool}

theorem final_wellKept
    (kept : catalog.WellKept)
    (calls : List CatalogCall) :
    (Run.final CatalogPool.call catalog calls).WellKept := by
  refine Run.final_invariant CatalogPool.WellKept kept ?_ calls
  intro reached call reachedKept
  exact (reachedKept.call call).1

theorem catalogListing_wellKept
    (kept : catalog.WellKept) (afterId : UInt64)
    (rounds : List (List CatalogCall)) :
    ∀ visit ∈ catalogListing limit catalog afterId rounds,
      visit.catalog.WellKept ∧ visit.cursor.limit = limit := by
  induction rounds generalizing catalog afterId with
  | nil =>
      intro visit member
      rw [List.mem_singleton.mp member]
      exact ⟨kept, rfl⟩
  | cons changes rest induction =>
      intro visit member
      rcases catalogListing_cases catalog afterId changes rest with
        ⟨_, isListing⟩ | ⟨_, isListing⟩
      · rw [isListing] at member
        rw [List.mem_singleton.mp member]
        exact ⟨kept, rfl⟩
      · rw [isListing] at member
        rcases List.mem_cons.mp member with rfl | later
        · exact ⟨kept, rfl⟩
        · exact induction (final_wellKept kept changes) _ visit later

theorem catalogListing_continues
    (catalog : CatalogPool) (afterId : UInt64)
    (rounds : List (List CatalogCall))
    (nonzero :
      ∀ visit ∈ catalogListing limit catalog afterId rounds,
        ∀ id ∈ visit.ids, id ≠ 0) :
    Paging.Continues afterId
      ((catalogListing limit catalog afterId rounds).map
        CatalogVisit.request) := by
  induction rounds generalizing catalog afterId with
  | nil =>
      refine ⟨rfl, ?_⟩
      split <;> trivial
  | cons changes rest induction =>
      rcases catalogListing_cases catalog afterId changes rest with
        ⟨_, isListing⟩ | ⟨goesOn, isListing⟩
      · rw [isListing]
        refine ⟨rfl, ?_⟩
        split <;> trivial
      · rw [isListing] at nonzero ⊢
        have last :
            (CatalogVisit.request
                ⟨catalog, ⟨afterId, limit⟩⟩).answer.getLast? = _ :=
          CatalogVisit.getLast?_streamed (nonzero _ (List.mem_cons_self ..))
        refine ⟨rfl, ?_⟩
        rw [last, if_neg goesOn]
        exact
          induction _ _ fun visit member =>
            nonzero visit (List.mem_cons_of_mem _ member)

/-- The first call of a listing that streams increasing identifiers after its
cursor has kept it. -/
theorem cursorKept_of_head
    {visit : CatalogVisit} {rest : List CatalogVisit}
    (kept : visit.catalog.WellKept)
    (positive : 0 < visit.cursor.limit.toNat)
    (increasing :
      (visit.cursor.afterId :: listedIds (visit :: rest)).Pairwise (· < ·)) :
    visit.CursorKept := by
  refine CatalogVisit.cursorKept_of_later kept positive ?_
  intro id streamed
  exact List.rel_of_pairwise_cons increasing (List.mem_append_left _ streamed)

theorem cursorKept_of_increasing
    (kept : catalog.WellKept)
    (positive : 1 ≤ limit) (afterId : UInt64)
    (rounds : List (List CatalogCall))
    (nonzero :
      ∀ visit ∈ catalogListing limit catalog afterId rounds,
        ∀ id ∈ visit.ids, id ≠ 0)
    (increasing :
      (afterId ::
          listedIds (catalogListing limit catalog afterId rounds)).Pairwise
        (· < ·)) :
    ∀ visit ∈ catalogListing limit catalog afterId rounds,
      visit.CursorKept := by
  have room : 0 < limit.toNat := UInt16.le_iff_toNat_le.mp positive
  induction rounds generalizing catalog afterId with
  | nil =>
      intro visit member
      rw [List.mem_singleton.mp member]
      exact cursorKept_of_head kept room increasing
  | cons changes rest induction =>
      intro visit member
      rcases catalogListing_cases catalog afterId changes rest with
        ⟨_, isListing⟩ | ⟨goesOn, isListing⟩
      · rw [isListing] at increasing member
        rw [List.mem_singleton.mp member]
        exact cursorKept_of_head kept room increasing
      · rw [isListing] at nonzero increasing member
        rcases List.mem_cons.mp member with rfl | inRest
        · exact cursorKept_of_head kept room increasing
        · refine
            induction (final_wellKept kept changes) _
              (fun other otherMember =>
                nonzero other (List.mem_cons_of_mem _ otherMember))
              ?_ visit inRest
          have last :=
            CatalogVisit.getLast?_streamed (nonzero _ (List.mem_cons_self ..))
          rw [if_neg goesOn] at last
          rcases List.getLast?_eq_some_iff.mp last with ⟨initial, split⟩
          have whole := increasing.of_cons
          rw [listedIds, List.flatMap_cons, split, ← List.append_cons] at whole
          exact (List.pairwise_append.mp whole).2.1

end

theorem stableListing_of_cursorKept
    {catalog : CatalogPool} (kept : catalog.WellKept) {limit : UInt16}
    (positive : 1 ≤ limit) (rounds : List (List CatalogCall))
    (nonzero :
      ∀ visit ∈ catalogListing limit catalog 0 rounds, ∀ id ∈ visit.ids, id ≠ 0)
    (cursorKept :
      ∀ visit ∈ catalogListing limit catalog 0 rounds, visit.CursorKept) :
    StableListing (catalogListing limit catalog 0 rounds) := by
  have continues := catalogListing_continues _ 0 rounds nonzero
  have wellKept :
      ∀ visit ∈ catalogListing limit catalog 0 rounds,
        visit.catalog.WellKept ∧ visit.cursor.limit = limit :=
    catalogListing_wellKept kept 0 rounds
  generalize catalogListing limit catalog 0 rounds = visits at *
  have answered :
      ∀ request ∈ visits.map CatalogVisit.request,
        request.Answered limit.toNat := by
    intro request member
    rcases List.mem_map.mp member with ⟨visit, inVisits, rfl⟩
    have next :=
      (cursorKept visit inVisits).answered (wellKept visit inVisits).1
        (nonzero visit inVisits)
    rwa [(wellKept visit inVisits).2] at next
  have sorted :
      ∀ request ∈ visits.map CatalogVisit.request,
        request.keys.Pairwise (· < ·) := by
    intro request member
    rcases List.mem_map.mp member with ⟨visit, inVisits, rfl⟩
    exact CatalogVisit.sorted_ids (wellKept visit inVisits).1
  have isListed :
      Paging.emitted (visits.map CatalogVisit.request) = listedIds visits :=
    List.flatMap_map ..
  have increasing := continues.increasing answered sorted
  refine ⟨isListed ▸ increasing.of_cons, ?_⟩
  rintro ⟨last, inVisits, isZero⟩ id present
  have nothing : last.streamed = [] := by
    have noLast := CatalogVisit.getLast?_streamed (nonzero last inVisits)
    rw [if_pos isZero] at noLast
    exact List.getLast?_eq_none_iff.mp noLast
  have isNonzero := nonzero last inVisits id (present last inVisits)
  rw [← isListed]
  refine
    continues.complete (UInt16.le_iff_toNat_le.mp positive) answered
      sorted ?_ (UInt64.pos_iff_ne_zero.mpr isNonzero) ?_
  · exact ⟨_, List.mem_map_of_mem inVisits, nothing⟩
  · intro request member
    rcases List.mem_map.mp member with ⟨visit, visited, rfl⟩
    exact present visit visited

/--
A listing of the catalog is stable, whatever is inserted and removed between
its calls, exactly if at each call the record of the cursor is still in the
catalog or no record with a smaller identifier is.
-/
theorem listing_stable_iff
    (built : List CatalogCall) (limit : UInt16) (positive : 1 ≤ limit)
    (rounds : List (List CatalogCall))
    (nonzero :
      ∀ visit ∈
          catalogListing limit
            (Run.final CatalogPool.call .init built) 0 rounds,
        ∀ id ∈ visit.ids, id ≠ 0) :
    let visits :=
      catalogListing limit (Run.final CatalogPool.call .init built) 0 rounds
    StableListing visits ↔ ∀ visit ∈ visits, visit.CursorKept := by
  intro visits
  have kept := final_wellKept CatalogPool.init_wellKept built
  constructor
  · rintro ⟨increasing, _⟩
    refine cursorKept_of_increasing kept positive 0 rounds nonzero ?_
    refine List.pairwise_cons.mpr ⟨?_, increasing⟩
    intro id member
    rcases List.mem_flatMap.mp member with ⟨visit, inVisits, streamed⟩
    exact
      UInt64.pos_iff_ne_zero.mpr
        (nonzero visit inVisits id (CatalogVisit.mem_ids_of_streamed streamed))
  · exact stableListing_of_cursorKept kept positive rounds nonzero

def threeRecords : List CatalogCall :=
  [.insert { ResourceRecord.zero with id := 1 },
    .insert { ResourceRecord.zero with id := 2 },
    .insert { ResourceRecord.zero with id := 3 }]

theorem ids_nonzero_of_all {visits : List CatalogVisit}
    (all : (visits.all fun visit => visit.ids.all fun id => id ≠ 0) = true) :
    ∀ visit ∈ visits, ∀ id ∈ visit.ids, id ≠ 0 := by
  intro visit inVisits id member
  have nonzero := List.all_eq_true.mp all visit inVisits
  exact of_decide_eq_true (List.all_eq_true.mp nonzero id member)

/-- The record behind the cursor is removed while the cursor's stays. -/
theorem listing_stable_other_removed :
    StableListing
      (catalogListing 2 (Run.final CatalogPool.call .init threeRecords) 0
        [[.remove 1], []]) :=
  (listing_stable_iff threeRecords 2 (by decide) [[.remove 1], []]
      (ids_nonzero_of_all (by decide +kernel))).mpr
    (by decide +kernel)

/-- The record of the cursor is removed: pages of two stream 1 and 2, then,
once 2 is gone, 1 and 3. -/
theorem listing_restarts :
    let visits :=
      catalogListing 2 (Run.final CatalogPool.call .init threeRecords) 0
        [[.remove 2], []]
    listedIds visits = [1, 2, 1, 3] ∧ ListingEnded visits ∧
    (∀ visit ∈ visits, ∀ id ∈ visit.ids, id ≠ 0) ∧
    ¬ StableListing visits := by
  intro visits
  have listed : listedIds visits = [1, 2, 1, 3] := by decide +kernel
  refine ⟨listed, ?_, ids_nonzero_of_all (by decide +kernel), ?_⟩
  · exact ⟨visits.getLast (by decide +kernel), List.getLast_mem _,
      by decide +kernel⟩
  · rintro ⟨increasing, _⟩
    rw [listed] at increasing
    revert increasing
    decide

end Endap.V3
