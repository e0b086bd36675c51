import Endap.Library.ArrayList
import Endap.Library.BinarySearch
import Endap.Library.FiniteMap
import Endap.Library.Run

/-!
# The resource catalog

The catalog keeps the records of the installation's resources in one array,
in increasing order of their 64-bit identifiers.  Records are found by binary
search; an insertion or a removal moves the records behind it by one cell.

Seen from outside the array is a finite map from identifiers to records of at
most `V3_CATALOG_MAX_RESOURCES` keys.  Every operation does to the map what
its name says, and the enumerating operations list it in the order of the
identifiers.
-/

namespace Endap.V3

open Endap.Library

/-! ## Records -/

def v3CatalogMaxResources : Nat := 1024

/-- `resource_record_t`; the key is the union read as one number. -/
structure ResourceRecord where
  id : UInt64
  key : UInt64
  lastSeenTick : UInt32
  status : UInt16
  syncFlags : UInt16
  desiredState : UInt32
  reportedState : UInt32
deriving DecidableEq

/-- A record of zero bytes. -/
def ResourceRecord.zero : ResourceRecord where
  id := 0
  key := 0
  lastSeenTick := 0
  status := 0
  syncFlags := 0
  desiredState := 0
  reportedState := 0

/-- The assignment of `update_desired`. -/
def ResourceRecord.withDesired (desired : UInt32)
    (record : ResourceRecord) : ResourceRecord :=
  { record with desiredState := desired }

/-- The assignment of `update_reported`. -/
def ResourceRecord.withReported (reported : UInt32)
    (record : ResourceRecord) : ResourceRecord :=
  { record with reportedState := reported }

instance linearOrderUInt64 : LinearOrder UInt64 where
  le_refl _ := UInt64.le_refl _
  le_trans _ _ _ := UInt64.le_trans
  lt_iff_le_not_ge _ _ := by
    simp only [UInt64.lt_iff_toNat_lt, UInt64.le_iff_toNat_le]
    omega
  le_antisymm _ _ := UInt64.le_antisymm
  le_total := UInt64.le_total
  toDecidableLE := inferInstance
  toDecidableEq := inferInstance
  toDecidableLT := inferInstance

/-! ## The pool -/

/-- The static state of `v3_catalog.c`. -/
structure CatalogPool where
  pool : Nat → ResourceRecord
  count : Nat

namespace CatalogPool

/-- The pool at the start of the program. -/
def init : CatalogPool where
  pool := fun _ => .zero
  count := 0

variable (catalog : CatalogPool)

/-- The loop of both searches. -/
def search (id : UInt64) : BinarySearch.Search :=
  BinarySearch.run (fun index => (catalog.pool index).id) catalog.count id

def findIndex (id : UInt64) : Int :=
  match (catalog.search id).found with
  | some index => index
  | none => -1

def findInsertionIndex (id : UInt64) : Int :=
  match (catalog.search id).found with
  | some index => index
  | none => (catalog.search id).low

def insert (record : ResourceRecord) : CatalogPool × Bool :=
  let index := catalog.findInsertionIndex record.id
  if index < catalog.count ∧
      (catalog.pool index.toNat).id = record.id then
    ({ catalog with
        pool := Function.update catalog.pool index.toNat record },
      true)
  else if catalog.count ≥ v3CatalogMaxResources then (catalog, false)
  else
    let moved :=
      if index < catalog.count then
        ArrayList.moveCells catalog.pool (index.toNat + 1) index.toNat
          (catalog.count - index.toNat)
      else catalog.pool
    ({ pool := Function.update moved index.toNat record
       count := catalog.count + 1 },
      true)

def find (id : UInt64) : Option ResourceRecord :=
  let index := catalog.findIndex id
  if index = -1 then none else some (catalog.pool index.toNat)

def getByIndex (index : Nat) : Option ResourceRecord :=
  if index ≥ catalog.count then none else some (catalog.pool index)

/-- What `update_desired` and `update_reported` have in common. -/
def update (id : UInt64) (change : ResourceRecord → ResourceRecord) :
    CatalogPool × Bool :=
  let index := catalog.findIndex id
  if index = -1 then (catalog, false)
  else
    ({ catalog with
        pool :=
          Function.update catalog.pool index.toNat
            (change (catalog.pool index.toNat)) },
      true)

def updateDesired (id : UInt64) (desired : UInt32) : CatalogPool × Bool :=
  catalog.update id (ResourceRecord.withDesired desired)

def updateReported (id : UInt64) (reported : UInt32) : CatalogPool × Bool :=
  catalog.update id (ResourceRecord.withReported reported)

def removeRecord (id : UInt64) : CatalogPool × Bool :=
  let index := catalog.findIndex id
  if index = -1 then (catalog, false)
  else
    let moved :=
      if index < (catalog.count : Int) - 1 then
        ArrayList.moveCells catalog.pool index.toNat (index.toNat + 1)
          (catalog.count - index.toNat - 1)
      else catalog.pool
    ({ pool := moved, count := catalog.count - 1 }, true)

def size : Nat := catalog.count

/-- The records in use, first to last. -/
def records : List ResourceRecord := ArrayList.listed catalog.pool catalog.count

/-- `snapshot`, what it copies into an array with the given room; `none` when
it is given a null pointer and returns false. -/
def snapshot (room : Option Nat) : Option (List ResourceRecord) :=
  room.map fun capacity =>
    ArrayList.listed catalog.pool
      (if capacity < catalog.count then capacity else catalog.count)

end CatalogPool

/-! ## Calls -/

/-- A call of the default backend. -/
inductive CatalogCall where
  | insert (record : ResourceRecord)
  | find (id : UInt64)
  | getByIndex (index : Nat)
  | updateDesired (id : UInt64) (desired : UInt32)
  | updateReported (id : UInt64) (reported : UInt32)
  | remove (id : UInt64)
  | size
  | snapshot (room : Option Nat)

/-- What a call returns. -/
inductive CatalogReply where
  | done (ok : Bool)
  | record (found : Option ResourceRecord)
  | number (count : Nat)
  | copied (records : Option (List ResourceRecord))

/-- The effect of a call. -/
def CatalogPool.call (catalog : CatalogPool) :
    CatalogCall → CatalogPool × CatalogReply
  | .insert record => Prod.map id .done (catalog.insert record)
  | .find wanted => (catalog, .record (catalog.find wanted))
  | .getByIndex index => (catalog, .record (catalog.getByIndex index))
  | .updateDesired wanted desired =>
      Prod.map id .done (catalog.updateDesired wanted desired)
  | .updateReported wanted reported =>
      Prod.map id .done (catalog.updateReported wanted reported)
  | .remove wanted => Prod.map id .done (catalog.removeRecord wanted)
  | .size => (catalog, .number catalog.size)
  | .snapshot room => (catalog, .copied (catalog.snapshot room))

/-! ## The map that the catalog is -/

/-- A finite map from identifiers to records. -/
abbrev ResourceMap : Type := FiniteMap UInt64 ResourceRecord

/-- What each call does to the map. -/
def ResourceMap.call (map : ResourceMap) :
    CatalogCall → ResourceMap × CatalogReply
  | .insert record =>
      if record.id ∉ map.domain ∧
          map.domain.card = v3CatalogMaxResources then
        (map, .done false)
      else (FiniteMap.insert map record.id record, .done true)
  | .find wanted => (map, .record (map.record wanted))
  | .getByIndex index => (map, .record (FiniteMap.enumerate map)[index]?)
  | .updateDesired wanted desired =>
      (FiniteMap.modify map wanted (ResourceRecord.withDesired desired),
        .done (wanted ∈ map.domain))
  | .updateReported wanted reported =>
      (FiniteMap.modify map wanted (ResourceRecord.withReported reported),
        .done (wanted ∈ map.domain))
  | .remove wanted =>
      (FiniteMap.erase map wanted, .done (wanted ∈ map.domain))
  | .size => (map, .number map.domain.card)
  | .snapshot room =>
      (map, .copied (room.map (FiniteMap.enumerate map).take))

/-- The map in the pool. -/
def CatalogPool.toMap (catalog : CatalogPool) : ResourceMap :=
  FiniteMap.ofList ResourceRecord.id catalog.records

/-- The pool is strictly increasing and fits in its array. -/
structure CatalogPool.WellKept (catalog : CatalogPool) : Prop where
  increasing : FiniteMap.Sorted ResourceRecord.id catalog.records
  fits : catalog.count ≤ v3CatalogMaxResources

namespace CatalogPool

/-! ## What the searches find -/

variable {catalog : CatalogPool}

variable {index : Nat}

theorem records_around (inside : index < catalog.count) :
    catalog.records =
      catalog.records.take index ++
        catalog.pool index :: catalog.records.drop (index + 1) :=
  ArrayList.listed_around catalog.pool inside

theorem WellKept.keys_increase (kept : catalog.WellKept) :
    BinarySearch.Increasing (fun index => (catalog.pool index).id)
      catalog.count := by
  intro first second before inside
  have insideFirst : first < catalog.records.length := by
    rw [records, ArrayList.listed_length]
    exact Nat.lt_trans before inside
  have insideSecond : second < catalog.records.length := by
    rw [records, ArrayList.listed_length]
    exact inside
  have ordered :=
    List.pairwise_iff_getElem.mp kept.increasing first second insideFirst
      insideSecond before
  simpa [records, ArrayList.listed] using ordered

/-- The place of an identifier in the pool, or where it belongs. -/
inductive Place (catalog : CatalogPool) (id : UInt64) : Prop where
  | held (index : Nat) (inside : index < catalog.count)
      (isId : (catalog.pool index).id = id)
      (found : catalog.findIndex id = index)
      (insertion : catalog.findInsertionIndex id = index)
  | absent (index : Nat)
      (belongs :
        BinarySearch.BelongsAt (fun index => (catalog.pool index).id)
          catalog.count id index)
      (missing : catalog.findIndex id = -1)
      (insertion : catalog.findInsertionIndex id = index)

theorem WellKept.place (kept : catalog.WellKept) (id : UInt64) :
    catalog.Place id := by
  cases BinarySearch.run_outcome kept.keys_increase id with
  | found index inside isId result =>
      refine .held index inside isId ?_ ?_
      · rw [findIndex, search, result]
      · rw [findInsertionIndex, search, result]
  | missing index belongs result low =>
      refine .absent index belongs ?_ ?_
      · rw [findIndex, search, result]
      · rw [findInsertionIndex, search, result]
        exact low

theorem WellKept.id_ne
    (kept : catalog.WellKept) {first second : Nat}
    (insideFirst : first < catalog.count)
    (insideSecond : second < catalog.count) (different : first ≠ second) :
    (catalog.pool first).id ≠ (catalog.pool second).id := by
  rcases Nat.lt_or_gt_of_ne different with before | after
  · exact ne_of_lt (kept.keys_increase first second before insideSecond)
  · exact ne_of_gt (kept.keys_increase second first after insideFirst)

theorem WellKept.findIndex_at
    (kept : catalog.WellKept)
    (inside : index < catalog.count) :
    catalog.findIndex (catalog.pool index).id = index := by
  cases kept.place (catalog.pool index).id with
  | held other otherInside isId found _ =>
      have same : other = index := by
        by_contra different
        exact kept.id_ne otherInside inside different isId
      rw [found, same]
  | absent _ belongs _ _ => exact (belongs.missing inside rfl).elim

theorem WellKept.record_at
    (kept : catalog.WellKept) (inside : index < catalog.count) :
    catalog.toMap.record (catalog.pool index).id = some (catalog.pool index) :=
  kept.increasing.record_iff.mpr
    ⟨ArrayList.mem_listed.mpr ⟨index, inside, rfl⟩, rfl⟩

theorem WellKept.mem_at
    (kept : catalog.WellKept) (inside : index < catalog.count) :
    (catalog.pool index).id ∈ catalog.toMap.domain := by
  rw [catalog.toMap.known, kept.record_at inside]
  rfl

theorem WellKept.record_missing
    (kept : catalog.WellKept) {id : UInt64}
    (belongs :
      BinarySearch.BelongsAt (fun index => (catalog.pool index).id)
        catalog.count id index) :
    catalog.toMap.record id = none := by
  apply kept.increasing.record_none
  intro record member
  rcases ArrayList.mem_listed.mp member with ⟨position, inside, rfl⟩
  exact belongs.missing inside

theorem WellKept.not_mem_missing
    (kept : catalog.WellKept) {id : UInt64}
    (belongs :
      BinarySearch.BelongsAt (fun index => (catalog.pool index).id)
        catalog.count id index) :
    id ∉ catalog.toMap.domain := by
  rw [catalog.toMap.known, kept.record_missing belongs]
  exact Bool.false_ne_true

theorem WellKept.card (kept : catalog.WellKept) :
    catalog.toMap.domain.card = catalog.count := by
  rw [toMap, kept.increasing.card, records, ArrayList.listed_length]

variable {record : ResourceRecord}

theorem WellKept.sorted_insert
    (kept : catalog.WellKept)
    (belongs :
      BinarySearch.BelongsAt (fun index => (catalog.pool index).id)
        catalog.count record.id index) :
    FiniteMap.Sorted ResourceRecord.id
      (catalog.records.take index ++
        record :: catalog.records.drop index) := by
  have whole := kept.increasing
  rw [← List.take_append_drop index catalog.records, FiniteMap.Sorted,
    List.pairwise_append] at whole
  rcases whole with ⟨beforeSorted, afterSorted, apart⟩
  rw [FiniteMap.Sorted, List.pairwise_append, List.pairwise_cons]
  refine ⟨beforeSorted, ⟨?_, afterSorted⟩, ?_⟩
  · intro later member
    rcases ArrayList.mem_listed_drop member with
      ⟨position, after, inside, rfl⟩
    exact belongs.above position after inside
  · intro earlier inBefore other member
    rcases List.mem_cons.mp member with rfl | inAfter
    · rcases ArrayList.mem_listed_take inBefore with
        ⟨position, before, rfl⟩
      exact belongs.below position before
    · exact apart earlier inBefore other inAfter

/-! ## One call -/

theorem records_update
    (inside : index < catalog.count)
    (record : ResourceRecord) :
    records { catalog with pool := Function.update catalog.pool index record } =
      catalog.records.take index ++
        record :: catalog.records.drop (index + 1) :=
  ArrayList.listed_update catalog.pool inside record

theorem WellKept.update_at
    (kept : catalog.WellKept) (inside : index < catalog.count)
    (sameId : record.id = (catalog.pool index).id) :
    let after : CatalogPool :=
      { catalog with pool := Function.update catalog.pool index record }
    after.WellKept ∧
    after.toMap = catalog.toMap.insert record.id record := by
  intro after
  have sorted := kept.increasing
  rw [records_around inside] at sorted
  have afterRecords := records_update inside record
  refine ⟨⟨?_, kept.fits⟩, ?_⟩
  · rw [afterRecords]
    exact sorted.replace sameId
  · rw [toMap, afterRecords, sorted.ofList_replace sameId,
      ← records_around inside]
    rfl

/-- What `insert` can do. -/
inductive Inserted (catalog : CatalogPool) (record : ResourceRecord) :
    CatalogPool × Bool → Prop where
  | replaced (index : Nat) (inside : index < catalog.count)
      (isId : (catalog.pool index).id = record.id) :
      Inserted catalog record
        ({ catalog with
            pool := Function.update catalog.pool index record },
          true)
  | refused (index : Nat)
      (belongs :
        BinarySearch.BelongsAt (fun index => (catalog.pool index).id)
          catalog.count record.id index)
      (full : catalog.count = v3CatalogMaxResources) :
      Inserted catalog record (catalog, false)
  | added (index : Nat)
      (belongs :
        BinarySearch.BelongsAt (fun index => (catalog.pool index).id)
          catalog.count record.id index)
      (room : catalog.count < v3CatalogMaxResources) :
      Inserted catalog record
        ({ pool :=
            Function.update
              (ArrayList.moveCells catalog.pool (index + 1) index
                (catalog.count - index))
              index record
           count := catalog.count + 1 },
          true)

theorem WellKept.inserted
    (kept : catalog.WellKept) (record : ResourceRecord) :
    Inserted catalog record (catalog.insert record) := by
  cases kept.place record.id with
  | held index inside isId found insertion =>
      have replaced :
          catalog.insert record =
            ({ catalog with
                pool := Function.update catalog.pool index record },
              true) := by
        rw [CatalogPool.insert, insertion]
        simp [inside, isId]
      rw [replaced]
      exact .replaced index inside isId
  | absent index belongs missing insertion =>
      have notThere :
          ¬ ((index : Int) < catalog.count ∧
          (catalog.pool (index : Int).toNat).id = record.id) := by
        rintro ⟨inside, isId⟩
        exact belongs.missing (Int.ofNat_lt.mp inside) isId
      by_cases full : catalog.count ≥ v3CatalogMaxResources
      · rw [CatalogPool.insert, insertion, if_neg notThere, if_pos full]
        exact .refused index belongs (Nat.le_antisymm kept.fits full)
      · have moved :
            (if (index : Int) < catalog.count then
                ArrayList.moveCells catalog.pool (index + 1) index
                  (catalog.count - index)
              else catalog.pool) =
              ArrayList.moveCells catalog.pool (index + 1) index
                (catalog.count - index) := by
          split
          · rfl
          · next outside =>
              funext position
              rw [ArrayList.moveCells, if_neg (by omega)]
        rw [CatalogPool.insert, insertion, if_neg notThere, if_neg full,
          Int.toNat_natCast, moved]
        exact .added index belongs (Nat.lt_of_not_le full)

theorem WellKept.insert
    (kept : catalog.WellKept) (record : ResourceRecord) :
    (catalog.insert record).1.WellKept ∧
    Prod.map toMap CatalogReply.done (catalog.insert record) =
      ResourceMap.call catalog.toMap (.insert record) := by
  have possible := kept.inserted record
  generalize catalog.insert record = result at possible ⊢
  cases possible with
  | replaced index inside isId =>
      have present : record.id ∈ catalog.toMap.domain := by
        rw [← isId]
        exact kept.mem_at inside
      rcases kept.update_at inside isId.symm with ⟨keptAfter, mapAfter⟩
      rw [ResourceMap.call, if_neg (fun full => full.1 present)]
      exact ⟨keptAfter, congrArg₂ Prod.mk mapAfter rfl⟩
  | refused index belongs full =>
      rw [ResourceMap.call, kept.card,
        if_pos ⟨kept.not_mem_missing belongs, full⟩]
      exact ⟨kept, rfl⟩
  | added index belongs room =>
      have afterRecords :=
        ArrayList.listed_insert catalog.pool belongs.inside record
      have sorted := kept.sorted_insert belongs
      rw [ResourceMap.call, kept.card,
        if_neg (fun refused => Nat.ne_of_lt room refused.2)]
      refine ⟨⟨?_, room⟩, congrArg₂ Prod.mk ?_ rfl⟩
      · rw [records, afterRecords]
        exact sorted
      · rw [toMap, records, afterRecords, ← records,
          sorted.ofList_insert, List.take_append_drop]
        rfl

/-- What an update can do. -/
inductive Updated (catalog : CatalogPool) (id : UInt64)
    (change : ResourceRecord → ResourceRecord) :
    CatalogPool × Bool → Prop where
  | changed (index : Nat) (inside : index < catalog.count)
      (isId : (catalog.pool index).id = id) :
      Updated catalog id change
        ({ catalog with
            pool :=
              Function.update catalog.pool index
                (change (catalog.pool index)) },
          true)
  | refused (index : Nat)
      (belongs :
        BinarySearch.BelongsAt (fun index => (catalog.pool index).id)
          catalog.count id index) :
      Updated catalog id change (catalog, false)

theorem WellKept.updated
    (kept : catalog.WellKept) (id : UInt64)
    (change : ResourceRecord → ResourceRecord) :
    Updated catalog id change (catalog.update id change) := by
  cases kept.place id with
  | held index inside isId found insertion =>
      rw [CatalogPool.update, found, if_neg (by omega)]
      exact .changed index inside isId
  | absent index belongs missing insertion =>
      rw [CatalogPool.update, missing, if_pos rfl]
      exact .refused index belongs

theorem WellKept.update
    (kept : catalog.WellKept) (id : UInt64)
    {change : ResourceRecord → ResourceRecord}
    (sameId : ∀ record, (change record).id = record.id) :
    (catalog.update id change).1.WellKept ∧
    Prod.map toMap CatalogReply.done (catalog.update id change) =
      (catalog.toMap.modify id change,
        .done (id ∈ catalog.toMap.domain)) := by
  have possible := kept.updated id change
  generalize catalog.update id change = result at possible ⊢
  cases possible with
  | changed index inside isId =>
      subst isId
      have present := kept.record_at inside
      have known := kept.mem_at inside
      rcases kept.update_at inside (sameId (catalog.pool index)) with
        ⟨keptAfter, mapAfter⟩
      rw [FiniteMap.modify_present present, decide_eq_true known]
      refine ⟨keptAfter, congrArg₂ Prod.mk ?_ rfl⟩
      rw [← sameId (catalog.pool index)]
      exact mapAfter
  | refused index belongs =>
      have absent := kept.not_mem_missing belongs
      rw [FiniteMap.modify_missing (kept.record_missing belongs),
        decide_eq_false absent]
      exact ⟨kept, rfl⟩

/-- What `remove_record` can do. -/
inductive Removed (catalog : CatalogPool) (id : UInt64) :
    CatalogPool × Bool → Prop where
  | removed (index : Nat) (inside : index < catalog.count)
      (isId : (catalog.pool index).id = id) :
      Removed catalog id
        ({ pool :=
            ArrayList.moveCells catalog.pool index (index + 1)
              (catalog.count - index - 1)
           count := catalog.count - 1 },
          true)
  | refused (index : Nat)
      (belongs :
        BinarySearch.BelongsAt (fun index => (catalog.pool index).id)
          catalog.count id index) :
      Removed catalog id (catalog, false)

theorem WellKept.removed (kept : catalog.WellKept) (id : UInt64) :
    Removed catalog id (catalog.removeRecord id) := by
  cases kept.place id with
  | held index inside isId found insertion =>
      have moved :
          (if (index : Int) < (catalog.count : Int) - 1 then
              ArrayList.moveCells catalog.pool index (index + 1)
                (catalog.count - index - 1)
            else catalog.pool) =
            ArrayList.moveCells catalog.pool index (index + 1)
              (catalog.count - index - 1) := by
        split
        · rfl
        · next last =>
            funext position
            rw [ArrayList.moveCells, if_neg (by omega)]
      rw [CatalogPool.removeRecord, found, if_neg (by omega),
        Int.toNat_natCast, moved]
      exact .removed index inside isId
  | absent index belongs missing insertion =>
      rw [CatalogPool.removeRecord, missing, if_pos rfl]
      exact .refused index belongs

theorem WellKept.removeRecord (kept : catalog.WellKept) (id : UInt64) :
    (catalog.removeRecord id).1.WellKept ∧
    Prod.map toMap CatalogReply.done (catalog.removeRecord id) =
      ResourceMap.call catalog.toMap (.remove id) := by
  have possible := kept.removed id
  generalize catalog.removeRecord id = result at possible ⊢
  cases possible with
  | removed index inside isId =>
      subst isId
      have known := kept.mem_at inside
      have sorted := kept.increasing
      rw [records_around inside] at sorted
      have afterRecords := ArrayList.listed_remove catalog.pool inside
      rw [ResourceMap.call, decide_eq_true known]
      refine
        ⟨⟨?_, Nat.le_trans (Nat.sub_le _ _) kept.fits⟩,
          congrArg₂ Prod.mk ?_ rfl⟩
      · rw [records, afterRecords]
        exact sorted.of_around
      · rw [toMap, records, afterRecords, ← records, sorted.ofList_erase,
          ← records_around inside]
        rfl
  | refused index belongs =>
      have absent := kept.not_mem_missing belongs
      rw [ResourceMap.call,
        FiniteMap.erase_missing (kept.record_missing belongs),
        decide_eq_false absent]
      exact ⟨kept, rfl⟩

theorem WellKept.find (kept : catalog.WellKept) (id : UInt64) :
    catalog.find id = catalog.toMap.record id := by
  cases kept.place id with
  | held index inside isId found insertion =>
      subst isId
      rw [CatalogPool.find, found, if_neg (by omega), kept.record_at inside]
      rfl
  | absent index belongs missing insertion =>
      rw [CatalogPool.find, missing, if_pos rfl, kept.record_missing belongs]

theorem WellKept.enumerate (kept : catalog.WellKept) :
    catalog.toMap.enumerate = catalog.records :=
  kept.increasing.enumerate_eq

theorem getByIndex_eq_some_iff :
    catalog.getByIndex index = some record ↔
    index < catalog.count ∧ catalog.pool index = record := by
  rw [getByIndex]
  split
  · next outside =>
      refine iff_of_false nofun ?_
      exact fun inside => Nat.not_lt.mpr outside inside.1
  · next inside =>
      rw [Option.some.injEq]
      exact (and_iff_right (Nat.not_le.mp inside)).symm

theorem getByIndex_eq (index : Nat) :
    catalog.getByIndex index = catalog.records[index]? := by
  rw [getByIndex, records, ArrayList.listed_getElem?]
  by_cases inside : index < catalog.count
  · rw [if_neg (Nat.not_le_of_lt inside), if_pos inside]
  · rw [if_pos (Nat.le_of_not_lt inside), if_neg inside]

theorem snapshot_eq (room : Option Nat) :
    catalog.snapshot room = room.map catalog.records.take := by
  cases room with
  | none => rfl
  | some capacity =>
      refine congrArg some ?_
      simp only [records, ArrayList.listed]
      rw [← List.map_take, List.take_range]
      refine congrArg (fun count => (List.range count).map _) ?_
      split
      · next less => exact (Nat.min_eq_left (Nat.le_of_lt less)).symm
      · next enough =>
          exact (Nat.min_eq_right (Nat.le_of_not_lt enough)).symm

theorem WellKept.call (kept : catalog.WellKept) (call : CatalogCall) :
    (catalog.call call).1.WellKept ∧
    Prod.map toMap id (catalog.call call) =
      ResourceMap.call catalog.toMap call := by
  cases call with
  | insert record => exact kept.insert record
  | find wanted =>
      refine ⟨kept, congrArg₂ Prod.mk rfl ?_⟩
      exact congrArg CatalogReply.record (kept.find wanted)
  | getByIndex index =>
      refine ⟨kept, congrArg₂ Prod.mk rfl ?_⟩
      rw [kept.enumerate]
      exact congrArg CatalogReply.record (getByIndex_eq index)
  | updateDesired wanted desired =>
      exact kept.update wanted fun _ => rfl
  | updateReported wanted reported =>
      exact kept.update wanted fun _ => rfl
  | remove wanted => exact kept.removeRecord wanted
  | size =>
      refine ⟨kept, congrArg₂ Prod.mk rfl ?_⟩
      exact congrArg CatalogReply.number kept.card.symm
  | snapshot room =>
      refine ⟨kept, congrArg₂ Prod.mk rfl ?_⟩
      rw [kept.enumerate]
      exact congrArg CatalogReply.copied (snapshot_eq room)

theorem init_wellKept : init.WellKept where
  increasing := List.Pairwise.nil
  fits := Nat.zero_le _

theorem init_toMap : init.toMap = FiniteMap.empty := by
  ext wanted : 1
  rfl

end CatalogPool

/-! ## Runs -/

/--
Along every run of calls the pool is strictly increasing by identifier and
fits in its array, it holds exactly the map that the calls describe, and every
call returns what the map returns.
-/
theorem catalog_refines_map (calls : List CatalogCall) :
    let reached := Run.final CatalogPool.call CatalogPool.init calls
    reached.WellKept ∧
    reached.toMap = Run.final ResourceMap.call FiniteMap.empty calls ∧
    (Run.history CatalogPool.call CatalogPool.init calls).map
        Run.Transition.output =
      (Run.history ResourceMap.call FiniteMap.empty calls).map
        Run.Transition.output := by
  intro reached
  rw [← CatalogPool.init_toMap]
  exact
    Run.refines_along CatalogPool.WellKept
      (fun _ call kept => kept.call call) CatalogPool.init_wellKept calls

end Endap.V3
