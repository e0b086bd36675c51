import Mathlib.Data.Finset.Sort

/-!
# Finite maps and sorted lists

A finite map knows finitely many keys and holds one record for each.  A list
of records in increasing order of their keys represents the map that holds
its records; it is the enumeration of that map.
-/

namespace Endap.Library

/-- A finite map: the keys it knows and the record of each. -/
structure FiniteMap (Key Record : Type*) where
  domain : Finset Key
  record : Key → Option Record
  known : ∀ key, key ∈ domain ↔ (record key).isSome

namespace FiniteMap

variable {Key Record : Type*}

/-- A map is what it holds. -/
@[ext]
theorem ext
    {first second : FiniteMap Key Record}
    (same : ∀ key, first.record key = second.record key) :
    first = second := by
  have sameRecord : first.record = second.record := funext same
  have sameDomain : first.domain = second.domain := by
    ext key
    rw [first.known, second.known, sameRecord]
  cases first
  cases second
  cases sameRecord
  cases sameDomain
  rfl

/-- The map that knows no key. -/
def empty : FiniteMap Key Record where
  domain := ∅
  record := fun _ => none
  known := by simp

section

variable [DecidableEq Key]

/-- The map with one key set. -/
def insert (map : FiniteMap Key Record) (key : Key) (record : Record) :
    FiniteMap Key Record where
  domain := Insert.insert key map.domain
  record := Function.update map.record key (some record)
  known := by
    intro other
    rw [Finset.mem_insert, map.known, Function.update_apply]
    split
    · next same => simp [same]
    · next different => simp [different]

theorem insert_record
    (map : FiniteMap Key Record) (key other : Key) (record : Record) :
    (map.insert key record).record other =
      if other = key then some record else map.record other :=
  Function.update_apply _ _ _ _

/-- The map without one key. -/
def erase (map : FiniteMap Key Record) (key : Key) : FiniteMap Key Record where
  domain := map.domain.erase key
  record := Function.update map.record key none
  known := by
    intro other
    rw [Finset.mem_erase, map.known, Function.update_apply]
    split
    · next same => simp [same]
    · next different => simp [different]

def modify (map : FiniteMap Key Record) (key : Key)
    (change : Record → Record) : FiniteMap Key Record where
  domain := map.domain
  record := Function.update map.record key ((map.record key).map change)
  known := by
    intro other
    rw [map.known, Function.update_apply]
    split
    · next same => simp [same]
    · rfl

theorem erase_missing
    {map : FiniteMap Key Record} {key : Key}
    (missing : map.record key = none) : map.erase key = map := by
  ext other : 1
  simp only [erase]
  rw [← missing, Function.update_eq_self]

theorem modify_missing
    {map : FiniteMap Key Record} {key : Key}
    (missing : map.record key = none) (change : Record → Record) :
    map.modify key change = map := by
  ext other : 1
  simp only [modify]
  rw [missing, Option.map_none, ← missing, Function.update_eq_self]

theorem modify_present
    {map : FiniteMap Key Record} {key : Key} {record : Record}
    (present : map.record key = some record) (change : Record → Record) :
    map.modify key change = map.insert key (change record) := by
  ext other : 1
  simp only [modify, insert, present, Option.map_some]

/-- The map that holds the records of a list. -/
def ofList (key : Record → Key) (records : List Record) :
    FiniteMap Key Record where
  domain := (records.map key).toFinset
  record := fun wanted => records.find? fun record => key record = wanted
  known := by
    intro wanted
    simp [List.find?_isSome]

end

/-- The records in increasing order of their keys. -/
def enumerate [LinearOrder Key] (map : FiniteMap Key Record) : List Record :=
  (map.domain.sort (· ≤ ·)).filterMap map.record

/-! ## Sorted lists -/

/-- The keys of the records increase. -/
def Sorted [LinearOrder Key] (key : Record → Key) (records : List Record) :
    Prop :=
  records.Pairwise fun first second => key first < key second

section

variable [LinearOrder Key] {key : Record → Key} {records : List Record}

theorem Sorted.keys_nodup (sorted : Sorted key records) :
    (records.map key).Nodup := by
  rw [List.Nodup, List.pairwise_map]
  exact List.Pairwise.imp ne_of_lt sorted

/-- A sorted list holds exactly its records. -/
theorem Sorted.record_iff
    (sorted : Sorted key records) {wanted : Key} {record : Record} :
    (ofList key records).record wanted = some record ↔
    record ∈ records ∧ key record = wanted := by
  constructor
  · intro found
    exact
      ⟨List.mem_of_find?_eq_some found, by simpa using List.find?_some found⟩
  · rintro ⟨member, rfl⟩
    cases found :
        records.find? fun other => decide (key other = key record) with
    | none =>
        have unmatched := List.find?_eq_none.mp found record member
        simp at unmatched
    | some other =>
        have sameKey : key other = key record := by
          simpa using List.find?_some found
        have same : other = record :=
          List.inj_on_of_nodup_map sorted.keys_nodup
            (List.mem_of_find?_eq_some found) member sameKey
        exact found.trans (congrArg some same)

theorem Sorted.record_none
    (sorted : Sorted key records) {wanted : Key}
    (missing : ∀ record ∈ records, key record ≠ wanted) :
    (ofList key records).record wanted = none := by
  cases found : (ofList key records).record wanted with
  | none => rfl
  | some record =>
      rcases sorted.record_iff.mp found with ⟨member, isKey⟩
      exact (missing record member isKey).elim

theorem Sorted.eq_of_mem_iff
    (sorted : Sorted key records) {map : FiniteMap Key Record}
    (same :
      ∀ wanted record,
        map.record wanted = some record ↔
        record ∈ records ∧ key record = wanted) :
    ofList key records = map := by
  ext wanted record
  rw [sorted.record_iff, same]

theorem Sorted.card (sorted : Sorted key records) :
    (ofList key records).domain.card = records.length := by
  rw [ofList, List.toFinset_card_of_nodup sorted.keys_nodup, List.length_map]

/-- A sorted list is the enumeration of its map. -/
theorem Sorted.enumerate_eq (sorted : Sorted key records) :
    (ofList key records).enumerate = records := by
  have ordered : (records.map key).Pairwise (· ≤ ·) := by
    rw [List.pairwise_map]
    exact List.Pairwise.imp le_of_lt sorted
  have keys : (records.map key).toFinset.sort (· ≤ ·) = records.map key :=
    (List.toFinset_sort _ sorted.keys_nodup).mpr ordered
  have each :
      ∀ record ∈ records,
        (ofList key records).record (key record) = some record :=
    fun record member => sorted.record_iff.mpr ⟨member, rfl⟩
  calc
    (ofList key records).enumerate =
        (records.map key).filterMap (ofList key records).record :=
      congrArg (List.filterMap _) keys
    _ = records.filterMap fun record => some record := by
      rw [List.filterMap_map]
      exact List.filterMap_congr each
    _ = records := List.filterMap_some

theorem Sorted.key_ne_of_mem_around
    {before after : List Record} {middle other : Record}
    (sorted : Sorted key (before ++ middle :: after))
    (member : other ∈ before ++ after) : key other ≠ key middle := by
  rw [Sorted, List.pairwise_append, List.pairwise_cons] at sorted
  rcases List.mem_append.mp member with inBefore | inAfter
  · exact ne_of_lt (sorted.2.2 other inBefore middle List.mem_cons_self)
  · exact ne_of_gt (sorted.2.1.1 other inAfter)

theorem Sorted.of_around
    {before after : List Record} {middle : Record}
    (sorted : Sorted key (before ++ middle :: after)) :
    Sorted key (before ++ after) :=
  List.Pairwise.sublist
    (List.Sublist.append_left (List.sublist_cons_self middle after) before)
    sorted

/-- A record put between the smaller and the greater keys. -/
theorem Sorted.ofList_insert
    {before after : List Record} {new : Record}
    (sorted : Sorted key (before ++ new :: after)) :
    ofList key (before ++ new :: after) =
      (ofList key (before ++ after)).insert (key new) new := by
  apply sorted.eq_of_mem_iff
  intro wanted record
  rw [insert_record]
  split
  · next same =>
      subst same
      constructor
      · intro isNew
        rw [← Option.some.inj isNew]
        simp
      · rintro ⟨member, sameKey⟩
        have isNew : record = new := by
          by_contra different
          have elsewhere : record ∈ before ++ after := by
            simpa [different] using member
          exact sorted.key_ne_of_mem_around elsewhere sameKey
        rw [isNew]
  · next different =>
      rw [sorted.of_around.record_iff]
      constructor
      · rintro ⟨member, isKey⟩
        refine ⟨?_, isKey⟩
        rcases List.mem_append.mp member with inBefore | inAfter
        · exact List.mem_append_left _ inBefore
        · exact List.mem_append_right _ (List.mem_cons_of_mem _ inAfter)
      · rintro ⟨member, isKey⟩
        refine ⟨?_, isKey⟩
        have notNew : record ≠ new := by
          rintro rfl
          exact different isKey.symm
        simpa [notNew] using member

/-- Only the key of the middle matters for the order. -/
theorem Sorted.replace
    {before after : List Record} {old new : Record}
    (sorted : Sorted key (before ++ old :: after))
    (sameKey : key new = key old) :
    Sorted key (before ++ new :: after) := by
  rw [Sorted, List.pairwise_append, List.pairwise_cons] at sorted ⊢
  rcases sorted with ⟨beforeSorted, ⟨greater, afterSorted⟩, apart⟩
  refine ⟨beforeSorted, ⟨?_, afterSorted⟩, ?_⟩
  · intro record member
    rw [sameKey]
    exact greater record member
  · intro first inBefore second member
    rcases List.mem_cons.mp member with rfl | inAfter
    · rw [sameKey]
      exact apart first inBefore old List.mem_cons_self
    · exact apart first inBefore second (List.mem_cons_of_mem _ inAfter)

/-- A record put in the place of one with the same key. -/
theorem Sorted.ofList_replace
    {before after : List Record} {old new : Record}
    (sorted : Sorted key (before ++ old :: after))
    (sameKey : key new = key old) :
    ofList key (before ++ new :: after) =
      (ofList key (before ++ old :: after)).insert (key new) new := by
  rw [(sorted.replace sameKey).ofList_insert, sorted.ofList_insert, sameKey]
  ext wanted : 1
  simp only [insert, Function.update_idem]

theorem Sorted.ofList_erase
    {before after : List Record} {old : Record}
    (sorted : Sorted key (before ++ old :: after)) :
    ofList key (before ++ after) =
      (ofList key (before ++ old :: after)).erase (key old) := by
  have gone : (ofList key (before ++ after)).record (key old) = none :=
    sorted.of_around.record_none fun record member =>
      sorted.key_ne_of_mem_around member
  rw [sorted.ofList_insert]
  ext wanted : 1
  simp only [insert, erase, Function.update_idem]
  rw [← gone, Function.update_eq_self]

end

end FiniteMap

end Endap.Library
