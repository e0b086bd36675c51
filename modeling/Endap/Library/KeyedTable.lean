import Mathlib.Data.List.Nodup
import Mathlib.Data.List.Perm.Subperm

/-!
# Bounded tables searched by key

A table is a list of entries of bounded length, searched from the front for
the first entry with a given key.  An entry that is missing is appended while
there is room.

A table whose keys are different and all come from a set no larger than its
capacity never runs out of room for the keys of that set.
-/

namespace Endap.Library

variable {Entry Key : Type*} [DecidableEq Key]

/-- A list of entries with room for `capacity` of them. -/
structure KeyedTable (Entry : Type*) (capacity : Nat) where
  entries : List Entry
  fits : entries.length ≤ capacity

namespace KeyedTable

variable {capacity : Nat}

/-- The table without entries. -/
def empty : KeyedTable Entry capacity where
  entries := []
  fits := Nat.zero_le _

/-- The first entry with the key. -/
def find? (key : Entry → Key) (wanted : Key)
    (table : KeyedTable Entry capacity) : Option Entry :=
  table.entries.find? fun entry => key entry = wanted

/-- Change the first entry that satisfies the test. -/
def modifyFirst (test : Entry → Bool) (change : Entry → Entry) :
    List Entry → List Entry
  | [] => []
  | entry :: rest =>
      if test entry then change entry :: rest
      else entry :: modifyFirst test change rest

theorem modifyFirst_length
    (test : Entry → Bool) (change : Entry → Entry)
    (entries : List Entry) :
    (modifyFirst test change entries).length = entries.length := by
  induction entries with
  | nil => rfl
  | cons entry rest induction =>
      rw [modifyFirst]
      split
      · rfl
      · exact congrArg Nat.succ induction

omit [DecidableEq Key] in
theorem modifyFirst_keys
    (key : Entry → Key) (test : Entry → Bool) (change : Entry → Entry)
    (sameKey : ∀ entry, test entry = true → key (change entry) = key entry)
    (entries : List Entry) :
    (modifyFirst test change entries).map key = entries.map key := by
  induction entries with
  | nil => rfl
  | cons entry rest induction =>
      rw [modifyFirst]
      split
      · next passes => simp [sameKey entry passes]
      · simp [induction]

/-- An entry of the changed list was there before or is the changed one. -/
theorem mem_modifyFirst
    {test : Entry → Bool} {change : Entry → Entry}
    {entries : List Entry} {entry : Entry}
    (member : entry ∈ modifyFirst test change entries) :
    entry ∈ entries ∨
    ∃ old ∈ entries, test old = true ∧ entry = change old := by
  induction entries with
  | nil => cases member
  | cons first rest induction =>
      rw [modifyFirst] at member
      split at member
      · next passes =>
          rcases List.mem_cons.mp member with changed | later
          · exact Or.inr ⟨first, List.mem_cons_self .., passes, changed⟩
          · exact Or.inl (List.mem_cons_of_mem _ later)
      · rcases List.mem_cons.mp member with same | later
        · exact Or.inl (List.mem_cons.mpr (Or.inl same))
        · rcases induction later with there | ⟨old, there, passes, changed⟩
          · exact Or.inl (List.mem_cons_of_mem _ there)
          · exact Or.inr ⟨old, List.mem_cons_of_mem _ there, passes, changed⟩

/-- A change of the first entry that passes the test shows in any view that
tells the changed entry from the entry. -/
theorem modifyFirst_map_eq
    {View : Type*} (view : Entry → View)
    {test : Entry → Bool} {change : Entry → Entry}
    {entries : List Entry} {entry : Entry}
    (found : entries.find? test = some entry)
    (same : (modifyFirst test change entries).map view = entries.map view) :
    view (change entry) = view entry := by
  induction entries with
  | nil => cases found
  | cons first rest induction =>
      rw [modifyFirst] at same
      by_cases passes : test first = true
      · rw [if_pos passes, List.map_cons, List.map_cons] at same
        rw [List.find?_cons_of_pos passes] at found
        cases found
        exact (List.cons.inj same).1
      · rw [if_neg passes, List.map_cons, List.map_cons] at same
        rw [List.find?_cons_of_neg passes] at found
        exact induction found (List.cons.inj same).2

/-- The first entry that passes the test, with the entries around it. -/
theorem modifyFirst_around
    {test : Entry → Bool} (change : Entry → Entry)
    {before : List Entry} (skipped : ∀ entry ∈ before, test entry = false)
    {entry : Entry} (passes : test entry = true) (after : List Entry) :
    modifyFirst test change (before ++ entry :: after) =
      before ++ change entry :: after := by
  induction before with
  | nil => simp [modifyFirst, passes]
  | cons first rest induction =>
      have failsFirst := skipped first (List.mem_cons_self ..)
      rw [List.cons_append, modifyFirst, if_neg (by simp [failsFirst]),
        induction fun entry member =>
          skipped entry (List.mem_cons_of_mem _ member)]
      rfl

def modify (key : Entry → Key) (wanted : Key) (change : Entry → Entry)
    (table : KeyedTable Entry capacity) : KeyedTable Entry capacity where
  entries := modifyFirst (fun entry => key entry = wanted) change table.entries
  fits := by
    rw [modifyFirst_length]
    exact table.fits

theorem find?_modify_of_ne
    (key : Entry → Key) {wanted other : Key} (different : other ≠ wanted)
    {change : Entry → Entry}
    (sameKey : ∀ entry, key (change entry) = key entry)
    (table : KeyedTable Entry capacity) :
    (table.modify key wanted change).find? key other =
      table.find? key other := by
  show (modifyFirst _ _ table.entries).find? _ = table.entries.find? _
  induction table.entries with
  | nil => rfl
  | cons entry rest induction =>
      rw [modifyFirst]
      split
      · next isWanted =>
          have isWanted : key entry = wanted := by simpa using isWanted
          have notOther : key entry ≠ other := by
            rw [isWanted]
            exact different.symm
          simp [sameKey, notOther]
      · by_cases isOther : key entry = other
        · simp [isOther]
        · simp [isOther, induction]

theorem find?_modify_self
    (key : Entry → Key) (wanted : Key)
    {change : Entry → Entry}
    (sameKey : ∀ entry, key (change entry) = key entry)
    (table : KeyedTable Entry capacity) :
    (table.modify key wanted change).find? key wanted =
      (table.find? key wanted).map change := by
  show (modifyFirst _ _ table.entries).find? _ =
    (table.entries.find? _).map change
  induction table.entries with
  | nil => rfl
  | cons entry rest induction =>
      rw [modifyFirst]
      by_cases isWanted : key entry = wanted
      · simp [isWanted, sameKey]
      · simp [isWanted, induction]

/-- The entry with the key, appended when it is missing and there is room. -/
def getOrCreate (key : Entry → Key) (fresh : Key → Entry) (wanted : Key)
    (table : KeyedTable Entry capacity) :
    Option (Entry × KeyedTable Entry capacity) :=
  match table.find? key wanted with
  | some entry => some (entry, table)
  | none =>
      if room : table.entries.length < capacity then
        some
          (fresh wanted,
            { entries := table.entries ++ [fresh wanted]
              fits := by
                rw [List.length_append]
                exact room })
      else none

/-- The entry that is found or made is the one its key finds afterwards, and
every other key finds what it found before. -/
theorem getOrCreate_find?
    {key : Entry → Key} {fresh : Key → Entry}
    (freshKey : ∀ wanted, key (fresh wanted) = wanted)
    {wanted : Key} {table next : KeyedTable Entry capacity} {entry : Entry}
    (created : table.getOrCreate key fresh wanted = some (entry, next)) :
    entry = (table.find? key wanted).getD (fresh wanted) ∧
    next.find? key wanted = some entry ∧
    ∀ other, other ≠ wanted →
    next.find? key other = table.find? key other := by
  rw [getOrCreate] at created
  cases found : table.find? key wanted with
  | some old =>
      rw [found] at created
      cases created
      exact ⟨rfl, found, fun _ _ => rfl⟩
  | none =>
      rw [found] at created
      simp only at created
      split at created
      · cases created
        refine ⟨rfl, ?_, ?_⟩
        · rw [find?] at found
          rw [find?, List.find?_append, found]
          simp [freshKey]
        · intro other different
          have notFresh : ¬ wanted = other := different.symm
          rw [find?, List.find?_append]
          simp [freshKey, notFresh, find?]
      · cases created

/-- The entry of a key; one that is missing is fresh. -/
def entryOf (key : Entry → Key) (fresh : Key → Entry) (wanted : Key)
    (table : KeyedTable Entry capacity) : Entry :=
  (table.find? key wanted).getD (fresh wanted)

theorem entryOf_modify_of_ne
    (key : Entry → Key) (fresh : Key → Entry) {wanted other : Key}
    (different : other ≠ wanted) {change : Entry → Entry}
    (sameKey : ∀ entry, key (change entry) = key entry)
    (table : KeyedTable Entry capacity) :
    (table.modify key wanted change).entryOf key fresh other =
      table.entryOf key fresh other := by
  rw [entryOf, find?_modify_of_ne key different sameKey, entryOf]

/-- A change that leaves fresh entries changes the entry of its key, whether
the table has it or not. -/
theorem entryOf_modify_self
    (key : Entry → Key) {fresh : Key → Entry} {wanted : Key}
    {change : Entry → Entry}
    (sameKey : ∀ entry, key (change entry) = key entry)
    (sameFresh : change (fresh wanted) = fresh wanted)
    (table : KeyedTable Entry capacity) :
    (table.modify key wanted change).entryOf key fresh wanted =
      change (table.entryOf key fresh wanted) := by
  rw [entryOf, find?_modify_self key wanted sameKey, entryOf]
  cases table.find? key wanted with
  | none => exact sameFresh.symm
  | some entry => rfl

/-- The entry that is got or made and then changed is the only one that
differs afterwards. -/
theorem getOrCreate_modify_entryOf
    {key : Entry → Key} {fresh : Key → Entry}
    (freshKey : ∀ wanted, key (fresh wanted) = wanted)
    {wanted : Key} {table next : KeyedTable Entry capacity} {entry : Entry}
    (created : table.getOrCreate key fresh wanted = some (entry, next))
    {change : Entry → Entry}
    (sameKey : ∀ entry, key (change entry) = key entry) :
    entry = table.entryOf key fresh wanted ∧
    (next.modify key wanted change).entryOf key fresh wanted =
        change (table.entryOf key fresh wanted) ∧
    ∀ other, other ≠ wanted →
    (next.modify key wanted change).entryOf key fresh other =
      table.entryOf key fresh other := by
  rcases getOrCreate_find? freshKey created with ⟨isEntry, found, kept⟩
  refine ⟨isEntry, ?_, ?_⟩
  · rw [entryOf, find?_modify_self key wanted sameKey, found,
      Option.map_some, Option.getD_some, isEntry, entryOf]
  · intro other different
    rw [entryOf_modify_of_ne key fresh different sameKey, entryOf,
      kept other different, entryOf]

/-- The keys of a table, in order. -/
def keys (key : Entry → Key) (table : KeyedTable Entry capacity) : List Key :=
  table.entries.map key

/-- The keys are different and come from the given list. -/
structure KeysWithin (key : Entry → Key) (allowed : List Key)
    (table : KeyedTable Entry capacity) : Prop where
  different : (table.keys key).Nodup
  within : table.keys key ⊆ allowed

omit [DecidableEq Key] in
theorem empty_keysWithin (key : Entry → Key) (allowed : List Key) :
    KeysWithin key allowed
      (empty : KeyedTable Entry capacity) where
  different := List.nodup_nil
  within := List.nil_subset _

theorem find?_of_mem
    {key : Entry → Key} {table : KeyedTable Entry capacity}
    (different : (table.keys key).Nodup)
    {entry : Entry} (member : entry ∈ table.entries) :
    table.find? key (key entry) = some entry := by
  rw [find?]
  rw [keys] at different
  rcases table with ⟨entries, fits⟩
  simp only at member different ⊢
  clear fits
  induction entries with
  | nil => cases member
  | cons first rest induction =>
      rw [List.map_cons, List.nodup_cons] at different
      rcases List.mem_cons.mp member with rfl | later
      · simp
      · have notFirst : key first ≠ key entry := by
          intro same
          exact different.1 (same ▸ List.mem_map_of_mem later)
        rw [List.find?_cons_of_neg (by simpa using notFirst)]
        exact induction different.2 later

/-- Changing an entry keeps the keys. -/
theorem keys_modify
    {key : Entry → Key} {table : KeyedTable Entry capacity}
    (wanted : Key) {change : Entry → Entry}
    (sameKey : ∀ entry, key entry = wanted → key (change entry) = wanted) :
    (table.modify key wanted change).keys key = table.keys key := by
  refine modifyFirst_keys key _ change ?_ table.entries
  intro entry isWanted
  have isWanted : key entry = wanted := by simpa using isWanted
  rw [sameKey entry isWanted, isWanted]

theorem modify_keysWithin
    {key : Entry → Key} {allowed : List Key}
    {table : KeyedTable Entry capacity}
    (inside : KeysWithin key allowed table)
    (wanted : Key) {change : Entry → Entry}
    (sameKey : ∀ entry, key (change entry) = key entry) :
    KeysWithin key allowed (table.modify key wanted change) := by
  have same : (table.modify key wanted change).keys key = table.keys key :=
    keys_modify wanted fun entry isWanted =>
      (sameKey entry).trans isWanted
  constructor
  · rw [same]
    exact inside.different
  · rw [same]
    exact inside.within

/-- A key of the allowed set always gets an entry. -/
theorem getOrCreate_keysWithin
    {key : Entry → Key} {allowed : List Key}
    {table : KeyedTable Entry capacity}
    (inside : KeysWithin key allowed table)
    (fresh : Key → Entry)
    (freshKey : ∀ wanted, key (fresh wanted) = wanted)
    (small : allowed.length ≤ capacity)
    {wanted : Key} (member : wanted ∈ allowed) :
    ∃ entry next,
      table.getOrCreate key fresh wanted = some (entry, next) ∧
      key entry = wanted ∧ KeysWithin key allowed next := by
  rw [getOrCreate]
  cases found : table.find? key wanted with
  | some entry =>
      have isKey := List.find?_some found
      exact ⟨entry, table, rfl, by simpa using isKey, inside⟩
  | none =>
      have absent : wanted ∉ table.keys key := by
        intro present
        rcases List.mem_map.mp present with ⟨entry, inTable, isKey⟩
        have missed := List.find?_eq_none.mp found entry inTable
        simp [isKey] at missed
      have extended : (table.keys key ++ [wanted]).Nodup := by
        rw [List.nodup_append]
        refine ⟨inside.different, List.nodup_singleton _, ?_⟩
        intro left inTable right isWanted
        rw [List.mem_singleton.mp isWanted]
        rintro rfl
        exact absent inTable
      have covered : table.keys key ++ [wanted] ⊆ allowed := by
        intro other inExtended
        rcases List.mem_append.mp inExtended with inTable | isWanted
        · exact inside.within inTable
        · rw [List.mem_singleton.mp isWanted]
          exact member
      have bound := (extended.subperm covered).length_le
      have room : table.entries.length < capacity := by
        rw [List.length_append, keys, List.length_map] at bound
        simp only [List.length_singleton] at bound
        omega
      rw [dif_pos room]
      refine ⟨_, _, rfl, freshKey wanted, ?_, ?_⟩
      · simpa [keys, freshKey] using extended
      · simpa [keys, freshKey] using covered

end KeyedTable

end Endap.Library
