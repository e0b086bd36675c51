import Endap.Library.Sweep
import Mathlib.Data.List.InsertIdx
import Mathlib.Logic.Function.Basic

/-!
# Lists kept in arrays

An array whose first cells are in use holds a list.  Writing the cell after
the last appends; moving the later cells down by one erases; a loop over the
cells in use that reads and writes one cell at a time is a sweep over the
list.

The array is a function of the index.  How many cells there are is the
business of whoever writes it.
-/

namespace Endap.Library.ArrayList

variable {Record Shared : Type*}

/-- The list in the first cells of an array. -/
def listed (cells : Nat → Record) (count : Nat) : List Record :=
  (List.range count).map cells

@[simp]
theorem listed_length (cells : Nat → Record) (count : Nat) :
    (listed cells count).length = count := by
  simp [listed]

theorem listed_getElem?
    (cells : Nat → Record) (count index : Nat) :
    (listed cells count)[index]? =
      if index < count then some (cells index) else none := by
  rw [listed, List.getElem?_map]
  split
  · next inside => simp [inside]
  · next outside => simp [Nat.le_of_not_lt outside]

variable {count index : Nat}

theorem mem_listed_take
    {cells : Nat → Record} {record : Record}
    (member : record ∈ (listed cells count).take index) :
    ∃ position, position < index ∧ cells position = record := by
  rcases List.mem_take_iff_getElem.mp member with
    ⟨position, inside, isRecord⟩
  refine ⟨position, Nat.lt_of_lt_of_le inside (Nat.min_le_left _ _), ?_⟩
  simpa [listed] using isRecord

theorem mem_listed_drop
    {cells : Nat → Record} {record : Record}
    (member : record ∈ (listed cells count).drop index) :
    ∃ position,
      index ≤ position ∧ position < count ∧ cells position = record := by
  rcases List.mem_drop_iff_getElem.mp member with
    ⟨distance, inside, isRecord⟩
  refine ⟨index + distance, Nat.le_add_right _ _, ?_, ?_⟩
  · simpa [Nat.add_comm] using inside
  · simpa [listed] using isRecord

theorem mem_listed
    {cells : Nat → Record} {record : Record} :
    record ∈ listed cells count ↔
    ∃ index, index < count ∧ cells index = record := by
  simp [listed]

/-- Two arrays list the same when their cells in use are equal. -/
theorem listed_congr
    {cells others : Nat → Record}
    (same : ∀ index, index < count → cells index = others index) :
    listed cells count = listed others count :=
  List.map_congr_left fun index member =>
    same index (List.mem_range.mp member)

theorem listed_succ (cells : Nat → Record) (count : Nat) :
    listed cells (count + 1) = listed cells count ++ [cells count] := by
  rw [listed, List.range_succ, List.map_append]
  rfl

/-- Writing the cell after the last appends. -/
theorem listed_push
    (cells : Nat → Record) (count : Nat) (record : Record) :
    listed (Function.update cells count record) (count + 1) =
      listed cells count ++ [record] := by
  rw [listed_succ, Function.update_self]
  congr 1
  apply listed_congr
  intro index inside
  exact Function.update_of_ne (Nat.ne_of_lt inside) _ _

/-- Rewriting a cell in use modifies the list there. -/
theorem listed_modify
    (cells : Nat → Record) (count index : Nat)
    (change : Record → Record) :
    listed (Function.update cells index (change (cells index))) count =
      (listed cells count).modify index change := by
  apply List.ext_getElem?
  intro position
  rw [List.getElem?_modify, listed_getElem?, listed_getElem?]
  by_cases here : index = position
  · subst here
    rw [Function.update_self]
    split
    · simp
    · rfl
  · rw [Function.update_of_ne (Ne.symm here)]
    simp [here]

/-! ## Erasing -/

/-- Move the next cell into this one. -/
def pull (cells : Nat → Record) (index : Nat) : Nat → Record :=
  Function.update cells index (cells (index + 1))

/-- Move the next cell into each of a range of cells, first to last. -/
def pullRange (cells : Nat → Record) (first steps : Nat) : Nat → Record :=
  (List.range' first steps).foldl pull cells

theorem pullRange_apply
    (cells : Nat → Record) (first steps index : Nat) :
    pullRange cells first steps index =
      if first ≤ index ∧ index < first + steps then cells (index + 1)
      else cells index := by
  induction steps generalizing cells first with
  | zero =>
      rw [if_neg]
      · rfl
      · rintro ⟨lower, upper⟩
        exact Nat.not_le_of_lt upper lower
  | succ steps induction =>
      have unfolded :
          pullRange cells first (steps + 1) =
            pullRange (pull cells first) (first + 1) steps :=
        rfl
      rw [unfolded, induction, pull]
      by_cases here : index = first
      · subst here
        rw [if_neg (by omega), if_pos (by omega), Function.update_self]
      · by_cases inside : first ≤ index ∧ index < first + (steps + 1)
        · rw [if_pos (by omega), if_pos inside]
          exact Function.update_of_ne (by omega) _ _
        · rw [if_neg (by omega), if_neg inside]
          exact Function.update_of_ne here _ _

/-- Moving the later cells down erases. -/
theorem listed_pullRange
    (cells : Nat → Record) (inside : index < count) :
    listed (pullRange cells index (count - 1 - index)) (count - 1) =
      (listed cells count).eraseIdx index := by
  apply List.ext_getElem?
  intro position
  rw [List.getElem?_eraseIdx, listed_getElem?, listed_getElem?,
    listed_getElem?, pullRange_apply]
  by_cases earlier : position < index
  · rw [if_neg (by omega : ¬ (index ≤ position ∧ _)), if_pos earlier,
      if_pos (by omega), if_pos (by omega)]
  · rw [if_neg earlier]
    by_cases used : position + 1 < count
    · rw [if_pos (by omega), if_pos (by omega), if_pos used]
    · rw [if_neg (by omega), if_neg used]

/-! ## Moving blocks of cells -/

/-- `memmove` of a block of cells. -/
def moveCells (cells : Nat → Record) (target source length : Nat) :
    Nat → Record :=
  fun index =>
    if target ≤ index ∧ index < target + length then
      cells (source + (index - target))
    else cells index

/-- `memcpy` of the first cells of another array. -/
def copyCells (cells : Nat → Record) (target : Nat)
    (source : Nat → Record) (length : Nat) : Nat → Record :=
  fun index =>
    if target ≤ index ∧ index < target + length then source (index - target)
    else cells index

/-- A copy behind the cells in use appends. -/
theorem listed_copyCells
    (cells : Nat → Record) (target : Nat) (source : Nat → Record)
    (length : Nat) :
    listed (copyCells cells target source length) (target + length) =
      listed cells target ++ listed source length := by
  apply List.ext_getElem?
  intro index
  rw [List.getElem?_append, listed_length, listed_getElem?,
    listed_getElem?, listed_getElem?, copyCells]
  by_cases before : index < target
  · rw [if_pos before, if_pos before, if_pos (by omega), if_neg (by omega)]
  · rw [if_neg before]
    by_cases inside : index < target + length
    · rw [if_pos inside, if_pos (by omega), if_pos (by omega)]
    · rw [if_neg inside, if_neg (by omega)]

/-- The list around one of its cells. -/
theorem listed_around
    (cells : Nat → Record) (inside : index < count) :
    listed cells count =
      (listed cells count).take index ++
        cells index :: (listed cells count).drop (index + 1) := by
  have used : index < (listed cells count).length := by simpa using inside
  have isCell : (listed cells count)[index] = cells index := by
    simp [listed]
  rw [← isCell, List.getElem_cons_drop, List.take_append_drop]

/-- Rewriting a cell in use replaces it in the list. -/
theorem listed_update
    (cells : Nat → Record) (inside : index < count)
    (record : Record) :
    listed (Function.update cells index record) count =
      (listed cells count).take index ++
        record :: (listed cells count).drop (index + 1) := by
  have used : index < (listed cells count).length := by simpa using inside
  rw [listed_modify cells count index fun _ => record,
    List.modify_eq_take_cons_drop used]

/-- Moving the later cells up and writing the gap inserts. -/
theorem listed_insert
    (cells : Nat → Record) (inside : index ≤ count)
    (record : Record) :
    listed
        (Function.update (moveCells cells (index + 1) index (count - index))
          index record)
        (count + 1) =
      (listed cells count).take index ++
        record :: (listed cells count).drop index := by
  have insideList : index ≤ (listed cells count).length := by
    simpa using inside
  apply List.ext_getElem?
  intro position
  rw [listed_getElem?, List.getElem?_append, List.length_take,
    Nat.min_eq_left insideList, List.getElem?_take, List.getElem?_cons,
    List.getElem?_drop, listed_getElem?, listed_getElem?]
  rcases Nat.lt_trichotomy position index with before | here | after
  · have used : position < count := Nat.lt_of_lt_of_le before inside
    rw [Function.update_of_ne (Nat.ne_of_lt before), moveCells,
      if_neg (by omega : ¬ (index + 1 ≤ position ∧ _)), if_pos before,
      if_pos before, if_pos used, if_pos (Nat.lt_succ_of_lt used)]
  · subst here
    rw [Function.update_self, if_pos (by omega), if_neg (by omega),
      if_pos (by omega)]
  · rw [Function.update_of_ne (by omega), moveCells,
      if_neg (by omega : ¬ position < index),
      if_neg (by omega : ¬ position - index = 0)]
    by_cases used : position < count + 1
    · rw [if_pos used, if_pos (by omega), if_pos (by omega)]
      congr 2
    · rw [if_neg used, if_neg (by omega)]

/-- Moving the later cells down removes. -/
theorem listed_remove
    (cells : Nat → Record) (inside : index < count) :
    listed (moveCells cells index (index + 1) (count - index - 1)) (count - 1) =
      (listed cells count).take index ++
        (listed cells count).drop (index + 1) := by
  rw [← List.eraseIdx_eq_take_drop_succ, ← listed_pullRange cells inside]
  apply listed_congr
  intro position used
  rw [moveCells, pullRange_apply]
  by_cases moved : index ≤ position
  · rw [if_pos (by omega), if_pos (by omega)]
    congr 1
    omega
  · rw [if_neg (by omega), if_neg (by omega)]

/-! ## Loops over the cells in use -/

/-- One turn of a loop: visit a cell and write back what the visit returns. -/
def turn
    (visit : Shared → Record → Shared × Record)
    (state : Shared × (Nat → Record)) (index : Nat) :
    Shared × (Nat → Record) :=
  let visited := visit state.1 (state.2 index)
  (visited.1, Function.update state.2 index visited.2)

/-- A loop over a range of cells. -/
def loop
    (visit : Shared → Record → Shared × Record)
    (shared : Shared) (cells : Nat → Record) (first steps : Nat) :
    Shared × (Nat → Record) :=
  (List.range' first steps).foldl (turn visit) (shared, cells)

variable {visit : Shared → Record → Shared × Record}

theorem loop_outside
    (shared : Shared) (cells : Nat → Record) {first steps : Nat}
    (before : index < first) :
    (loop visit shared cells first steps).2 index = cells index := by
  induction steps generalizing shared cells first with
  | zero => rfl
  | succ steps induction =>
      refine
        (induction _ (turn visit (shared, cells) first).2
          (Nat.lt_succ_of_lt before)).trans ?_
      exact Function.update_of_ne (Nat.ne_of_lt before) _ _

theorem loop_sweep
    (shared : Shared) (cells : Nat → Record) (first steps : Nat) :
    let ended := loop visit shared cells first steps
    let swept := Sweep.run visit shared ((List.range' first steps).map cells)
    ended.1 = swept.1 ∧
    (List.range' first steps).map ended.2 = swept.2 := by
  induction steps generalizing shared cells first with
  | zero => exact ⟨rfl, rfl⟩
  | succ steps induction =>
      let turned := turn visit (shared, cells) first
      have later := induction turned.1 turned.2 (first + 1)
      have untouched :
          (List.range' (first + 1) steps).map turned.2 =
            (List.range' (first + 1) steps).map cells := by
        apply List.map_congr_left
        intro index member
        have after := (List.mem_range'_1.mp member).1
        exact Function.update_of_ne (Nat.ne_of_gt after) _ _
      have head :
          (loop visit turned.1 turned.2 (first + 1) steps).2 first =
            (visit shared (cells first)).2 := by
        rw [loop_outside _ _ (Nat.lt_succ_self first)]
        exact Function.update_self _ _ _
      rw [untouched] at later
      refine ⟨later.1, ?_⟩
      exact congrArg₂ List.cons head later.2

/-- A loop over the cells in use is a sweep over the list. -/
theorem listed_loop
    (shared : Shared) (cells : Nat → Record) (count : Nat) :
    let ended := loop visit shared cells 0 count
    (ended.1, listed ended.2 count) =
      Sweep.run visit shared (listed cells count) := by
  have swept := @loop_sweep _ _ visit shared cells 0 count
  simp only [← List.range_eq_range'] at swept
  exact Prod.ext swept.1 swept.2

/-! ## Parts of records -/

/-- A modification that a part of the records follows. -/
theorem map_modify
    {Part : Type*} {part : Record → Part}
    {change : Record → Record} (follow : Part → Part)
    (follows : ∀ record, part (change record) = follow (part record))
    (records : List Record) (index : Nat) :
    (records.modify index change).map part =
      (records.map part).modify index follow := by
  apply List.ext_getElem?
  intro position
  simp only [List.getElem?_map, List.getElem?_modify]
  by_cases here : index = position
  · cases records[position]? with
    | none => simp
    | some record => simp [here, follows]
  · simp [here]

end Endap.Library.ArrayList
