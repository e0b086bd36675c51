import Endap.Library.ArrayList

/-!
# Queues in a ring

A ring of cells with a head and a tail holds a queue: the records from the
tail up to the head, around the end of the ring.  One cell always stays free,
so that an empty ring differs from a full one.

Writing the cell at the head and moving the head appends to the queue; moving
the tail takes its first record.
-/

namespace Endap.Library.Ring

variable {Record : Type*}

/-- The cell at a distance behind the tail. -/
def cell (size tail distance : Nat) : Nat :=
  if tail + distance < size then tail + distance
  else tail + distance - size

/-- How many cells there are from the tail up to the head. -/
def occupied (size head tail : Nat) : Nat :=
  if tail ≤ head then head - tail else head + size - tail

/-- The queue in the ring, oldest record first. -/
def pending
    (size : Nat) (cells : Nat → Record) (head tail : Nat) : List Record :=
  ArrayList.listed (fun distance => cells (cell size tail distance))
    (occupied size head tail)

/-! ## Positions -/

theorem cell_cases (size tail distance : Nat) :
    cell size tail distance = tail + distance ∧ tail + distance < size ∨
    cell size tail distance = tail + distance - size ∧
    size ≤ tail + distance := by
  rw [cell]
  split
  · next inside => exact Or.inl ⟨rfl, inside⟩
  · next beyond => exact Or.inr ⟨rfl, Nat.le_of_not_lt beyond⟩

theorem occupied_cases (size head tail : Nat) :
    occupied size head tail = head - tail ∧ tail ≤ head ∨
    occupied size head tail = head + size - tail ∧ head < tail := by
  rw [occupied]
  split
  · next ordered => exact Or.inl ⟨rfl, ordered⟩
  · next wrapped => exact Or.inr ⟨rfl, Nat.lt_of_not_le wrapped⟩

theorem next_cases {size index : Nat} (fits : index < size) :
    (index + 1) % size = index + 1 ∧ index + 1 < size ∨
    (index + 1) % size = 0 ∧ index + 1 = size := by
  rcases Nat.lt_or_eq_of_le (Nat.succ_le_of_lt fits) with inside | last
  · exact Or.inl ⟨Nat.mod_eq_of_lt inside, inside⟩
  · refine Or.inr ⟨?_, last⟩
    rw [← last]
    exact Nat.mod_self _

/-! ## The queue -/

section

variable {size head tail : Nat}
    (headFits : head < size) (tailFits : tail < size)

include tailFits

theorem pending_eq_nil_iff (cells : Nat → Record) :
    pending size cells head tail = [] ↔ tail = head := by
  rw [← List.length_eq_zero_iff, pending, ArrayList.listed_length]
  rcases occupied_cases size head tail with ordered | wrapped
  · omega
  · omega

include headFits

/-- The queue has all cells but one exactly when the head is right behind the
tail. -/
theorem pending_length_eq_iff (cells : Nat → Record) :
    (pending size cells head tail).length = size - 1 ↔
    (head + 1) % size = tail := by
  rw [pending, ArrayList.listed_length]
  have occupies := occupied_cases size head tail
  have next := next_cases headFits
  omega

/-- Writing at the head and moving it appends, if a cell stays free. -/
theorem pending_push
    (cells : Nat → Record) (record : Record)
    (room : (head + 1) % size ≠ tail) :
    pending size (Function.update cells head record) ((head + 1) % size) tail =
      pending size cells head tail ++ [record] := by
  have longer :
      occupied size ((head + 1) % size) tail =
        occupied size head tail + 1 := by
    have before := occupied_cases size head tail
    have after := occupied_cases size ((head + 1) % size) tail
    have next := next_cases headFits
    omega
  have atHead : cell size tail (occupied size head tail) = head := by
    have occupies := occupied_cases size head tail
    have position := cell_cases size tail (occupied size head tail)
    omega
  rw [pending, longer, ArrayList.listed_succ, atHead, Function.update_self]
  congr 1
  apply ArrayList.listed_congr
  intro distance inside
  refine Function.update_of_ne ?_ _ _
  have occupies := occupied_cases size head tail
  have position := cell_cases size tail distance
  omega

/-- Moving the tail takes the first record. -/
theorem pending_pop
    (cells : Nat → Record) (notEmpty : tail ≠ head) :
    pending size cells head tail =
      cells tail :: pending size cells head ((tail + 1) % size) := by
  have next := next_cases tailFits
  have after := occupied_cases size head ((tail + 1) % size)
  have shorter :
      occupied size head tail =
        occupied size head ((tail + 1) % size) + 1 := by
    have before := occupied_cases size head tail
    omega
  have atTail : cell size tail 0 = tail := if_pos tailFits
  rw [pending, shorter, ArrayList.listed, List.range_succ_eq_map,
    List.map_cons, List.map_map, atTail]
  congr 1
  apply List.map_congr_left
  intro distance member
  have inside := List.mem_range.mp member
  refine congrArg cells ?_
  have here := cell_cases size tail (distance + 1)
  have there := cell_cases size ((tail + 1) % size) distance
  change cell size tail (distance + 1) = _
  omega

end

end Endap.Library.Ring
