import Mathlib.Data.List.Induction
import Mathlib.Order.Bounds.Defs

/-!
# The least of a list, with a value that stands for none

A scan keeps the least key it has met and starts from a value that no key has,
which stands for "none met".  What it ends with is the least key of the list,
so it depends on which keys the list has and not on where they stand.
-/

namespace Endap.Library.Least

section

variable {Key : Type*} [LT Key] [DecidableEq Key] [DecidableLT Key]
  {vacant : Key}

/-- One turn of the scan. -/
def turn (vacant least key : Key) : Key :=
  if least = vacant ∨ key < least then key else least

/-- The least key met, or `vacant`. -/
def scan (vacant : Key) (keys : List Key) : Key :=
  keys.foldl (turn vacant) vacant

theorem turn_first (key : Key) : turn vacant vacant key = key :=
  if_pos (Or.inl rfl)

theorem turn_mem (vacant least key : Key) :
    turn vacant least key = key ∨ turn vacant least key = least := by
  rw [turn]
  split
  · exact Or.inl rfl
  · exact Or.inr rfl

theorem scan_snoc (keys : List Key) (key : Key) :
    scan vacant (keys ++ [key]) = turn vacant (scan vacant keys) key := by
  rw [scan, List.foldl_append]
  rfl

variable [LE Key] [Std.IsLinearOrder Key] [Std.LawfulOrderLT Key]

theorem turn_le {least : Key} (met : least ≠ vacant) (key : Key) :
    turn vacant least key ≤ least ∧ turn vacant least key ≤ key := by
  rw [turn]
  split
  next lesser =>
    exact ⟨Std.le_of_lt (lesser.resolve_left met), Std.le_refl key⟩
  next notLesser =>
    exact ⟨Std.le_refl least, Std.not_lt.mp (not_or.mp notLesser).2⟩

/-- A scan of keys ends with `vacant` when there are none, and with the least
of them otherwise. -/
theorem scan_isLeast
    {keys : List Key} (isKey : ∀ key ∈ keys, key ≠ vacant) :
    keys = [] ∧ scan vacant keys = vacant ∨
    IsLeast {key | key ∈ keys} (scan vacant keys) := by
  induction keys using List.reverseRecOn with
  | nil => exact Or.inl ⟨rfl, rfl⟩
  | append_singleton keys key induction =>
      refine Or.inr ?_
      rw [scan_snoc]
      rcases
        induction fun earlier member =>
          isKey earlier (List.mem_append_left _ member) with
        ⟨rfl, noneMet⟩ | ⟨member, lower⟩
      · rw [noneMet, turn_first]
        refine ⟨List.mem_singleton.mpr rfl, fun other isOther => ?_⟩
        rw [List.mem_singleton.mp isOther]
        exact Std.le_refl key
      · have met : scan vacant keys ≠ vacant :=
          isKey _ (List.mem_append_left _ member)
        rcases turn_le met key with ⟨notAbove, least⟩
        constructor
        · rcases turn_mem vacant (scan vacant keys) key with isNew | isOld
          · rw [isNew]
            exact List.mem_append_right _ (List.mem_singleton.mpr rfl)
          · rw [isOld]
            exact List.mem_append_left _ member
        · intro other isOther
          rcases List.mem_append.mp isOther with isEarlier | isLast
          · exact Std.le_trans notAbove (lower isEarlier)
          · rw [List.mem_singleton.mp isLast]
            exact least

end

/-- A set has one least key at most. -/
theorem isLeast_unique
    {Key : Type*} [LE Key] [Std.IsPartialOrder Key] {keys : Set Key} {first second : Key}
    (isFirst : IsLeast keys first) (isSecond : IsLeast keys second) :
    first = second :=
  Std.le_antisymm (isFirst.2 isSecond.1) (isSecond.2 isFirst.1)

end Endap.Library.Least
