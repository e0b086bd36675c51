import Mathlib.Logic.Function.Basic

/-!
# Double buffers

A double buffer holds two copies of an array.  Values are put into the one
copy and read from the other, and a swap exchanges the two.  A swap copies
nothing: a value that was put once is seen after the next swap, hidden after
the one that follows, and seen again after the third.

The ledger of a double buffer remembers what was put last and whether that was
after the last swap.  It tells when a swap shows what was put last.
-/

namespace Endap.Library

/-- The two copies. -/
inductive Half where
  | a
  | b
deriving DecidableEq

/-- Two copies, one to read and the other to write. -/
structure DoubleBuffer (Index Value : Type*) where
  cells : Half → Index → Value
  read : Half
  write : Half
  apart : read ≠ write

namespace DoubleBuffer

variable {Index Value : Type*}

/-- Both copies hold one value everywhere. -/
def filled (value : Value) : DoubleBuffer Index Value where
  cells := fun _ _ => value
  read := .a
  write := .b
  apart := nofun

/-- The value that is read. -/
def get (buffer : DoubleBuffer Index Value) (index : Index) : Value :=
  buffer.cells buffer.read index

/-- The value that is read after the next swap, as things stand. -/
def waiting (buffer : DoubleBuffer Index Value) (index : Index) : Value :=
  buffer.cells buffer.write index

/-- The copies change places. -/
def swap (buffer : DoubleBuffer Index Value) : DoubleBuffer Index Value where
  cells := buffer.cells
  read := buffer.write
  write := buffer.read
  apart := buffer.apart.symm

/-- The copy that is written is overwritten. -/
def overwrite (buffer : DoubleBuffer Index Value) (written : Index → Value) :
    DoubleBuffer Index Value :=
  { buffer with cells := Function.update buffer.cells buffer.write written }

@[simp]
theorem get_filled (value : Value) (index : Index) :
    (filled value : DoubleBuffer Index Value).get index = value :=
  rfl

@[simp]
theorem get_swap (buffer : DoubleBuffer Index Value) (index : Index) :
    buffer.swap.get index = buffer.waiting index :=
  rfl

@[simp]
theorem get_overwrite
    (buffer : DoubleBuffer Index Value) (written : Index → Value)
    (index : Index) :
    (buffer.overwrite written).get index = buffer.get index := by
  change Function.update buffer.cells _ _ buffer.read index = _
  rw [Function.update_of_ne buffer.apart]
  rfl

@[simp]
theorem waiting_overwrite
    (buffer : DoubleBuffer Index Value) (written : Index → Value)
    (index : Index) :
    (buffer.overwrite written).waiting index = written index := by
  change Function.update buffer.cells _ _ buffer.write index = _
  rw [Function.update_self]

section

variable [DecidableEq Index]

/-- One value is written. -/
def put (buffer : DoubleBuffer Index Value) (index : Index) (value : Value) :
    DoubleBuffer Index Value :=
  buffer.overwrite (Function.update buffer.waiting index value)

@[simp]
theorem get_put
    (buffer : DoubleBuffer Index Value) (index other : Index)
    (value : Value) :
    (buffer.put index value).get other = buffer.get other :=
  get_overwrite ..

@[simp]
theorem waiting_put
    (buffer : DoubleBuffer Index Value) (index other : Index)
    (value : Value) :
    (buffer.put index value).waiting other =
      Function.update buffer.waiting index value other :=
  waiting_overwrite ..

end

/-! ## What was put last -/

/-- A double buffer, what was put last, and whether that was after the last
swap. -/
structure Ledger (Index Value : Type*) where
  buffer : DoubleBuffer Index Value
  given : Index → Value
  fresh : Index → Bool

namespace Ledger

/-- Where a value was put after the last swap, the next swap shows it, and
elsewhere it is read. -/
structure Sound (ledger : Ledger Index Value) (index : Index) : Prop where
  fresh :
    ledger.fresh index = true → ledger.buffer.waiting index = ledger.given index
  settled :
    ledger.fresh index = false → ledger.buffer.get index = ledger.given index

/-- The ledger after a swap. -/
def swap (ledger : Ledger Index Value) : Ledger Index Value where
  buffer := ledger.buffer.swap
  given := ledger.given
  fresh := fun _ => false

/-- A ledger that differs elsewhere only is as sound. -/
theorem Sound.elsewhere
    {ledger other : Ledger Index Value} {index : Index}
    (sound : ledger.Sound index) (buffer : other.buffer = ledger.buffer)
    (given : other.given index = ledger.given index)
    (fresh : other.fresh index = ledger.fresh index) :
    other.Sound index where
  fresh isFresh := by
    rw [buffer, given]
    exact sound.fresh (fresh.symm.trans isFresh)
  settled isSettled := by
    rw [buffer, given]
    exact sound.settled (fresh.symm.trans isSettled)

theorem sound_filled (value : Value) (index : Index) :
    Sound
      { buffer := filled value
        given := fun _ => value
        fresh := fun _ => false }
      index where
  fresh := nofun
  settled _ := rfl

/-- A swap shows what was put last exactly where that was after the last swap,
or both copies hold the same. -/
theorem Sound.swap_get_iff
    {ledger : Ledger Index Value} {index : Index}
    (sound : ledger.Sound index) :
    ledger.swap.buffer.get index = ledger.given index ↔
    ledger.fresh index = true ∨
    ledger.buffer.waiting index = ledger.buffer.get index := by
  change ledger.buffer.waiting index = ledger.given index ↔ _
  cases isFresh : ledger.fresh index with
  | true => exact iff_of_true (sound.fresh isFresh) (Or.inl rfl)
  | false =>
      rw [sound.settled isFresh]
      constructor
      · exact Or.inr
      · intro shown
        exact shown.resolve_left Bool.false_ne_true

/-- A swap that shows what was put last leaves a sound ledger. -/
theorem Sound.swap
    {ledger : Ledger Index Value} {index : Index}
    (shown : ledger.swap.buffer.get index = ledger.given index) :
    ledger.swap.Sound index where
  fresh := nofun
  settled _ := shown

section

variable [DecidableEq Index]

/-- The ledger after a value was put. -/
def put (ledger : Ledger Index Value) (index : Index) (value : Value) :
    Ledger Index Value where
  buffer := ledger.buffer.put index value
  given := Function.update ledger.given index value
  fresh := Function.update ledger.fresh index true

theorem Sound.put
    {ledger : Ledger Index Value} {index : Index}
    (sound : ledger.Sound index) (other : Index) (value : Value) :
    (ledger.put other value).Sound index := by
  by_cases same : index = other
  · subst same
    constructor
    · intro _
      simp [Ledger.put]
    · simp [Ledger.put]
  · constructor
    · intro isFresh
      simp only [Ledger.put, Function.update_of_ne same, waiting_put] at *
      exact sound.fresh isFresh
    · intro settled
      simp only [Ledger.put, Function.update_of_ne same, get_put] at *
      exact sound.settled settled

end

end Ledger

end DoubleBuffer

end Endap.Library
