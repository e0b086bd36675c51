import Endap.Library.DoubleBuffer
import Endap.Library.Run
import Mathlib.Data.UInt

/-!
# The process image

The drivers put input values into the image, and the cycle makes them visible
by a swap of two arrays.  A driver puts a value when it changes and not in
every cycle, and the swap does not copy: a value that was put once is visible
in every second cycle only, until it is put again in the cycle after.

The outputs have two arrays as well; there the array that is going to be
written is cleared at each swap.
-/

namespace Endap.Io

open Endap.Library

def ioMax : UInt16 := 256

/-- The static state of `io_image.c`: `input_a` and `input_b` with the
pointers `input_read` and `input_write`, and the same for the outputs. -/
structure IoImage where
  input : DoubleBuffer UInt16 Int32
  output : DoubleBuffer UInt16 Int32

def ioImageInit : IoImage where
  input := DoubleBuffer.filled 0
  output := DoubleBuffer.filled 0

def ioImageSetInput (image : IoImage) (id : UInt16) (value : Int32) :
    IoImage :=
  if ioMax ≤ id then image
  else { image with input := image.input.put id value }

def ioImageGetInput (image : IoImage) (id : UInt16) : Int32 :=
  if ioMax ≤ id then 0 else image.input.get id

def ioImageSetOutput (image : IoImage) (id : UInt16) (value : Int32) :
    IoImage :=
  if ioMax ≤ id then image
  else { image with output := image.output.put id value }

def ioImageScanInputs (image : IoImage) : IoImage :=
  { image with input := image.input.swap }

def ioImageApplyOutputs (image : IoImage) : IoImage :=
  { image with output := image.output.swap.overwrite fun _ => 0 }

/-! ## Runs -/

/-- A call of `io_image.c`. -/
inductive ImageAction where
  | setInput (id : UInt16) (value : Int32)
  | setOutput (id : UInt16) (value : Int32)
  | scanInputs
  | applyOutputs

/-- The image, the value that was last given to each input, and whether that
was after the last scan. -/
structure ImageRun where
  image : IoImage
  given : UInt16 → Int32
  fresh : UInt16 → Bool

/-- After `io_image_init`; no input was given a value. -/
def ImageRun.init : ImageRun where
  image := ioImageInit
  given := fun _ => 0
  fresh := fun _ => false

/-- One call. -/
def imageStep (run : ImageRun) : ImageAction → ImageRun × Unit
  | .setInput id value =>
      ({ image := ioImageSetInput run.image id value
         given := Function.update run.given id value
         fresh := Function.update run.fresh id true }, ())
  | .setOutput id value =>
      ({ run with image := ioImageSetOutput run.image id value }, ())
  | .scanInputs =>
      ({ run with
          image := ioImageScanInputs run.image
          fresh := fun _ => false }, ())
  | .applyOutputs =>
      ({ run with image := ioImageApplyOutputs run.image }, ())

/-- The ledger of the inputs. -/
def ImageRun.ledger (run : ImageRun) : DoubleBuffer.Ledger UInt16 Int32 where
  buffer := run.image.input
  given := run.given
  fresh := run.fresh

/-! ## Calls -/

variable {id : UInt16}

theorem ioImageGetInput_of_valid
    (valid : id < ioMax) (image : IoImage) :
    ioImageGetInput image id = image.input.get id :=
  if_neg (UInt16.not_le.mpr valid)

theorem imageStep_setInput
    (run : ImageRun) (valid : id < ioMax) (value : Int32) :
    (imageStep run (.setInput id value)).1.ledger =
      run.ledger.put id value := by
  simp only [imageStep, ImageRun.ledger, ioImageSetInput,
    if_neg (UInt16.not_le.mpr valid)]
  rfl

variable {run : ImageRun}

theorem sound_setInput_beyond
    {other : UInt16} (valid : id < ioMax)
    (beyond : ioMax ≤ other) (sound : run.ledger.Sound id) (value : Int32) :
    (imageStep run (.setInput other value)).1.ledger.Sound id := by
  have different : id ≠ other :=
    UInt16.ne_of_lt (UInt16.lt_of_lt_of_le valid beyond)
  exact
    sound.elsewhere (congrArg IoImage.input (if_pos beyond))
      (Function.update_of_ne different _ _)
      (Function.update_of_ne different _ _)

theorem imageStep_setOutput
    (run : ImageRun) (id : UInt16) (value : Int32) :
    (imageStep run (.setOutput id value)).1.ledger = run.ledger := by
  simp only [imageStep, ImageRun.ledger, ioImageSetOutput]
  split
  · rfl
  · rfl

/-- A scan shows the value that was last given to an input. -/
def ShowsGiven (id : UInt16)
    (made : Run.Transition ImageRun ImageAction Unit) : Prop :=
  made.action = .scanInputs →
  ioImageGetInput made.after.image id = made.before.given id

/-- The input was given a value since the last scan, or both arrays hold the
same for it. -/
def Repeated (id : UInt16) (run : ImageRun) (action : ImageAction) : Prop :=
  action = .scanInputs →
  run.fresh id = true ∨
  run.image.input.waiting id = ioImageGetInput run.image id

theorem showsGiven_iff
    (valid : id < ioMax)
    (sound : run.ledger.Sound id) (action : ImageAction) :
    ShowsGiven id (Run.call imageStep run action) ↔
    Repeated id run action := by
  refine forall_congr' ?_
  rintro rfl
  rw [ioImageGetInput_of_valid valid, ioImageGetInput_of_valid valid]
  exact sound.swap_get_iff

theorem imageStep_sound
    (valid : id < ioMax)
    (sound : run.ledger.Sound id) {action : ImageAction}
    (shows : ShowsGiven id (Run.call imageStep run action)) :
    (imageStep run action).1.ledger.Sound id := by
  cases action with
  | setInput other value =>
      by_cases beyond : ioMax ≤ other
      · exact sound_setInput_beyond valid beyond sound value
      · rw [imageStep_setInput run (UInt16.not_le.mp beyond) value]
        exact sound.put other value
  | setOutput other value =>
      rw [imageStep_setOutput]
      exact sound
  | scanInputs =>
      have shown : run.ledger.swap.buffer.get id = run.given id :=
        (ioImageGetInput_of_valid valid _).symm.trans (shows rfl)
      exact DoubleBuffer.Ledger.Sound.swap shown
  | applyOutputs => exact sound

/--
In every run after `io_image_init`, all scans show the value that was last
given to an input exactly when each scan follows a value for it, or finds the
same value in both arrays.
-/
theorem inputs_stable_iff
    {id : UInt16} (valid : id < ioMax) (actions : List ImageAction) :
    (∀ made ∈ Run.history imageStep ImageRun.init actions, ShowsGiven id made) ↔
    ∀ made ∈ Run.history imageStep ImageRun.init actions,
      Repeated id made.before made.action :=
  Run.history_good_iff (fun run => run.ledger.Sound id) (ShowsGiven id)
    (Repeated id)
    (fun _ action sound => showsGiven_iff valid sound action)
    (fun _ _ sound shows => imageStep_sound valid sound shows)
    (DoubleBuffer.Ledger.sound_filled 0 id) actions

/-- An input that is given its value again before the second scan. -/
theorem repeated_input_stable :
    (3 : UInt16) < ioMax ∧
    ∀ made ∈
      Run.history imageStep ImageRun.init
        [.setInput 3 7, .scanInputs, .setInput 3 7, .scanInputs],
      ShowsGiven 3 made := by
  refine ⟨by decide, (inputs_stable_iff (by decide) _).mpr ?_⟩
  intro made member isScan
  simp only [Run.history, List.mem_cons, List.not_mem_nil, or_false] at member
  rcases member with rfl | rfl | rfl | rfl
  · cases isScan
  · exact Or.inl rfl
  · cases isScan
  · exact Or.inl rfl

/-- An input that is given a value once is gone after the second scan. -/
theorem single_input_vanishes :
    ¬ ∀ id < ioMax, ∀ actions,
      ∀ made ∈ Run.history imageStep ImageRun.init actions,
        ShowsGiven id made := by
  intro stable
  have shown :=
    stable 3 (by decide) [.setInput 3 7, .scanInputs, .scanInputs] _
      (Run.call_mem_history imageStep ImageRun.init
        [.setInput 3 7, .scanInputs] .scanInputs [])
      rfl
  revert shown
  decide

end Endap.Io
