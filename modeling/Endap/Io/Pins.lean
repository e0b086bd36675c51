import Endap.Io.BootListing
import Mathlib.Data.List.Nodup

/-!
# Pins of the bindings

Two bindings should never occupy the same physical pin.  The functions that
bind a channel compare addresses instead, and a pin has several of them: its
own number as a pin of the chip, and the channel of the converter, under every
instance that a caller names.  A request that is accepted although another
binding holds its pin is the only way to occupy a pin twice; at boot, the
comparison with the defaults keeps the two tables apart, but not the entries
of one table.
-/

namespace Endap.Io

open Endap.Device
open Endap.Library
open Endap.Library.Run
open Endap.State

/-- The pins that the bindings of a table occupy. -/
def occupied (entries : List Binding) : List Int :=
  entries.filterMap Binding.pin

variable {entries : List Binding}

/-- A pin that one of the bindings holds. -/
def Holds (entries : List Binding) (pin : Option Int) : Prop :=
  pin ≠ none ∧ ∃ holder ∈ entries, holder.pin = pin

variable {others : List Binding}

variable {entry : Binding}

variable {side : Side} {reserved : Int → Bool}

variable {world : BindingWorld}

/-- An analog input is on a pin of the converter, and no output is. -/
def Side.Wires : Side → Binding → Prop
  | .input, entry =>
      entry.backend.toUInt32 = backendAdcNative →
      analogEndpoint entry.gpio.toInt ≠ none
  | .output, entry =>
      entry.backend.toUInt32 ≠ backendAdcNative ∧
      (entry.backend.toUInt32 = backendGpio →
      analogEndpoint entry.gpio.toInt = none)

instance (side : Side) (entry : Binding) :
    Decidable (side.Wires entry) :=
  match side with
  | .input => inferInstanceAs (Decidable (_ → _))
  | .output => inferInstanceAs (Decidable (_ ∧ _))

/-- All bindings of the tables are wired. -/
def TablesWired (tables : BindingTables) : Prop :=
  ∀ side, ∀ entry ∈ tables side, side.Wires entry

theorem TablesWired.update
    {tables : BindingTables} (wired : TablesWired tables)
    (fits : ∀ entry ∈ entries, side.Wires entry) :
    TablesWired (Function.update tables side entries) := by
  intro other entry member
  by_cases same : other = side
  · subst same
    rw [Function.update_self] at member
    exact fits entry member
  · rw [Function.update_of_ne same] at member
    exact wired other entry member

end Endap.Io
