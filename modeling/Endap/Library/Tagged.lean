import Endap.Library.Layout

/-!
# Messages behind a tag

Several formats share a medium.  Each message begins with a tag and goes on
with a body; a receiver takes a sequence of bytes for a message of a format
when it is long enough and its tag is that of the format.

A message is recognized by its own format, whatever follows it, and by no
format with another tag.  Formats whose tags lie in different numbers of bytes
are told apart by the bytes that both tags cover.
-/

namespace Endap.Library

/-- A format: where its tag lies, which tag it is and what follows. -/
structure Tagged (Tag Message : Type*) where
  kind : Layout Tag
  tag : Tag
  body : Layout Message

namespace Tagged

variable {Tag Message : Type*}

/-- The whole message, with its tag. -/
def layout (format : Tagged Tag Message) : Layout (Tag × Message) :=
  format.kind.andThen format.body

/-- The bytes of a message. -/
def write (format : Tagged Tag Message) (message : Message) : List UInt8 :=
  format.layout.write (format.tag, message)

theorem write_length
    (format : Tagged Tag Message) (message : Message) :
    (format.write message).length = format.layout.size :=
  format.layout.write_length _

/-- Every message has the tag of its format. -/
theorem kind_read_write
    (format : Tagged Tag Message) (message : Message) (rest : List UInt8) :
    format.kind.read (format.write message ++ rest) = format.tag :=
  congrArg Prod.fst (format.layout.read_write (format.tag, message) rest)

variable [DecidableEq Tag]

/-- The message that a sequence of bytes is, if it is long enough and has the
tag of the format. -/
def recognize (format : Tagged Tag Message) (bytes : List UInt8) :
    Option Message :=
  if bytes.length < format.layout.size then none
  else
    match format.layout.read bytes with
    | (tag, message) => if tag = format.tag then some message else none

/-- A message is recognized by its format, whatever follows it. -/
theorem recognize_write
    (format : Tagged Tag Message) (message : Message) (rest : List UInt8) :
    format.recognize (format.write message ++ rest) = some message := by
  have enough :
      ¬ (format.write message ++ rest).length < format.layout.size := by
    rw [List.length_append, format.write_length]
    exact Nat.not_lt.mpr (Nat.le_add_right _ _)
  rw [recognize, if_neg enough, write, format.layout.read_write]
  exact if_pos rfl

/-- Bytes with another tag are not recognized. -/
theorem recognize_of_kind_ne
    (format : Tagged Tag Message) {bytes : List UInt8}
    (other : format.kind.read bytes ≠ format.tag) :
    format.recognize bytes = none := by
  rw [recognize]
  split
  · rfl
  · exact if_neg other

end Tagged

namespace Layout

/-- The first byte of a word in memory is its lowest. -/
theorem u8_read_eq_u32_read (bytes : List UInt8) :
    u8.read bytes = (u32.read bytes).toUInt8 := by
  apply UInt8.toNat_inj.mp
  simp [u8, u32, integer, ofLittleEndian]

end Layout

end Endap.Library
