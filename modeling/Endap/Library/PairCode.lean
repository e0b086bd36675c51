import Mathlib.Data.List.Basic

/-!
# Two symbols for one byte

A text form writes every byte as two symbols.  Reading accepts a symbol only
if it is a digit and joins two digits into a byte; several symbols may be read
as one digit, and one of them is the symbol that is written.

The two laws below are enough for both directions: what is written reads back
as the same bytes, and what is read, written again, is the text it was read
from with every symbol replaced by its written form.
-/

namespace Endap.Library

variable {Byte Digit Symbol : Type*}

/-- The two written symbols of a byte and the reader of one symbol. -/
structure PairCode (Byte Digit Symbol : Type*) where
  first : Byte → Symbol
  second : Byte → Symbol
  digit : Symbol → Option Digit
  join : Digit → Digit → Byte
  normal : Symbol → Symbol

/-- The laws that connect writing and reading. -/
structure PairCode.Lawful (code : PairCode Byte Digit Symbol) : Prop where
  readable :
    ∀ byte, ∃ high low,
      code.digit (code.first byte) = some high ∧
      code.digit (code.second byte) = some low ∧ code.join high low = byte
  canonical :
    ∀ {left right : Symbol} {high low : Digit},
      code.digit left = some high →
      code.digit right = some low →
      code.first (code.join high low) = code.normal left ∧
      code.second (code.join high low) = code.normal right

namespace PairCode

/-- Write every byte as its two symbols. -/
def write (code : PairCode Byte Digit Symbol) : List Byte → List Symbol
  | [] => []
  | byte :: rest =>
      code.first byte :: code.second byte :: code.write rest

/-- Read two symbols at a time; a lone symbol or a non-digit is refused. -/
def read (code : PairCode Byte Digit Symbol) :
    List Symbol → Option (List Byte)
  | [] => some []
  | [_] => none
  | left :: right :: rest =>
      match code.digit left, code.digit right with
      | some high, some low =>
          (code.read rest).map (code.join high low :: ·)
      | _, _ => none

variable {code : PairCode Byte Digit Symbol}

theorem read_write
    (lawful : code.Lawful) (bytes : List Byte) :
    code.read (code.write bytes) = some bytes := by
  induction bytes with
  | nil => rfl
  | cons byte rest induction =>
      obtain ⟨high, low, readsHigh, readsLow, joined⟩ := lawful.readable byte
      simp [write, read, readsHigh, readsLow, induction, joined]

theorem read_cons_cons
    {left right : Symbol} {rest : List Symbol} {bytes : List Byte}
    (equal : code.read (left :: right :: rest) = some bytes) :
    ∃ high low tail,
      code.digit left = some high ∧
      code.digit right = some low ∧
      code.read rest = some tail ∧
      bytes = code.join high low :: tail := by
  simp only [read] at equal
  split at equal
  · rename_i high low readsHigh readsLow
    obtain ⟨tail, readsTail, rfl⟩ := Option.map_eq_some_iff.mp equal
    exact ⟨high, low, tail, readsHigh, readsLow, readsTail, rfl⟩
  · cases equal

theorem read_length :
    ∀ {text : List Symbol} {bytes : List Byte},
      code.read text = some bytes → text.length = 2 * bytes.length
  | [], bytes, equal => by
      simp only [read, Option.some.injEq] at equal
      subst bytes
      rfl
  | [_], _, equal => by
      simp [read] at equal
  | left :: right :: rest, bytes, equal => by
      rcases read_cons_cons equal with
        ⟨high, low, tail, readsHigh, readsLow, readsTail, rfl⟩
      have tailLength := read_length readsTail
      simp only [List.length_cons]
      omega

/-- What was read, written again, is the text in its written form. -/
theorem write_of_read
    (lawful : code.Lawful) :
    ∀ {text : List Symbol} {bytes : List Byte},
      code.read text = some bytes → code.write bytes = text.map code.normal
  | [], bytes, equal => by
      simp only [read, Option.some.injEq] at equal
      subst bytes
      rfl
  | [_], _, equal => by
      simp [read] at equal
  | left :: right :: rest, bytes, equal => by
      obtain ⟨high, low, tail, readsHigh, readsLow, readsTail, rfl⟩ :=
        read_cons_cons equal
      obtain ⟨firstNormal, secondNormal⟩ := lawful.canonical readsHigh readsLow
      simp [write, firstNormal, secondNormal, write_of_read lawful readsTail]

end PairCode

end Endap.Library
