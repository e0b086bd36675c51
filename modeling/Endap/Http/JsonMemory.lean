import Endap.Http.JsonBuilder
import Endap.Library.AppendingMemory

/-!
# The builder of documents in memory

`append_text` compares a length and copies; `append_format` prints what fits
and compares afterwards.  A string is appended by both, one character at a
time, between two quotes.  It is appended in full or given up, and nothing in
front of it or behind the buffer is written.
-/

namespace Endap.Http.InMemory

open Endap.Library
open Endap.Library.InMemory

def appendText (size : Nat) (text : String) : Step :=
  putText size (CText.bytes text)

/-- `append_format`, with the text that is printed. -/
def appendFormat (size : Nat) (printed : List UInt8) : Step :=
  putPrinted size printed

/-- The cases of `append_json_string`. -/
def appendJsonChar (size : Nat) (character : UInt8) : Step :=
  if character = 34 then appendText size "\\\""
  else if character = 92 then appendText size "\\\\"
  else if character = 8 then appendText size "\\b"
  else if character = 12 then appendText size "\\f"
  else if character = 10 then appendText size "\\n"
  else if character = 13 then appendText size "\\r"
  else if character = 9 then appendText size "\\t"
  else if character < 0x20 then
    appendFormat size
      (CText.bytes "\\u00" ++
        [Json.hexDigit (character / 16), Json.hexDigit (character % 16)])
  else appendFormat size [character]

/-- The loop of `append_json_string` over the memory at `p`, and the quote
behind it. -/
def appendJsonChars (size : Nat) : List UInt8 → Step
  | [] => appendText size "\""
  | character :: rest =>
      if character = 0 then appendText size "\""
      else andThen (appendJsonChar size character) (appendJsonChars size rest)

/-- `append_json_string`; a null pointer is an empty text. -/
def appendJsonString (size : Nat) (memory : Option (List UInt8)) : Step :=
  andThen (appendText size "\"")
    (appendJsonChars size (memory.getD [0]))

section

variable {size : Nat}

theorem appendJsonChar_puts (character : UInt8) :
    Puts size (appendJsonChar size character)
      (Json.escapeChar character) := by
  rw [Json.escapeChar, appendJsonChar]
  split_ifs
  all_goals
    first
      | exact puts_putText _
      | exact puts_putPrinted _

theorem appendJsonChars_eq (memory : List UInt8) :
    appendJsonChars size memory =
      eachThen (appendJsonChar size) (appendText size "\"")
        (CText.upToZero memory) := by
  induction memory with
  | nil => rfl
  | cons character rest induction =>
      rw [CText.upToZero] at induction
      rw [appendJsonChars, CText.upToZero, List.takeWhile_cons, induction]
      by_cases isZero : character = 0
      · simp [isZero, eachThen]
      · simp [isZero, eachThen]

theorem appendJsonString_puts (memory : Option (List UInt8)) :
    Puts size (appendJsonString size memory)
      (Json.quoted Json.escaped (CText.upToZero (memory.getD [0]))) := by
  rw [appendJsonString, appendJsonChars_eq]
  exact
    (puts_putText _).andThen
      (Puts.eachThen appendJsonChar_puts (puts_putText _) _)

theorem appendJsonString_refines (memory : Option (List UInt8))
    {cursor : Cursor} (room : cursor.offset < size) :
    Http.appendJsonString size (CText.upToZero (memory.getD [0])) cursor.text =
      let result := appendJsonString size memory cursor
      if result.1 then some result.2.text else none :=
  (appendJsonString_puts memory).text_eq (Http.appendJsonString_appends _) room

end

/-! ## Literals -/

/-- A text is the literal of a string: it begins with a quote, holds no byte
that JSON forbids, and is read back as the string, whatever stands behind
it. -/
structure IsLiteral (literal text : List UInt8) : Prop where
  opens : literal.head? = some 34
  printable : ∀ byte ∈ literal, 0x20 ≤ byte
  reads :
    ∀ behind, Json.parseString (literal.tail ++ behind) = some (text, behind)

theorem escapeChar_printable {character byte : UInt8}
    (member : byte ∈ Json.escapeChar character) : 0x20 ≤ byte := by
  have checked :
      ∀ value : Fin 256,
        ((Json.escapeChar (UInt8.ofFin value)).all fun byte =>
          0x20 ≤ byte) = true := by
    decide +kernel
  exact
    of_decide_eq_true
      (List.all_eq_true.mp (checked character.toFin) byte member)

theorem quoted_isLiteral (text : List UInt8) :
    IsLiteral (Json.quoted Json.escaped text) text where
  opens := rfl
  printable := by
    intro byte member
    rcases List.mem_cons.mp member with rfl | inside
    · decide
    · rcases List.mem_append.mp inside with escaped | closes
      · rcases List.mem_flatMap.mp escaped with ⟨character, _, isByte⟩
        exact escapeChar_printable isByte
      · rw [List.mem_singleton.mp closes]
        decide
  reads := by
    intro behind
    have read := @Json.Keeps.back _ _ Json.keeps_escaped text trivial behind
    rw [← List.singleton_append, ← List.append_assoc] at read
    exact read

/-- What an attempt to append the literal of a string does. -/
structure AppendsLiteral (size : Nat) (text : List UInt8) (before : Cursor)
    (fits : Bool) (after : Cursor) : Prop where
  fits_iff :
    fits = true ↔
    before.offset < size ∧
    (Json.quoted Json.escaped text).length + 1 ≤ size - before.offset
  isLiteral : IsLiteral (Json.quoted Json.escaped text) text
  appended :
    fits = true →
    after.text = before.text ++ Json.quoted Json.escaped text ∧
    after.offset = before.offset + (Json.quoted Json.escaped text).length ∧
    after.cells after.offset = 0
  front : ∀ index < before.offset, after.cells index = before.cells index
  behind : ∀ index, size ≤ index → after.cells index = before.cells index
  inside : before.offset < size → after.offset ≤ size - 1

/-- A string is appended exactly when its literal and a terminator fit. -/
theorem append_json_string_law {text : List UInt8} (noZero : 0 ∉ text)
    (rest : List UInt8) (size : Nat) (cursor : Cursor) :
    let result := appendJsonString size (some (text ++ 0 :: rest)) cursor
    AppendsLiteral size text cursor result.1 result.2 := by
  have puts := @appendJsonString_puts size (some (text ++ 0 :: rest)) cursor
  have isText : CText.upToZero (text ++ 0 :: rest) = text := by
    rw [CText.upToZero_append_zero, CText.upToZero_of_notMem noZero]
  rw [Option.getD_some, isText] at puts
  constructor
  case fits_iff =>
    rw [puts.fits_iff]
    omega
  case isLiteral => exact quoted_isLiteral text
  case appended =>
    intro fits
    rw [fits] at puts
    exact ⟨puts.text_eq, puts.moves rfl, puts.terminated rfl⟩
  case front => exact puts.front
  case behind => exact puts.behind
  case inside =>
    intro room
    have stays := puts.inside room
    omega

/-- The literal of a quote and a line feed takes six bytes and a
terminator. -/
theorem append_json_string_six :
    (appendJsonString 9 (some ([34, 10] ++ 0 :: []))
          { cells := fun _ => 7, offset := 2 }).1 =
        true ∧
      (appendJsonString 8 (some ([34, 10] ++ 0 :: []))
          { cells := fun _ => 7, offset := 2 }).1 ≠
        true := by
  have law (size : Nat) :=
    @append_json_string_law [34, 10] (by decide) [] size
      { cells := fun _ => 7, offset := 2 }
  constructor
  · exact (law 9).fits_iff.mpr (by decide)
  · exact mt (law 8).fits_iff.mp (by decide)

end Endap.Http.InMemory
