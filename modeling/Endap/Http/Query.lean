import Endap.Library.CText
import Endap.Library.Lines
import Endap.Library.Percent
import Mathlib.Data.UInt

/-!
# Fields of a request

A handler reads the fields of a request out of its body or its query.  The
lookup is a function of the framework: it copies the raw value of a key into a
buffer, and where the value is longer it leaves as much of it as fits and
reports an error.  The program decodes the copy in place, but only when the
lookup reports success.

Numbers are read by the functions of the C library, which stop at the first
character that is not part of the number and clamp a value out of range.
-/

namespace Endap.Http

open Endap.Library

/-- The raw value of a key in a text of fields, as the framework finds it. -/
abbrev RawValue := List UInt8 → List UInt8 → Option (List UInt8)

/-- What a lookup reports and leaves in the buffer of the caller. -/
structure Lookup where
  found : Bool
  text : List UInt8

/-- `httpd_query_key_value`, into a buffer that the caller has emptied. -/
def httpdQueryKeyValue
    (rawValue : RawValue) (body key : List UInt8) (size : Nat) : Lookup :=
  match rawValue body key with
  | none => { found := false, text := [] }
  | some raw =>
      if raw.length < size then { found := true, text := raw }
      else { found := false, text := raw.take (size - 1) }

/-- `http_url_decode_inplace`: the text ends at the first zero, also at one
that was decoded. -/
def httpUrlDecodeInplace (text : List UInt8) : List UInt8 :=
  CText.upToZero (Percent.decodeForm text)

def httpBodyGetValue
    (rawValue : RawValue) (body : List UInt8) (key : String) (size : Nat) :
    Lookup :=
  let looked := httpdQueryKeyValue rawValue body (CText.bytes key) size
  if looked.found then
    { found := true, text := httpUrlDecodeInplace looked.text }
  else looked

/-- The text of a field, if the lookup reports success. -/
def Lookup.value? (looked : Lookup) : Option (List UInt8) :=
  if looked.found then some looked.text else none

theorem Lookup.value?_eq_some
    {looked : Lookup} {text : List UInt8}
    (found : looked.value? = some text) :
    looked.found = true ∧ looked.text = text := by
  rw [Lookup.value?] at found
  split at found
  · next isFound => exact ⟨isFound, Option.some.inj found⟩
  · cases found

def fieldValue (key field : List UInt8) : Option (List UInt8) :=
  match field.dropWhile fun character => character ≠ 61 with
  | [] => none
  | _ :: value =>
      if (field.takeWhile fun character => character ≠ 61) = key then
        some value
      else none

/-- The raw values in a text of fields joined by ampersands: the first field
with the key counts. -/
def splitRawValue : RawValue := fun body key =>
  (body.splitOn 38).findSome? (fieldValue key)

example :
    splitRawValue (CText.bytes "a=1&name=x%20y&name=z") (CText.bytes "name") =
      some (CText.bytes "x%20y") := by
  decide

/-! ## Numbers -/

def isSpace (character : UInt8) : Bool :=
  character = 32 ∨ 9 ≤ character ∧ character ≤ 13

def isDigit (character : UInt8) : Bool := 48 ≤ character ∧ character ≤ 57

/-- The number that the digits at the start of a text stand for. -/
def digitsValue (text : List UInt8) : Nat :=
  (text.takeWhile isDigit).foldl
    (fun value digit => value * 10 + (digit.toNat - 48)) 0

/-- The integer at the start of a text: its sign and its digits, behind
spaces. -/
def integerValue (text : List UInt8) : Int :=
  match text.dropWhile isSpace with
  | [] => 0
  | sign :: rest =>
      if sign = 45 then -(digitsValue rest : Int)
      else if sign = 43 then digitsValue rest
      else digitsValue (sign :: rest)

def atoi (text : List UInt8) : Int32 :=
  Int32.ofInt (max (-2147483648) (min 2147483647 (integerValue text)))

/-- `strtoul` in base ten: a negative number wraps, one out of range gives the
largest. -/
def strtoul (text : List UInt8) : UInt32 :=
  let value := integerValue text
  if value.natAbs < 2 ^ 32 then UInt32.ofInt value else 4294967295

/-- A text is a whole integer: digits, behind spaces and a sign. -/
def isInteger (text : List UInt8) : Bool :=
  match text.dropWhile isSpace with
  | [] => false
  | sign :: rest =>
      let digits := if sign = 45 ∨ sign = 43 then rest else sign :: rest
      !digits.isEmpty && digits.all isDigit

/-! ## The query of a request -/

def httpQueryBufferSize : Nat := 256

/-- `query_value_status_t`, with the text that was found. -/
inductive QueryValue where
  | ok (text : List UInt8)
  | missing
  | invalid

/-- `query_get_value`; a request may have no query, and the framework refuses
to copy one that does not fit.  The value is not decoded. -/
def queryGetValue (rawValue : RawValue) (query : Option (List UInt8))
    (key : String) (size : Nat) : QueryValue :=
  match query with
  | none => .missing
  | some text =>
      if httpQueryBufferSize ≤ text.length then .invalid
      else
        match rawValue text (CText.bytes key) with
        | none => .missing
        | some raw => if raw.length < size then .ok raw else .invalid

def queryParseInt (text : List UInt8) (minValue maxValue : Int) : Option Int :=
  let parsed := integerValue text
  if isInteger text = false then none
  else if parsed < -2147483648 ∨ 2147483647 < parsed then none
  else if parsed < minValue ∨ parsed > maxValue then none
  else some parsed

/-- `query_parse_u32`; a negative number behind a space wraps. -/
def queryParseU32 (text : List UInt8) : Option UInt32 :=
  let parsed := integerValue text
  if text.head? = some 45 ∨ isInteger text = false then none
  else if 2 ^ 32 ≤ parsed.natAbs then none
  else some (UInt32.ofInt parsed)

def queryGetInt (rawValue : RawValue) (query : Option (List UInt8))
    (key : String) (minValue maxValue : Int) : Option Int :=
  match queryGetValue rawValue query key 32 with
  | .ok text => queryParseInt text minValue maxValue
  | _ => none

def queryGetU32 (rawValue : RawValue) (query : Option (List UInt8))
    (key : String) : Option UInt32 :=
  match queryGetValue rawValue query key 32 with
  | .ok text => queryParseU32 text
  | _ => none

/-- `query_get_optional_u32`: nothing when it returns false, else the number
that was found, if there is one. -/
def queryGetOptionalU32 (rawValue : RawValue)
    (query : Option (List UInt8)) (key : String) :
    Option (Option UInt32) :=
  match queryGetValue rawValue query key 32 with
  | .ok text => (queryParseU32 text).map some
  | .missing => some none
  | .invalid => none

/-! ## Integers that were written -/

theorem digitsValue_append_digit
    {digits : List UInt8} {digit : UInt8}
    (areDigits : digits.all isDigit = true)
    (isLast : isDigit digit = true) :
    digitsValue (digits ++ [digit]) =
      digitsValue digits * 10 + (digit.toNat - 48) := by
  have whole : (digits ++ [digit]).takeWhile isDigit = digits ++ [digit] := by
    rw [List.takeWhile_eq_self_iff]
    intro character member
    rcases List.mem_append.mp member with inside | atEnd
    · exact List.all_eq_true.mp areDigits character inside
    · rw [List.mem_singleton.mp atEnd]
      exact isLast
  have front : digits.takeWhile isDigit = digits := by
    rw [List.takeWhile_eq_self_iff]
    exact List.all_eq_true.mp areDigits
  rw [digitsValue, whole, List.foldl_append, digitsValue, front]
  rfl

theorem decimal_digits (number : Nat) :
    Lines.decimal number ≠ [] ∧
    (Lines.decimal number).all isDigit = true ∧
    digitsValue (Lines.decimal number) = number := by
  have lastDigit : ∀ rest : Fin 10,
      isDigit (UInt8.ofNat (48 + rest)) = true ∧
      (UInt8.ofNat (48 + rest)).toNat - 48 = rest := by
    decide
  induction number using Nat.strong_induction_on with
  | _ number induction =>
      by_cases small : number < 10
      · have last := lastDigit ⟨number, small⟩
        rw [Lines.decimal_of_lt small]
        refine ⟨List.cons_ne_nil _ _, ?_, ?_⟩
        · simpa using last.1
        · have single := @digitsValue_append_digit [] _ rfl last.1
          rw [List.nil_append, last.2] at single
          rw [single]
          exact Nat.zero_add number
      · have large : 10 ≤ number := Nat.le_of_not_lt small
        have front := induction (number / 10) (by omega)
        have last := lastDigit ⟨number % 10, Nat.mod_lt _ (by decide)⟩
        rw [Lines.decimal_of_le large]
        refine ⟨?_, ?_, ?_⟩
        · exact List.append_ne_nil_of_right_ne_nil _ (List.cons_ne_nil _ _)
        · rw [List.all_append, front.2.1]
          simpa using last.1
        · rw [digitsValue_append_digit front.2.1 last.1, front.2.2, last.2]
          exact Nat.div_add_mod' number 10

theorem isDigit_separate {character : UInt8}
    (digit : isDigit character = true) :
    isSpace character = false ∧ character ≠ 45 ∧ character ≠ 43 := by
  have checked :
      ∀ value : Fin 256,
        isDigit (UInt8.ofFin value) = true →
        isSpace (UInt8.ofFin value) = false ∧
        UInt8.ofFin value ≠ 45 ∧ UInt8.ofFin value ≠ 43 := by
    decide +kernel
  exact checked character.toFin digit

theorem integerValue_signed (number : Int) :
    isInteger (Lines.signed number) = true ∧
    integerValue (Lines.signed number) = number := by
  rcases decimal_digits number.natAbs with ⟨nonempty, areDigits, value⟩
  by_cases negative : number < 0
  · have text :
        Lines.signed number = 45 :: Lines.decimal number.natAbs :=
      if_pos negative
    have noSpace :
        (45 :: Lines.decimal number.natAbs).dropWhile isSpace =
          45 :: Lines.decimal number.natAbs :=
      rfl
    rw [text, isInteger, integerValue, noSpace]
    refine ⟨?_, ?_⟩
    · simp [nonempty, areDigits]
    · simp only [if_true, value]
      omega
  · have text : Lines.signed number = Lines.decimal number.natAbs :=
      if_neg negative
    rw [text, isInteger, integerValue]
    cases digits : Lines.decimal number.natAbs with
    | nil => exact absurd digits nonempty
    | cons first rest =>
        rw [digits] at areDigits value
        have isFirst : isDigit first = true :=
          List.all_eq_true.mp areDigits first (List.mem_cons_self ..)
        rcases isDigit_separate isFirst with ⟨noSpace, noMinus, noPlus⟩
        have whole : (first :: rest).dropWhile isSpace = first :: rest := by
          rw [List.dropWhile_cons, noSpace]
          rfl
        rw [whole]
        refine ⟨?_, ?_⟩
        · simpa [noMinus, noPlus] using areDigits
        · simp only [noMinus, noPlus, if_false, value]
          omega

/-! ## Lookups -/

section

variable {rawValue : RawValue} {body : List UInt8} {key : String}
    {size : Nat}

theorem httpBodyGetValue_missing
    (missing : rawValue body (CText.bytes key) = none) :
    httpBodyGetValue rawValue body key size =
      { found := false, text := [] } := by
  rw [httpBodyGetValue, httpdQueryKeyValue, missing]
  rfl

theorem httpBodyGetValue_fits
    {raw : List UInt8} (holds : rawValue body (CText.bytes key) = some raw)
    (fits : raw.length < size) :
    httpBodyGetValue rawValue body key size =
      { found := true, text := httpUrlDecodeInplace raw } := by
  rw [httpBodyGetValue, httpdQueryKeyValue, holds]
  simp [fits]

/-- Of a raw value that does not fit the beginning is left, as it was sent,
and an error is reported. -/
theorem httpBodyGetValue_cut
    {raw : List UInt8} (holds : rawValue body (CText.bytes key) = some raw)
    (long : size ≤ raw.length) :
    httpBodyGetValue rawValue body key size =
      { found := false, text := raw.take (size - 1) } := by
  rw [httpBodyGetValue, httpdQueryKeyValue, holds]
  simp [Nat.not_lt_of_le long]

theorem httpBodyGetValue_length_le
    (rawValue : RawValue) (body : List UInt8) (key : String) (size : Nat) :
    (httpBodyGetValue rawValue body key size).text.length ≤ size - 1 := by
  cases holds : rawValue body (CText.bytes key) with
  | none =>
      rw [httpBodyGetValue_missing holds]
      exact Nat.zero_le _
  | some raw =>
      by_cases fits : raw.length < size
      · rw [httpBodyGetValue_fits holds fits]
        have decoded : (Percent.decodeForm raw).length ≤ raw.length :=
          Percent.decodeBy_length_le _ _ raw
        have ended := (CText.upToZero_front (Percent.decodeForm raw)).length_le
        dsimp only [httpUrlDecodeInplace]
        omega
      · rw [httpBodyGetValue_cut holds (Nat.not_lt.mp fits)]
        exact List.length_take_le _ _

theorem zero_notMem_of_value?
    {text : List UInt8}
    (found : (httpBodyGetValue rawValue body key size).value? = some text) :
    0 ∉ text := by
  cases holds : rawValue body (CText.bytes key) with
  | none =>
      rw [httpBodyGetValue_missing holds] at found
      cases found
  | some raw =>
      by_cases fits : raw.length < size
      · rw [httpBodyGetValue_fits holds fits] at found
        cases found
        exact CText.zero_notMem_upToZero _
      · rw [httpBodyGetValue_cut holds (Nat.not_lt.mp fits)] at found
        cases found

end

end Endap.Http
