import Mathlib.Data.List.Basic

/-!
# Percent escapes

A percent sign with two hexadecimal digits stands for the byte with that
value; every other character stands for itself, or for what a form makes of
it.  A reader may also take something else for an escape.  One recursion
serves all readers: it is given what three characters in a row stand for, if
they are an escape, and what a single character stands for.
-/

namespace Endap.Library.Percent

/-- The value of a hexadecimal digit. -/
def hexDigit? (character : UInt8) : Option UInt8 :=
  if 48 ≤ character ∧ character ≤ 57 then some (character - 48)
  else if 65 ≤ character ∧ character ≤ 70 then some (character - 55)
  else if 97 ≤ character ∧ character ≤ 102 then some (character - 87)
  else none

/-- What an escape stands for. -/
def escape? (sign high low : UInt8) : Option UInt8 :=
  if sign = 37 then
    (hexDigit? high).bind fun left =>
      (hexDigit? low).map fun right => left * 16 + right
  else none

/-- A text as a reader understands it. -/
def decodeBy (escape : UInt8 → UInt8 → UInt8 → Option UInt8)
    (plain : UInt8 → UInt8) : List UInt8 → List UInt8
  | [] => []
  | [first] => [plain first]
  | [first, second] => [plain first, plain second]
  | first :: second :: third :: rest =>
      match escape first second third with
      | some value => value :: decodeBy escape plain rest
      | none => plain first :: decodeBy escape plain (second :: third :: rest)

/-- A text with its escapes decoded. -/
abbrev decode : List UInt8 → List UInt8 := decodeBy escape? id

/-- A space written as a plus sign. -/
def plusToSpace (character : UInt8) : UInt8 :=
  if character = 43 then 32 else character

/-- The value of a field of a form. -/
abbrev decodeForm : List UInt8 → List UInt8 := decodeBy escape? plusToSpace

section

variable (escape : UInt8 → UInt8 → UInt8 → Option UInt8)
    (plain : UInt8 → UInt8)

variable {first : UInt8}

theorem decodeBy_escape
    {second third value : UInt8}
    (isEscape : escape first second third = some value)
    (rest : List UInt8) :
    decodeBy escape plain (first :: second :: third :: rest) =
      value :: decodeBy escape plain rest := by
  rw [decodeBy, isEscape]

theorem decodeBy_none
    {second third : UInt8}
    (noEscape : escape first second third = none) (rest : List UInt8) :
    decodeBy escape plain (first :: second :: third :: rest) =
      plain first :: decodeBy escape plain (second :: third :: rest) := by
  rw [decodeBy, noEscape]

/-- A text is not made longer. -/
theorem decodeBy_length_le (text : List UInt8) :
    (decodeBy escape plain text).length ≤ text.length := by
  fun_induction decodeBy escape plain text with
  | case1 => exact Nat.le_refl _
  | case2 first => exact Nat.le_refl _
  | case3 first second => exact Nat.le_refl _
  | case4 first second third rest value isEscape shorter =>
      simp only [List.length_cons]
      omega
  | case5 first second third rest noEscape shorter =>
      simp only [List.length_cons] at shorter ⊢
      omega

/-- No escape begins anywhere in the text. -/
def Plain : List UInt8 → Prop
  | first :: second :: third :: rest =>
      escape first second third = none ∧ Plain (second :: third :: rest)
  | _ => True

/-- A character that begins no escape stands for itself. -/
theorem decodeBy_cons_of_none
    (none : ∀ second third, escape first second third = none)
    (rest : List UInt8) :
    decodeBy escape plain (first :: rest) =
      plain first :: decodeBy escape plain rest := by
  match rest with
  | [] => rfl
  | [_] => rfl
  | second :: third :: _ => exact decodeBy_none _ _ (none second third) _

end

/-! ## Encodings of a form -/

theorem escape?_of_ne {first : UInt8} (notSign : first ≠ 37)
    (second third : UInt8) : escape? first second third = none :=
  if_neg notSign

/-- A character is a hexadecimal digit of a value, in either case. -/
def HexWrites (character value : UInt8) : Prop :=
  if value < 10 then character = 48 + value
  else value < 16 ∧ (character = 55 + value ∨ character = 87 + value)

instance (character value : UInt8) : Decidable (HexWrites character value) :=
  inferInstanceAs (Decidable (ite _ _ _))

/-- The texts that a text may be encoded as: a byte stands as it is, unless it
is a percent or a plus sign; a space may be a plus sign; and any byte may be an
escape. -/
inductive FormEncodes : List UInt8 → List UInt8 → Prop where
  | nil : FormEncodes [] []
  | literal {byte : UInt8} {text encoded : List UInt8}
      (notPercent : byte ≠ 37) (notPlus : byte ≠ 43)
      (rest : FormEncodes text encoded) :
      FormEncodes (byte :: text) (byte :: encoded)
  | plus {text encoded : List UInt8} (rest : FormEncodes text encoded) :
      FormEncodes (32 :: text) (43 :: encoded)
  | escape {byte high low : UInt8} {text encoded : List UInt8}
      (isHigh : HexWrites high (byte / 16))
      (isLow : HexWrites low (byte % 16))
      (rest : FormEncodes text encoded) :
      FormEncodes (byte :: text) (37 :: high :: low :: encoded)

theorem hexDigit?_of_writes {character value : UInt8}
    (writes : HexWrites character value) :
    hexDigit? character = some value ∧ character ≠ 0 := by
  have checked :
      ∀ value : Fin 256,
        (UInt8.ofFin value < 10 →
            hexDigit? (48 + UInt8.ofFin value) = some (UInt8.ofFin value) ∧
            48 + UInt8.ofFin value ≠ 0) ∧
          (¬ UInt8.ofFin value < 10 → UInt8.ofFin value < 16 →
          (hexDigit? (55 + UInt8.ofFin value) =
                some (UInt8.ofFin value) ∧
              55 + UInt8.ofFin value ≠ 0) ∧
          hexDigit? (87 + UInt8.ofFin value) = some (UInt8.ofFin value) ∧
          87 + UInt8.ofFin value ≠ 0) := by
    decide +kernel
  have atValue := checked value.toFin
  rw [HexWrites] at writes
  split at writes
  · next small =>
      rw [writes]
      exact atValue.1 small
  · next large =>
      rcases writes with ⟨digit, rfl | rfl⟩
      · exact (atValue.2 large digit).1
      · exact (atValue.2 large digit).2

theorem escape?_of_writes {byte high low : UInt8}
    (isHigh : HexWrites high (byte / 16))
    (isLow : HexWrites low (byte % 16)) :
    escape? 37 high low = some byte := by
  have joined : byte / 16 * 16 + byte % 16 = byte := by
    have small := byte.toNat_lt
    apply UInt8.toNat_inj.mp
    rw [UInt8.toNat_add, UInt8.toNat_mul, UInt8.toNat_div, UInt8.toNat_mod]
    change (byte.toNat / 16 * 16 % 256 + byte.toNat % 16) % 256 = _
    omega
  rw [escape?, if_pos rfl, (hexDigit?_of_writes isHigh).1,
    (hexDigit?_of_writes isLow).1]
  exact congrArg some joined

/-- Decoding undoes every encoding. -/
theorem FormEncodes.decodeForm_eq {text encoded : List UInt8}
    (encodes : FormEncodes text encoded) : decodeForm encoded = text := by
  induction encodes with
  | nil => rfl
  | @literal byte text encoded notPercent notPlus _ induction =>
      calc
        decodeForm (byte :: encoded) = plusToSpace byte :: decodeForm encoded :=
          decodeBy_cons_of_none _ _ (escape?_of_ne notPercent) _
        _ = byte :: text := by rw [induction, plusToSpace, if_neg notPlus]
  | @plus text encoded _ induction =>
      calc
        decodeForm (43 :: encoded) = 32 :: decodeForm encoded :=
          decodeBy_cons_of_none _ _ (escape?_of_ne (by decide)) _
        _ = 32 :: text := by rw [induction]
  | @escape byte high low text encoded isHigh isLow _ induction =>
      calc
        decodeForm (37 :: high :: low :: encoded) =
            byte :: decodeForm encoded :=
          decodeBy_escape _ _ (escape?_of_writes isHigh isLow) _
        _ = byte :: text := by rw [induction]

/-- A text without a zero is encoded without one. -/
theorem FormEncodes.zero_notMem {text encoded : List UInt8}
    (encodes : FormEncodes text encoded) (noZero : 0 ∉ text) :
    0 ∉ encoded := by
  induction encodes with
  | nil => exact noZero
  | literal _ _ _ induction =>
      rw [List.mem_cons, not_or] at noZero ⊢
      exact ⟨noZero.1, induction noZero.2⟩
  | plus _ induction =>
      rw [List.mem_cons, not_or] at noZero ⊢
      exact ⟨by decide, induction noZero.2⟩
  | escape isHigh isLow _ induction =>
      simp only [List.mem_cons, not_or] at noZero ⊢
      exact
        ⟨by decide, (hexDigit?_of_writes isHigh).2.symm,
          (hexDigit?_of_writes isLow).2.symm, induction noZero.2⟩

end Endap.Library.Percent
