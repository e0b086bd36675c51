import Endap.Library.Json
import Mathlib.Algebra.Order.Ring.Int

/-!
# Reading JSON texts back

A writer keeps the strings that are read back as they were.  With such strings
a text is decoded to the value it was written from, whatever stands behind it;
and if a text is decoded to that value, the writer has kept every one of its
strings.  The first needs a bound for the depth of the recursion, which the
length of the text gives.
-/

namespace Endap.Library.Json

/-- The strings that a writer keeps. -/
structure Keeps (writer : Writer) (Kept : List UInt8 → Prop) : Prop where
  back : ∀ {bytes}, Kept bytes → ∀ rest,
    parseString (writer bytes ++ 34 :: rest) = some (bytes, rest)
  only : ∀ {bytes behind rest},
    parseString (writer bytes ++ 34 :: behind) = some (bytes, rest) → Kept bytes

theorem keeps_id : Keeps id Plain where
  back isPlain rest := by
    refine parseChars_plain isPlain ?_ rest
    rw [id, List.length_append, List.length_cons]
    omega
  only read := plain_of_parseChars read

/-! ## Strings that are written with escapes -/

/-- A hexadecimal digit, in small letters. -/
def hexDigit (digit : UInt8) : UInt8 :=
  if digit < 10 then 48 + digit else 87 + digit

/-- A character, with an escape where it needs one. -/
def escapeChar (character : UInt8) : List UInt8 :=
  if character = 34 then [92, 34]
  else if character = 92 then [92, 92]
  else if character = 8 then [92, 98]
  else if character = 12 then [92, 102]
  else if character = 10 then [92, 110]
  else if character = 13 then [92, 114]
  else if character = 9 then [92, 116]
  else if character < 32 then
    [92, 117, 48, 48, hexDigit (character / 16), hexDigit (character % 16)]
  else [character]

/-- A string, with escapes where it needs them. -/
def escaped : Writer := List.flatMap escapeChar

theorem forall_ofNat_iff {P : UInt8 → Prop} {bound : UInt8} :
    (∀ number < bound.toNat, P (UInt8.ofNat number)) ↔
    ∀ byte < bound, P byte := by
  constructor
  · intro all byte small
    rw [← @UInt8.ofNat_toNat byte]
    exact all byte.toNat (UInt8.lt_iff_toNat_lt.mp small)
  · intro all number small
    refine all _ (UInt8.lt_iff_toNat_lt.mpr ?_)
    have := bound.toNat_lt
    rw [UInt8.toNat_ofNat', Nat.mod_eq_of_lt (by omega)]
    exact small

instance (P : UInt8 → Prop) [DecidablePred P] (bound : UInt8) :
    Decidable (∀ byte < bound, P byte) :=
  decidable_of_iff _ forall_ofNat_iff

theorem hexQuad_hexDigit
    (byte : UInt8) (small : byte < 32) (rest : List UInt8) :
    hexQuad (48 :: 48 :: hexDigit (byte / 16) :: hexDigit (byte % 16) :: rest) =
      some (byte.toNat, rest) := by
  have digits :
      ∀ byte < (32 : UInt8),
        Percent.hexDigit? (hexDigit (byte / 16)) = some (byte / 16) ∧
        Percent.hexDigit? (hexDigit (byte % 16)) = some (byte % 16) ∧
        (byte / 16).toNat * 16 + (byte % 16).toNat = byte.toNat := by
    decide +kernel
  rcases digits byte small with ⟨high, low, value⟩
  have zero : Percent.hexDigit? 48 = some 0 := rfl
  simp only [hexQuad, high, low, zero]
  simpa using value

theorem unicodeEscape_hexDigit
    (byte : UInt8) (small : byte < 32) (rest : List UInt8) :
    unicodeEscape
        (48 :: 48 :: hexDigit (byte / 16) :: hexDigit (byte % 16) :: rest) =
      some ([byte], rest) := by
  have below : byte.toNat < 32 := UInt8.lt_iff_toNat_lt.mp small
  have encoded :
      ∀ byte < (32 : UInt8),
        String.utf8EncodeChar (Char.ofNat byte.toNat) = [byte] := by
    decide +kernel
  rw [unicodeEscape, hexQuad_hexDigit byte small]
  simp only [Option.bind_some, encoded byte small]
  rw [if_pos (Or.inl (by omega))]

theorem parseChars_escapeChar
    (character : UInt8) (fuel : Nat) (rest : List UInt8) :
    parseChars (fuel + 1) (escapeChar character ++ rest) =
      (parseChars fuel rest).map fun more =>
        (character :: more.1, more.2) := by
  have noQuote : (92 : UInt8) ≠ 34 := by decide
  rw [escapeChar]
  split
  · next same => simp [parseChars, escape, noQuote, same]
  · next notQuote =>
      split
      · next same => simp [parseChars, escape, noQuote, same]
      · next notBackslash =>
          split
          · next same => simp [parseChars, escape, noQuote, same]
          split
          · next same => simp [parseChars, escape, noQuote, same]
          split
          · next same => simp [parseChars, escape, noQuote, same]
          split
          · next same => simp [parseChars, escape, noQuote, same]
          split
          · next same => simp [parseChars, escape, noQuote, same]
          split
          · next small =>
              simp [parseChars, escape, noQuote,
                unicodeEscape_hexDigit character small]
          · next large =>
              simp [parseChars, notQuote, notBackslash, large]

theorem parseChars_escaped
    {bytes : List UInt8} {fuel : Nat} (enough : bytes.length < fuel)
    (rest : List UInt8) :
    parseChars fuel (escaped bytes ++ 34 :: rest) = some (bytes, rest) := by
  induction bytes generalizing fuel with
  | nil =>
      cases fuel with
      | zero => cases enough
      | succ fuel => rfl
  | cons character bytes induction =>
      cases fuel with
      | zero => cases enough
      | succ fuel =>
          have others := induction (Nat.lt_of_succ_lt_succ enough)
          rw [escaped] at others ⊢
          rw [List.flatMap_cons, List.append_assoc, parseChars_escapeChar,
            others]
          rfl

theorem escapeChar_ne_nil (character : UInt8) : escapeChar character ≠ [] := by
  rw [escapeChar]
  repeat' split
  all_goals exact List.cons_ne_nil _ _

theorem length_le_escaped (bytes : List UInt8) :
    bytes.length ≤ (escaped bytes).length := by
  induction bytes with
  | nil => exact Nat.le_refl _
  | cons character bytes induction =>
      have := List.length_pos_of_ne_nil (escapeChar_ne_nil character)
      rw [escaped] at induction ⊢
      rw [List.flatMap_cons, List.length_append, List.length_cons]
      omega

/-- Written with escapes, all strings are kept. -/
theorem keeps_escaped : Keeps escaped fun _ => True where
  back {bytes} _ rest := by
    refine parseChars_escaped ?_ rest
    have := length_le_escaped bytes
    rw [List.length_append, List.length_cons]
    omega
  only _ := trivial

/-- How many bytes a character takes: two for an escape with a letter, six
for one with a number. -/
def escapedWidth (character : UInt8) : Nat :=
  if character ∈ [34, 92, 8, 12, 10, 13, 9] then 2
  else if character < 32 then 6
  else 1

/-- How many bytes a string takes. -/
def escapedLength (bytes : List UInt8) : Nat := (bytes.map escapedWidth).sum

theorem escapeChar_length (character : UInt8) :
    (escapeChar character).length = escapedWidth character := by
  by_cases short : character ∈ [34, 92, 8, 12, 10, 13, 9]
  · simp only [List.mem_cons, List.not_mem_nil, or_false] at short
    rcases short with rfl | rfl | rfl | rfl | rfl | rfl | rfl <;> rfl
  · rw [escapedWidth, if_neg short]
    simp only [List.mem_cons, List.not_mem_nil, or_false, not_or] at short
    rcases short with ⟨quote, backslash, back, feed, line, carriage, tab⟩
    rw [escapeChar, if_neg quote, if_neg backslash, if_neg back,
      if_neg feed, if_neg line, if_neg carriage, if_neg tab]
    split <;> rfl

theorem escaped_length (bytes : List UInt8) :
    (escaped bytes).length = escapedLength bytes := by
  rw [escaped, escapedLength, List.length_flatMap]
  exact congrArg (fun width => (bytes.map width).sum) (funext escapeChar_length)

/-- A writer that leaves plain strings as they are. -/
def KeepsPlain (writer : Writer) : Prop :=
  ∀ {bytes}, Plain bytes → writer bytes = bytes

theorem keepsPlain_id : KeepsPlain id := fun _ => rfl

theorem keepsPlain_escaped : KeepsPlain escaped := by
  intro bytes isPlain
  induction bytes with
  | nil => rfl
  | cons character bytes induction =>
      rcases isPlain character (List.mem_cons_self ..) with
        ⟨noQuote, noBackslash, large⟩
      have other (value : UInt8) (small : value < 32) : character ≠ value := by
        rintro rfl
        exact absurd small (UInt8.not_lt.mpr large)
      have same : escapeChar character = [character] := by
        rw [escapeChar, if_neg noQuote, if_neg noBackslash,
          if_neg (other 8 (by decide)), if_neg (other 12 (by decide)),
          if_neg (other 10 (by decide)), if_neg (other 13 (by decide)),
          if_neg (other 9 (by decide)), if_neg (UInt8.not_lt.mpr large)]
      have others :=
        induction fun other member =>
          isPlain other (List.mem_cons_of_mem _ member)
      rw [escaped] at others ⊢
      rw [List.flatMap_cons, same, others]
      rfl

theorem isText_escaped (bytes : List UInt8) :
    Utf8.IsText (escaped bytes) ↔ Utf8.IsText bytes := by
  have ascii :
      ∀ byte < (128 : UInt8),
        escapeChar byte ≠ [] ∧ ∀ other ∈ escapeChar byte, other < 128 := by
    decide +kernel
  refine Utf8.isText_flatMap_iff ascii ?_ bytes []
  intro byte large
  have other (value : UInt8) (small : value < 128) : byte ≠ value := by
    rintro rfl
    exact absurd small (UInt8.not_lt.mpr large)
  have notSmall : ¬ byte < 32 :=
    UInt8.not_lt.mpr (UInt8.le_trans (by decide) large)
  rw [escapeChar, if_neg (other 34 (by decide)),
    if_neg (other 92 (by decide)), if_neg (other 8 (by decide)),
    if_neg (other 12 (by decide)), if_neg (other 10 (by decide)),
    if_neg (other 13 (by decide)), if_neg (other 9 (by decide)),
    if_neg notSmall]

/-! ## Values -/

mutual

/-- How deep the decoder goes for a value. -/
def cost : Json → Nat
  | .array items => itemsCost items + 1
  | .object members => membersCost members + 1
  | _ => 1

/-- How deep the decoder goes for the items of an array. -/
def itemsCost : List Json → Nat
  | [] => 0
  | item :: rest => max (cost item) (itemsCost rest) + 1

/-- How deep the decoder goes for the members of an object. -/
def membersCost : List (List UInt8 × Json) → Nat
  | [] => 0
  | (_, value) :: rest => max (cost value) (membersCost rest) + 1

end

theorem cost_pos (value : Json) : 0 < cost value := by
  cases value <;> exact Nat.succ_pos _

variable {first : UInt8}

theorem skipSpace_cons
    (visible : 32 < first) (rest : List UInt8) :
    skipSpace (first :: rest) = first :: rest := by
  have other (space : UInt8) (small : space ≤ 32) : first ≠ space := by
    rintro rfl
    exact absurd visible (UInt8.not_lt.mpr small)
  simp [skipSpace, other 32 (by decide), other 9 (by decide),
    other 10 (by decide), other 13 (by decide)]

theorem expect_self
    (visible : 32 < first) (rest : List UInt8) :
    expect first (first :: rest) = some rest := by
  simp [expect, skipSpace_cons visible]

theorem expect_other
    {character : UInt8} (visible : 32 < first)
    (other : first ≠ character) (rest : List UInt8) :
    expect character (first :: rest) = none := by
  simp [expect, skipSpace_cons visible, other]

theorem numberText_first (mantissa exponent : Int) :
    ∃ first rest,
      numberText mantissa exponent = first :: rest ∧
      (first = 45 ∨ isDigit first = true) := by
  rw [numberText, Lines.signed]
  split
  · exact ⟨_, _, rfl, Or.inl rfl⟩
  · rcases decimal_spec mantissa.natAbs with ⟨digits, _, nonempty, _⟩
    cases decimal : Lines.decimal mantissa.natAbs with
    | nil =>
        rw [decimal] at nonempty
        exact absurd rfl nonempty
    | cons first rest =>
        refine ⟨first, _, rfl, Or.inr (digits first ?_)⟩
        rw [decimal]
        exact List.mem_cons_self ..

theorem visible_of_number
    (starts : first = 45 ∨ isDigit first = true) :
    32 < first := by
  rcases starts with rfl | digit
  · decide
  · rw [isDigit, decide_eq_true_eq] at digit
    exact UInt8.lt_of_lt_of_le (by decide) digit.1

theorem text_first (writer : Writer) (value : Json) :
    ∃ first rest,
      text writer value = first :: rest ∧ 32 < first ∧ first ≠ 93 := by
  cases value with
  | bool value =>
      cases value <;> exact ⟨_, _, rfl, by decide, by decide⟩
  | number mantissa exponent =>
      rcases numberText_first mantissa exponent with ⟨first, rest, same, starts⟩
      refine ⟨first, rest, same, visible_of_number starts, ?_⟩
      rintro rfl
      revert starts
      decide
  | _ => exact ⟨_, _, rfl, by decide, by decide⟩

theorem text_length_pos (writer : Writer) (value : Json) :
    0 < (text writer value).length := by
  rcases text_first writer value with ⟨first, rest, same, _⟩
  rw [same]
  exact Nat.succ_pos _

theorem itemsText_first
    (writer : Writer) (item : Json) (items : List Json) :
    ∃ first rest,
      itemsText writer (item :: items) = first :: rest ∧ 32 < first ∧
      first ≠ 93 := by
  rcases text_first writer item with ⟨first, rest, same, starts⟩
  cases items with
  | nil => exact ⟨first, rest, by rw [itemsText, same], starts⟩
  | cons next items =>
      exact ⟨first, _, by rw [itemsText, same, List.cons_append], starts⟩

theorem membersText_first
    (writer : Writer) (member : List UInt8 × Json)
    (members : List (List UInt8 × Json)) :
    ∃ rest, membersText writer (member :: members) = 34 :: rest := by
  rcases member with ⟨key, value⟩
  cases members with
  | _ =>
      exact ⟨_, by rw [membersText, quoted, List.cons_append]⟩

mutual

theorem cost_lt (writer : Writer) :
    ∀ value, cost value < 2 * (text writer value).length
  | .null | .bool true | .bool false => by simp [cost, text]
  | .number mantissa exponent => by
      have := text_length_pos writer (.number mantissa exponent)
      simp only [cost]
      omega
  | .string bytes => by
      have := text_length_pos writer (.string bytes)
      simp only [cost]
      omega
  | .array items => by
      have := itemsCost_le writer items
      simp only [cost, text, List.length_cons, List.length_append]
      omega
  | .object members => by
      have := membersCost_le writer members
      simp only [cost, text, List.length_cons, List.length_append]
      omega

theorem itemsCost_le (writer : Writer) :
    ∀ items, itemsCost items ≤ 2 * (itemsText writer items).length
  | [] => Nat.le_refl _
  | [item] => by
      have := cost_lt writer item
      simp only [itemsCost, itemsText]
      omega
  | item :: next :: rest => by
      have first := cost_lt writer item
      have others := itemsCost_le writer (next :: rest)
      rw [itemsText, List.length_append, List.length_cons, itemsCost]
      omega

theorem membersCost_le (writer : Writer) :
    ∀ members, membersCost members ≤ 2 * (membersText writer members).length
  | [] => Nat.le_refl _
  | [(key, value)] => by
      have := cost_lt writer value
      simp only [membersCost, membersText, List.length_append, List.length_cons]
      omega
  | (key, value) :: next :: rest => by
      have first := cost_lt writer value
      have others := membersCost_le writer (next :: rest)
      rw [membersText, List.length_append, List.length_cons,
        List.length_append, List.length_cons, membersCost]
      omega

end

section RoundTrip

variable {writer : Writer} {Kept : List UInt8 → Prop}

theorem quoted_append (bytes rest : List UInt8) :
    quoted writer bytes ++ rest = 34 :: (writer bytes ++ 34 :: rest) := by
  simp [quoted]

theorem parseValue_number
    (mantissa exponent : Int) (fuel : Nat) (rest : List UInt8) :
    parseValue (fuel + 1) (numberText mantissa exponent ++ rest) =
      parseNumber (numberText mantissa exponent ++ rest) := by
  rcases numberText_first mantissa exponent with ⟨first, more, same, starts⟩
  have other :
      first ≠ 34 ∧ first ≠ 91 ∧ first ≠ 123 ∧ first ≠ 116 ∧ first ≠ 102 ∧
      first ≠ 110 := by
    refine ⟨?_, ?_, ?_, ?_, ?_, ?_⟩ <;> (rintro rfl; revert starts; decide)
  rcases other with ⟨quote, bracket, brace, letterT, letterF, letterN⟩
  rw [same, List.cons_append, parseValue,
    skipSpace_cons (visible_of_number starts)]
  simp only [if_neg quote, if_neg bracket, if_neg brace, if_neg letterT,
    if_neg letterF, if_neg letterN]

theorem parseValue_string (bytes rest : List UInt8) (fuel : Nat) :
    parseValue (fuel + 1) (quoted writer bytes ++ rest) =
      (parseString (writer bytes ++ 34 :: rest)).map fun read =>
        (.string read.1, read.2) := by
  rw [quoted_append, parseValue, skipSpace_cons (by decide)]
  rfl

theorem parseValue_array
    (item : Json) (items : List Json) (rest : List UInt8) (fuel : Nat) :
    parseValue (fuel + 1) (text writer (.array (item :: items)) ++ rest) =
      (parseItems fuel (itemsText writer (item :: items) ++ 93 :: rest)).map
        fun read => (.array read.1, read.2) := by
  rcases itemsText_first writer item items with
    ⟨first, more, same, visible, other⟩
  have noEnd :
      expect 93 (itemsText writer (item :: items) ++ 93 :: rest) = none := by
    rw [same, List.cons_append, expect_other visible other]
  have noQuote : (91 : UInt8) ≠ 34 := by decide
  rw [text, List.cons_append, List.append_assoc, parseValue,
    skipSpace_cons (by decide)]
  simp only [if_neg noQuote, if_true, List.cons_append, List.nil_append, noEnd]

theorem parseValue_object
    (member : List UInt8 × Json) (members : List (List UInt8 × Json))
    (rest : List UInt8) (fuel : Nat) :
    parseValue (fuel + 1) (text writer (.object (member :: members)) ++ rest) =
      (parseMembers fuel
          (membersText writer (member :: members) ++ 125 :: rest)).map
        fun read => (.object read.1, read.2) := by
  rcases membersText_first writer member members with ⟨more, same⟩
  have noEnd :
      expect 125 (membersText writer (member :: members) ++ 125 :: rest) =
        none := by
    rw [same, List.cons_append, expect_other (by decide) (by decide)]
  have noQuote : (123 : UInt8) ≠ 34 := by decide
  have noBracket : (123 : UInt8) ≠ 91 := by decide
  rw [text, List.cons_append, List.append_assoc, parseValue,
    skipSpace_cons (by decide)]
  simp only [if_neg noQuote, if_neg noBracket, if_true, List.cons_append,
    List.nil_append, noEnd]

mutual

theorem parseValue_text (keeps : Keeps writer Kept) :
    ∀ (value : Json) (fuel : Nat) (rest : List UInt8),
      cost value ≤ fuel → (∀ bytes ∈ strings value, Kept bytes) →
      EndsNumber rest →
      parseValue fuel (text writer value ++ rest) = some (value, rest)
  | value, 0, _, enough, _, _ =>
      absurd (cost_pos value) (Nat.not_lt.mpr enough)
  | .null, _ + 1, rest, _, _, _ => by
      simp [text, parseValue, skipSpace_cons, literal]
  | .bool true, _ + 1, rest, _, _, _ => by
      simp [text, parseValue, skipSpace_cons, literal]
  | .bool false, _ + 1, rest, _, _, _ => by
      simp [text, parseValue, skipSpace_cons, literal]
  | .number mantissa exponent, fuel + 1, rest, _, _, ends => by
      rw [text, parseValue_number, parseNumber_text mantissa exponent ends]
  | .string bytes, fuel + 1, rest, _, kept, _ => by
      have isKept := kept bytes (List.mem_singleton_self bytes)
      rw [text, parseValue_string, keeps.back isKept]
      rfl
  | .array [], fuel + 1, rest, _, _, _ => by
      simp [text, itemsText, parseValue, skipSpace_cons, expect_self]
  | .array (item :: items), fuel + 1, rest, enough, kept, _ => by
      have read :=
        parseItems_text keeps item items fuel rest
          (Nat.le_of_succ_le_succ enough) kept
      rw [parseValue_array, read]
      rfl
  | .object [], fuel + 1, rest, _, _, _ => by
      simp [text, membersText, parseValue, skipSpace_cons, expect_self]
  | .object (member :: members), fuel + 1, rest, enough, kept, _ => by
      have read :=
        parseMembers_text keeps member members fuel rest
          (Nat.le_of_succ_le_succ enough) kept
      rw [parseValue_object, read]
      rfl

theorem parseItems_text (keeps : Keeps writer Kept) :
    ∀ (item : Json) (items : List Json) (fuel : Nat) (rest : List UInt8),
      itemsCost (item :: items) ≤ fuel →
      (∀ bytes ∈ itemStrings (item :: items), Kept bytes) →
      parseItems fuel (itemsText writer (item :: items) ++ 93 :: rest) =
        some (item :: items, rest)
  | _, _, 0, _, enough, _ => absurd enough (Nat.not_succ_le_zero _)
  | item, [], fuel + 1, rest, enough, kept => by
      rw [itemsCost] at enough
      have first :=
        parseValue_text keeps item fuel (93 :: rest) (by omega)
          (fun bytes member => kept bytes (List.mem_append_left _ member))
          (endsNumber_bracket rest)
      rw [itemsText, parseItems, first]
      simp [expect_self]
  | item, next :: items, fuel + 1, rest, enough, kept => by
      rw [itemsCost] at enough
      have first :=
        parseValue_text keeps item fuel
          (44 :: (itemsText writer (next :: items) ++ 93 :: rest))
          (by omega)
          (fun bytes member => kept bytes (List.mem_append_left _ member))
          (endsNumber_comma _)
      have others :=
        parseItems_text keeps next items fuel rest (by omega)
          (fun bytes member => kept bytes (List.mem_append_right _ member))
      rw [itemsText, List.append_assoc, List.cons_append, parseItems, first]
      simp [expect_self, expect_other, others]

theorem parseMembers_text (keeps : Keeps writer Kept) :
    ∀ (member : List UInt8 × Json) (members : List (List UInt8 × Json))
      (fuel : Nat) (rest : List UInt8),
      membersCost (member :: members) ≤ fuel →
      (∀ bytes ∈ memberStrings (member :: members), Kept bytes) →
      parseMembers fuel
          (membersText writer (member :: members) ++ 125 :: rest) =
        some (member :: members, rest)
  | _, _, 0, _, enough, _ => absurd enough (Nat.not_succ_le_zero _)
  | (key, value), [], fuel + 1, rest, enough, kept => by
      rw [membersCost] at enough
      have first :=
        parseValue_text keeps value fuel (125 :: rest) (by omega)
          (fun bytes member =>
            kept bytes (List.mem_cons_of_mem _ (List.mem_append_left _ member)))
          (endsNumber_brace rest)
      have isKept := kept key (List.mem_cons_self ..)
      rw [membersText, List.append_assoc, List.cons_append, quoted_append,
        parseMembers, expect_self (by decide)]
      simp [keeps.back isKept, expect_self, first]
  | (key, value), next :: members, fuel + 1, rest, enough, kept => by
      rw [membersCost] at enough
      have first :=
        parseValue_text keeps value fuel
          (44 :: (membersText writer (next :: members) ++ 125 :: rest))
          (by omega)
          (fun bytes member =>
            kept bytes (List.mem_cons_of_mem _ (List.mem_append_left _ member)))
          (endsNumber_comma _)
      have others :=
        parseMembers_text keeps next members fuel rest (by omega)
          (fun bytes member =>
            kept bytes
              (List.mem_cons_of_mem _ (List.mem_append_right _ member)))
      have isKept := kept key (List.mem_cons_self ..)
      rw [membersText, List.append_assoc, List.cons_append, quoted_append,
        List.append_assoc, List.cons_append, parseMembers,
        expect_self (by decide)]
      simp [keeps.back isKept, expect_self, expect_other, first, others]

end

/-- What was read when the items of an array were: the first of them, and then
the end or the others. -/
theorem parseItems_cons
    {fuel : Nat} {input behind : List UInt8} {item : Json}
    {items : List Json}
    (read : parseItems (fuel + 1) input = some (item :: items, behind)) :
    ∃ last,
      parseValue fuel input = some (item, last) ∧
      ((items = [] ∧ expect 93 last = some behind) ∨
      ∃ next,
        expect 93 last = none ∧ expect 44 last = some next ∧
        parseItems fuel next = some (items, behind)) := by
  rw [parseItems] at read
  rcases Option.bind_eq_some_iff.mp read with ⟨⟨first, last⟩, isFirst, out⟩
  dsimp only at out
  split at out
  · next ends =>
      cases out
      exact ⟨last, isFirst, Or.inl ⟨rfl, ends⟩⟩
  · next goesOn =>
      rcases Option.bind_eq_some_iff.mp out with ⟨next, isNext, out⟩
      rcases Option.map_eq_some_iff.mp out with
        ⟨⟨others, _⟩, areOthers, same⟩
      cases same
      exact ⟨last, isFirst, Or.inr ⟨next, goesOn, isNext, areOthers⟩⟩

theorem parseMembers_cons
    {fuel : Nat} {input behind key : List UInt8} {value : Json}
    {members : List (List UInt8 × Json)}
    (read :
      parseMembers (fuel + 1) input = some ((key, value) :: members, behind)) :
    ∃ inKey afterKey afterColon last,
      expect 34 input = some inKey ∧
      parseString inKey = some (key, afterKey) ∧
      expect 58 afterKey = some afterColon ∧
      parseValue fuel afterColon = some (value, last) ∧
      ((members = [] ∧ expect 125 last = some behind) ∨
      ∃ next,
        expect 125 last = none ∧ expect 44 last = some next ∧
        parseMembers fuel next = some (members, behind)) := by
  rw [parseMembers] at read
  rcases Option.bind_eq_some_iff.mp read with ⟨inKey, isQuote, out⟩
  rcases Option.bind_eq_some_iff.mp out with ⟨⟨_, afterKey⟩, isKey, out⟩
  rcases Option.bind_eq_some_iff.mp out with ⟨afterColon, isColon, out⟩
  rcases Option.bind_eq_some_iff.mp out with ⟨⟨_, last⟩, isValue, out⟩
  dsimp only at out
  split at out
  · next ends =>
      cases out
      exact
        ⟨inKey, afterKey, afterColon, last, isQuote, isKey, isColon, isValue,
          Or.inl ⟨rfl, ends⟩⟩
  · next goesOn =>
      rcases Option.bind_eq_some_iff.mp out with ⟨next, isNext, out⟩
      rcases Option.map_eq_some_iff.mp out with
        ⟨⟨others, _⟩, areOthers, same⟩
      cases same
      exact
        ⟨inKey, afterKey, afterColon, last, isQuote, isKey, isColon, isValue,
          Or.inr ⟨next, goesOn, isNext, areOthers⟩⟩

/-- If a key is read back from its text, then it has been kept, and what
stands behind its colon is what was written there. -/
theorem key_read (keeps : Keeps writer Kept)
    {key after inKey afterKey afterColon : List UInt8}
    (isQuote : expect 34 (quoted writer key ++ 58 :: after) = some inKey)
    (isKey : parseString inKey = some (key, afterKey))
    (isColon : expect 58 afterKey = some afterColon) :
    Kept key ∧ afterColon = after := by
  rw [quoted_append, expect_self (by decide)] at isQuote
  cases isQuote
  have keyKept := keeps.only isKey
  rw [keeps.back keyKept] at isKey
  cases isKey
  rw [expect_self (by decide)] at isColon
  cases isColon
  exact ⟨keyKept, rfl⟩

mutual

theorem kept_of_parseValue (keeps : Keeps writer Kept) :
    ∀ (value : Json) (fuel : Nat) {rest behind : List UInt8},
      EndsNumber rest →
      parseValue fuel (text writer value ++ rest) = some (value, behind) →
      cost value ≤ fuel ∧ ∀ bytes ∈ strings value, Kept bytes
  | _, 0, _, _, _, read => nomatch read
  | .null, fuel + 1, _, _, _, _ | .bool _, fuel + 1, _, _, _, _
  | .number _ _, fuel + 1, _, _, _, _ =>
      ⟨Nat.succ_le_succ (Nat.zero_le fuel),
        fun _ member => absurd member List.not_mem_nil⟩
  | .string bytes, fuel + 1, _, _, _, read => by
      rw [text, parseValue_string] at read
      rcases Option.map_eq_some_iff.mp read with ⟨⟨out, last⟩, isString, same⟩
      cases same
      refine ⟨Nat.succ_le_succ (Nat.zero_le fuel), fun other member => ?_⟩
      rw [List.mem_singleton.mp member]
      exact keeps.only isString
  | .array [], fuel + 1, _, _, _, _ =>
      ⟨Nat.succ_le_succ (Nat.zero_le fuel),
        fun _ member => absurd member List.not_mem_nil⟩
  | .array (item :: items), fuel + 1, _, _, _, read => by
      rw [parseValue_array] at read
      rcases Option.map_eq_some_iff.mp read with ⟨⟨out, last⟩, areItems, same⟩
      cases same
      rcases kept_of_parseItems keeps item items fuel areItems with
        ⟨enough, kept⟩
      exact ⟨Nat.succ_le_succ enough, kept⟩
  | .object [], fuel + 1, _, _, _, _ =>
      ⟨Nat.succ_le_succ (Nat.zero_le fuel),
        fun _ member => absurd member List.not_mem_nil⟩
  | .object (member :: members), fuel + 1, _, _, _, read => by
      rw [parseValue_object] at read
      rcases Option.map_eq_some_iff.mp read with
        ⟨⟨out, last⟩, areMembers, same⟩
      cases same
      rcases kept_of_parseMembers keeps member members fuel areMembers with
        ⟨enough, kept⟩
      exact ⟨Nat.succ_le_succ enough, kept⟩

theorem kept_of_parseItems (keeps : Keeps writer Kept) :
    ∀ (item : Json) (items : List Json) (fuel : Nat)
      {rest behind : List UInt8},
      parseItems fuel (itemsText writer (item :: items) ++ 93 :: rest) =
          some (item :: items, behind) →
        itemsCost (item :: items) ≤ fuel ∧
        ∀ bytes ∈ itemStrings (item :: items), Kept bytes
  | _, _, 0, _, _, read => nomatch read
  | item, [], fuel + 1, rest, _, read => by
      rcases parseItems_cons read with ⟨last, isFirst, _⟩
      rw [itemsText] at isFirst
      rcases kept_of_parseValue keeps item fuel (endsNumber_bracket rest)
          isFirst with ⟨enough, kept⟩
      refine ⟨?_, fun bytes member => ?_⟩
      · simp only [itemsCost]
        omega
      · rw [itemStrings, itemStrings, List.append_nil] at member
        exact kept bytes member
  | item, next :: items, fuel + 1, rest, _, read => by
      rcases parseItems_cons read with ⟨last, isFirst, out⟩
      rw [itemsText, List.append_assoc, List.cons_append] at isFirst
      rcases kept_of_parseValue keeps item fuel (endsNumber_comma _)
          isFirst with ⟨enough, kept⟩
      -- What stands behind this item is what was written there.
      rw [parseValue_text keeps item fuel _ enough kept
        (endsNumber_comma _)] at isFirst
      cases isFirst
      rcases out with ⟨none, _⟩ | ⟨inOthers, _, isComma, others⟩
      · cases none
      · rw [expect_self (by decide)] at isComma
        cases isComma
        rcases kept_of_parseItems keeps next items fuel others with
          ⟨otherEnough, otherKept⟩
        refine ⟨?_, fun bytes member => ?_⟩
        · rw [itemsCost]
          omega
        · rcases List.mem_append.mp member with here | there
          · exact kept bytes here
          · exact otherKept bytes there

theorem kept_of_parseMembers (keeps : Keeps writer Kept) :
    ∀ (member : List UInt8 × Json) (members : List (List UInt8 × Json))
      (fuel : Nat) {rest behind : List UInt8},
      parseMembers fuel
            (membersText writer (member :: members) ++ 125 :: rest) =
          some (member :: members, behind) →
        membersCost (member :: members) ≤ fuel ∧
        ∀ bytes ∈ memberStrings (member :: members), Kept bytes
  | _, _, 0, _, _, read => nomatch read
  | (key, value), [], fuel + 1, rest, _, read => by
      rcases parseMembers_cons read with
        ⟨_, _, _, _, isQuote, isKey, isColon, isValue, _⟩
      rw [membersText, List.append_assoc, List.cons_append] at isQuote
      rcases key_read keeps isQuote isKey isColon with ⟨keyKept, rfl⟩
      rcases kept_of_parseValue keeps value fuel (endsNumber_brace rest)
          isValue with ⟨enough, kept⟩
      refine ⟨?_, fun bytes member => ?_⟩
      · simp only [membersCost]
        omega
      · rw [memberStrings, memberStrings, List.append_nil] at member
        rcases List.mem_cons.mp member with rfl | inside
        · exact keyKept
        · exact kept bytes inside
  | (key, value), next :: members, fuel + 1, rest, _, read => by
      rcases parseMembers_cons read with
        ⟨_, _, _, _, isQuote, isKey, isColon, isValue, out⟩
      rw [membersText, List.append_assoc, List.cons_append,
        List.append_assoc, List.cons_append] at isQuote
      rcases key_read keeps isQuote isKey isColon with ⟨keyKept, rfl⟩
      rcases kept_of_parseValue keeps value fuel (endsNumber_comma _)
          isValue with ⟨enough, kept⟩
      rw [parseValue_text keeps value fuel _ enough kept
        (endsNumber_comma _)] at isValue
      cases isValue
      rcases out with ⟨none, _⟩ | ⟨inOthers, _, isComma, others⟩
      · cases none
      · rw [expect_self (by decide)] at isComma
        cases isComma
        rcases kept_of_parseMembers keeps next members fuel others with
          ⟨otherEnough, otherKept⟩
        refine ⟨?_, fun bytes member => ?_⟩
        · rw [membersCost]
          omega
        · rcases List.mem_cons.mp member with rfl | inside
          · exact keyKept
          · rcases List.mem_append.mp inside with here | there
            · exact kept bytes here
            · exact otherKept bytes there

end

end RoundTrip

/-! ## Valid text -/

theorem isText_cons {byte : UInt8} (ascii : byte < 128) (rest : List UInt8) :
    Utf8.IsText (byte :: rest) ↔ Utf8.IsText rest := by
  have cut := Utf8.isText_append_cons ascii [] rest
  simpa using cut

theorem isText_quoted (writer : Writer) (bytes rest : List UInt8) :
    Utf8.IsText (quoted writer bytes ++ rest) ↔
    Utf8.IsText (writer bytes) ∧ Utf8.IsText rest := by
  rw [quoted_append, isText_cons (by decide),
    Utf8.isText_append_cons (by decide)]

theorem ascii_of_isDigit {digit : UInt8} (isDigit : isDigit digit = true) :
    digit < 128 := by
  rw [Json.isDigit, decide_eq_true_eq] at isDigit
  exact UInt8.lt_of_le_of_lt isDigit.2 (by decide)

theorem ascii_signed (number : Int) :
    ∀ byte ∈ Lines.signed number, byte < 128 := by
  have digits (byte : UInt8)
      (member : byte ∈ Lines.decimal number.natAbs) : byte < 128 :=
    ascii_of_isDigit ((decimal_spec number.natAbs).1 byte member)
  rw [Lines.signed]
  split
  · intro byte member
    rcases List.mem_cons.mp member with rfl | inside
    · decide
    · exact digits byte inside
  · exact digits

theorem isText_numberText (mantissa exponent : Int) :
    Utf8.IsText (numberText mantissa exponent) := by
  refine Utf8.isText_of_ascii fun byte member => ?_
  rw [numberText] at member
  rcases List.mem_append.mp member with inside | inside
  · exact ascii_signed mantissa byte inside
  · split at inside
    · cases inside
    · rcases List.mem_cons.mp inside with rfl | digits
      · decide
      · exact ascii_signed exponent byte digits

mutual

theorem isText_text (writer : Writer) :
    ∀ value : Json,
      Utf8.IsText (text writer value) ↔
      ∀ bytes ∈ strings value, Utf8.IsText (writer bytes)
  | .null | .bool true | .bool false => by
      simp only [strings, List.not_mem_nil, false_implies, implies_true,
        iff_true, text]
      exact Utf8.isText_of_ascii (by simp)
  | .number mantissa exponent => by
      simp only [strings, List.not_mem_nil, false_implies, implies_true,
        iff_true]
      exact isText_numberText mantissa exponent
  | .string bytes => by
      have cut := isText_quoted writer bytes []
      rw [List.append_nil] at cut
      simp only [text, strings, List.mem_singleton, forall_eq, cut,
        Utf8.isText_nil, and_true]
  | .array items => by
      rw [text, isText_cons (by decide), Utf8.isText_append_cons (by decide),
        isText_itemsText writer items, strings]
      exact and_iff_left Utf8.isText_nil
  | .object members => by
      rw [text, isText_cons (by decide), Utf8.isText_append_cons (by decide),
        isText_membersText writer members, strings]
      exact and_iff_left Utf8.isText_nil

theorem isText_itemsText (writer : Writer) :
    ∀ items : List Json,
      Utf8.IsText (itemsText writer items) ↔
      ∀ bytes ∈ itemStrings items, Utf8.IsText (writer bytes)
  | [] => by simp [itemsText, itemStrings]
  | [item] => by
      simp only [itemsText, itemStrings, List.append_nil]
      exact isText_text writer item
  | item :: next :: rest => by
      rw [itemsText, Utf8.isText_append_cons (by decide),
        isText_text writer item, isText_itemsText writer (next :: rest),
        itemStrings]
      exact List.forall_mem_append.symm

theorem isText_membersText (writer : Writer) :
    ∀ members : List (List UInt8 × Json),
      Utf8.IsText (membersText writer members) ↔
      ∀ bytes ∈ memberStrings members, Utf8.IsText (writer bytes)
  | [] => by simp [membersText, memberStrings]
  | [(key, value)] => by
      rw [membersText, isText_quoted, isText_cons (by decide),
        isText_text writer value]
      simp [memberStrings]
  | (key, value) :: next :: rest => by
      have unfolded :
          memberStrings ((key, value) :: next :: rest) =
            key :: (strings value ++ memberStrings (next :: rest)) := by
        rw [memberStrings]
      rw [membersText, isText_quoted, isText_cons (by decide),
        Utf8.isText_append_cons (by decide), isText_text writer value,
        isText_membersText writer (next :: rest), unfolded,
        List.forall_mem_cons, List.forall_mem_append]

end

/-- A text is decoded to the value it was written from if and only if the
writer keeps its strings and makes valid text of them. -/
theorem decode_text_iff
    {writer : Writer} {Kept : List UInt8 → Prop} (keeps : Keeps writer Kept)
    (value : Json) :
    decode (text writer value) = some value ↔
    ∀ bytes ∈ strings value, Kept bytes ∧ Utf8.IsText (writer bytes) := by
  rw [decode]
  constructor
  · intro decoded
    split at decoded
    · next valid =>
        cases read :
            parseValue (2 * (text writer value).length)
              (text writer value) with
        | none =>
            rw [read] at decoded
            cases decoded
        | some out =>
            rcases out with ⟨other, rest⟩
            rw [read] at decoded
            simp only at decoded
            split at decoded
            · cases decoded
              have kept :=
                @kept_of_parseValue writer Kept keeps value _ [] rest
                  endsNumber_nil (by rw [List.append_nil]; exact read)
              exact fun bytes member =>
                ⟨kept.2 bytes member,
                  (isText_text writer value).mp valid bytes member⟩
            · cases decoded
    · cases decoded
  · intro kept
    have valid :=
      (isText_text writer value).mpr fun bytes member =>
        (kept bytes member).2
    have read :=
      parseValue_text keeps value _ [] (Nat.le_of_lt (cost_lt writer value))
        (fun bytes member => (kept bytes member).1) endsNumber_nil
    rw [List.append_nil] at read
    rw [if_pos valid, read]
    rfl

/-- A text with escapes is decoded to its value if the strings are valid. -/
theorem decode_escaped_iff (value : Json) :
    decode (text escaped value) = some value ↔
    ∀ bytes ∈ strings value, Utf8.IsText bytes := by
  rw [decode_text_iff keeps_escaped]
  simp only [true_and, isText_escaped]

/-- A text without escapes is decoded to its value if no string needs one and
the strings are valid. -/
theorem decode_id_iff (value : Json) :
    decode (text id value) = some value ↔
    ∀ bytes ∈ strings value, Plain bytes ∧ Utf8.IsText bytes :=
  decode_text_iff keeps_id value

end Endap.Library.Json
