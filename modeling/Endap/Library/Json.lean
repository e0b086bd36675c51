import Endap.Library.Lines
import Endap.Library.Percent
import Endap.Library.Utf8

/-!
# JSON documents

Values, their texts, and the decoder.  A text is written with some function
for the contents of strings: one that escapes what has to be escaped, or one
that writes them as they are.  Strings are lists of bytes; a document has to
be valid UTF-8.

The decoder accepts all of JSON, with spaces wherever they may stand.  A text
that was written with escapes is decoded to the value it was written from, if
its strings are valid.  A text that was written without them is decoded to
that value exactly if no string has a character that needs one.
-/

namespace Endap.Library

/-- A value.  A number is an integer times a power of ten, and the members of
an object are in the order of the text. -/
inductive Json where
  | null
  | bool (value : Bool)
  | number (mantissa exponent : Int)
  | string (bytes : List UInt8)
  | array (items : List Json)
  | object (members : List (List UInt8 × Json))

namespace Json

/-- What is written for the contents of a string. -/
abbrev Writer := List UInt8 → List UInt8

/-! ## Texts -/

/-- A string in quotes. -/
def quoted (writer : Writer) (bytes : List UInt8) : List UInt8 :=
  34 :: (writer bytes ++ [34])

/-- A number, with an exponent where it has one. -/
def numberText (mantissa exponent : Int) : List UInt8 :=
  Lines.signed mantissa ++
    if exponent = 0 then [] else 101 :: Lines.signed exponent

mutual

/-- The text of a value, without spaces. -/
def text (writer : Writer) : Json → List UInt8
  | .null => [110, 117, 108, 108]
  | .bool true => [116, 114, 117, 101]
  | .bool false => [102, 97, 108, 115, 101]
  | .number mantissa exponent => numberText mantissa exponent
  | .string bytes => quoted writer bytes
  | .array items => 91 :: (itemsText writer items ++ [93])
  | .object members => 123 :: (membersText writer members ++ [125])

/-- The texts of values with commas between them. -/
def itemsText (writer : Writer) : List Json → List UInt8
  | [] => []
  | [item] => text writer item
  | item :: next :: rest =>
      text writer item ++ 44 :: itemsText writer (next :: rest)

/-- The texts of the members of an object with commas between them. -/
def membersText (writer : Writer) :
    List (List UInt8 × Json) → List UInt8
  | [] => []
  | [(key, value)] => quoted writer key ++ 58 :: text writer value
  | (key, value) :: next :: rest =>
      quoted writer key ++ 58 ::
        (text writer value ++ 44 :: membersText writer (next :: rest))

end

mutual

/-- The strings of a value, the keys of its objects included. -/
def strings : Json → List (List UInt8)
  | .null => []
  | .bool _ => []
  | .number _ _ => []
  | .string bytes => [bytes]
  | .array items => itemStrings items
  | .object members => memberStrings members

/-- The strings of the values of a list. -/
def itemStrings : List Json → List (List UInt8)
  | [] => []
  | item :: rest => strings item ++ itemStrings rest

/-- The keys and the strings of the members of an object. -/
def memberStrings : List (List UInt8 × Json) → List (List UInt8)
  | [] => []
  | (key, value) :: rest => key :: (strings value ++ memberStrings rest)

end

/-! ## The decoder -/

/-- A text behind the spaces at its start. -/
def skipSpace (text : List UInt8) : List UInt8 :=
  text.dropWhile fun character =>
    character = 32 ∨ character = 9 ∨ character = 10 ∨ character = 13

/-- A text behind a character that has to come next. -/
def expect (character : UInt8) (text : List UInt8) : Option (List UInt8) :=
  match skipSpace text with
  | [] => none
  | first :: rest => if first = character then some rest else none

/-- A text behind a word that has to come next. -/
def literal (word text : List UInt8) : Option (List UInt8) :=
  if word <+: text then some (text.drop word.length) else none

/-- The number of four hexadecimal digits. -/
def hexQuad : List UInt8 → Option (Nat × List UInt8)
  | a :: b :: c :: d :: rest =>
      match Percent.hexDigit? a, Percent.hexDigit? b, Percent.hexDigit? c,
        Percent.hexDigit? d with
      | some a, some b, some c, some d =>
          some (((a.toNat * 16 + b.toNat) * 16 + c.toNat) * 16 + d.toNat, rest)
      | _, _, _, _ => none
  | _ => none

/-- The character that an escape with a number stands for.  A number of the
first half of a pair needs one of the second half behind it. -/
def unicodeEscape (text : List UInt8) : Option (List UInt8 × List UInt8) :=
  (hexQuad text).bind fun first =>
    if first.1 < 0xD800 ∨ 0xE000 ≤ first.1 then
      some (String.utf8EncodeChar (Char.ofNat first.1), first.2)
    else if first.1 < 0xDC00 then
      match first.2 with
      | 92 :: 117 :: behind =>
          (hexQuad behind).bind fun second =>
            if 0xDC00 ≤ second.1 ∧ second.1 < 0xE000 then
              some
                (String.utf8EncodeChar
                    (Char.ofNat
                      (0x10000 + (first.1 - 0xD800) * 0x400 +
                        (second.1 - 0xDC00))),
                  second.2)
            else none
      | _ => none
    else none

/-- What an escape stands for, from behind its backslash on. -/
def escape : List UInt8 → Option (List UInt8 × List UInt8)
  | [] => none
  | character :: rest =>
      if character = 34 ∨ character = 92 ∨ character = 47 then
        some ([character], rest)
      else if character = 98 then some ([8], rest)
      else if character = 102 then some ([12], rest)
      else if character = 110 then some ([10], rest)
      else if character = 114 then some ([13], rest)
      else if character = 116 then some ([9], rest)
      else if character = 117 then unicodeEscape rest
      else none

/-- The contents of a string, from behind its first quote on. -/
def parseChars : Nat → List UInt8 → Option (List UInt8 × List UInt8)
  | 0, _ => none
  | _ + 1, [] => none
  | fuel + 1, character :: rest =>
      if character = 34 then some ([], rest)
      else if character = 92 then
        (escape rest).bind fun read =>
          (parseChars fuel read.2).map fun more =>
            (read.1 ++ more.1, more.2)
      else if character < 32 then none
      else
        (parseChars fuel rest).map fun more =>
          (character :: more.1, more.2)

/-- A string, from behind its first quote on. -/
def parseString (text : List UInt8) : Option (List UInt8 × List UInt8) :=
  parseChars text.length text

/-- A decimal digit. -/
def isDigit (character : UInt8) : Bool := 48 ≤ character ∧ character ≤ 57

/-- The number that digits stand for. -/
def digitsValue (digits : List UInt8) : Nat :=
  digits.foldl (fun value digit => value * 10 + (digit.toNat - 48)) 0

/-- The digits at the start of a text, of which there has to be one. -/
def parseDigits (text : List UInt8) : Option (List UInt8 × List UInt8) :=
  if text.takeWhile isDigit = [] then none
  else some (text.takeWhile isDigit, text.dropWhile isDigit)

/-- The digits behind a decimal point, if there is one. -/
def parseFraction : List UInt8 → Option (List UInt8 × List UInt8)
  | [] => some ([], [])
  | point :: rest =>
      if point = 46 then parseDigits rest else some ([], point :: rest)

/-- The sign at the start of a text. -/
def parseSign (signs : List UInt8) : List UInt8 → Bool × List UInt8
  | [] => (false, [])
  | sign :: rest =>
      if sign ∈ signs then (sign = 45, rest) else (false, sign :: rest)

/-- A number with its sign. -/
def withSign (negative : Bool) (number : Nat) : Int :=
  if negative then -number else number

/-- The exponent, if there is one. -/
def parseExponent : List UInt8 → Option (Int × List UInt8)
  | [] => some (0, [])
  | mark :: rest =>
      if mark = 101 ∨ mark = 69 then
        let sign := parseSign [43, 45] rest
        (parseDigits sign.2).map fun read =>
          (withSign sign.1 (digitsValue read.1), read.2)
      else some (0, mark :: rest)

/-- A number. -/
def parseNumber (text : List UInt8) : Option (Json × List UInt8) :=
  let sign := parseSign [45] text
  (parseDigits sign.2).bind fun whole =>
    if whole.1.head? = some 48 ∧ 1 < whole.1.length then none
    else
      (parseFraction whole.2).bind fun fraction =>
        (parseExponent fraction.2).map fun exponent =>
          (.number (withSign sign.1 (digitsValue (whole.1 ++ fraction.1)))
              (exponent.1 - fraction.1.length),
            exponent.2)

mutual

/-- A value and the text behind it. -/
def parseValue : Nat → List UInt8 → Option (Json × List UInt8)
  | 0, _ => none
  | fuel + 1, text =>
      match skipSpace text with
      | [] => none
      | first :: rest =>
          if first = 34 then
            (parseString rest).map fun read => (.string read.1, read.2)
          else if first = 91 then
            match expect 93 rest with
            | some behind => some (.array [], behind)
            | none =>
                (parseItems fuel rest).map fun read =>
                  (.array read.1, read.2)
          else if first = 123 then
            match expect 125 rest with
            | some behind => some (.object [], behind)
            | none =>
                (parseMembers fuel rest).map fun read =>
                  (.object read.1, read.2)
          else if first = 116 then
            (literal [114, 117, 101] rest).map fun behind =>
              (.bool true, behind)
          else if first = 102 then
            (literal [97, 108, 115, 101] rest).map fun behind =>
              (.bool false, behind)
          else if first = 110 then
            (literal [117, 108, 108] rest).map fun behind => (.null, behind)
          else parseNumber (first :: rest)

/-- The items of an array up to its end. -/
def parseItems : Nat → List UInt8 → Option (List Json × List UInt8)
  | 0, _ => none
  | fuel + 1, text =>
      (parseValue fuel text).bind fun item =>
        match expect 93 item.2 with
        | some behind => some ([item.1], behind)
        | none =>
            (expect 44 item.2).bind fun next =>
              (parseItems fuel next).map fun read =>
                (item.1 :: read.1, read.2)

/-- The members of an object up to its end. -/
def parseMembers :
    Nat → List UInt8 → Option (List (List UInt8 × Json) × List UInt8)
  | 0, _ => none
  | fuel + 1, text =>
      (expect 34 text).bind fun inKey =>
        (parseString inKey).bind fun key =>
          (expect 58 key.2).bind fun afterColon =>
            (parseValue fuel afterColon).bind fun value =>
              match expect 125 value.2 with
              | some behind => some ([(key.1, value.1)], behind)
              | none =>
                  (expect 44 value.2).bind fun next =>
                    (parseMembers fuel next).map fun read =>
                      ((key.1, value.1) :: read.1, read.2)

end

/-- The value of a document, if it is one. -/
def decode (document : List UInt8) : Option Json :=
  if Utf8.IsText document then
    match parseValue (2 * document.length) document with
    | none => none
    | some (value, rest) => if skipSpace rest = [] then some value else none
  else none

/-! ## Numbers -/

theorem digit_toNat {digit : Nat} (small : digit < 10) :
    (UInt8.ofNat (48 + digit)).toNat = 48 + digit := by
  rw [UInt8.toNat_ofNat', Nat.mod_eq_of_lt]
  omega

theorem isDigit_ofNat {digit : Nat} (small : digit < 10) :
    isDigit (UInt8.ofNat (48 + digit)) = true := by
  have value := digit_toNat small
  simp only [isDigit, UInt8.le_iff_toNat_le, value, decide_eq_true_eq]
  exact ⟨Nat.le_add_right _ _, by change _ ≤ 57; omega⟩

/-- A number is written with digits, which have its value, and begins with a
zero only if it is zero. -/
theorem decimal_spec (number : Nat) :
    (∀ digit ∈ Lines.decimal number, isDigit digit = true) ∧
    digitsValue (Lines.decimal number) = number ∧
    (Lines.decimal number).head? ≠ none ∧
    (0 < number → (Lines.decimal number).head? ≠ some 48) := by
  induction number using Nat.strongRecOn with
  | ind number induction =>
      by_cases small : number < 10
      · rw [Lines.decimal_of_lt small]
        have value := digit_toNat small
        refine ⟨?_, ?_, by simp, ?_⟩
        · intro digit member
          rw [List.mem_singleton.mp member]
          exact isDigit_ofNat small
        · simp only [digitsValue, List.foldl_cons, List.foldl_nil, value]
          omega
        · intro positive isZero
          have same := congrArg UInt8.toNat (Option.some.inj isZero)
          rw [value] at same
          change _ = 48 at same
          omega
      · have large : 10 ≤ number := Nat.le_of_not_lt small
        rcases induction (number / 10) (by omega) with
          ⟨digits, isValue, nonempty, first⟩
        have last : number % 10 < 10 := Nat.mod_lt number (by decide)
        have value := digit_toNat last
        have head (digit : UInt8) :
            (Lines.decimal (number / 10) ++ [digit]).head? =
              (Lines.decimal (number / 10)).head? := by
          rw [List.head?_append_of_ne_nil]
          intro empty
          rw [empty] at nonempty
          exact nonempty rfl
        rw [Lines.decimal_of_le large, head]
        refine ⟨?_, ?_, nonempty, fun _ => first (by omega)⟩
        · intro digit member
          rcases List.mem_append.mp member with before | isLast
          · exact digits digit before
          · rw [List.mem_singleton.mp isLast]
            exact isDigit_ofNat last
        · rw [digitsValue] at isValue ⊢
          rw [List.foldl_append, isValue]
          simp only [List.foldl_cons, List.foldl_nil, value]
          omega

/-- What stands behind a number does not go on with it. -/
def EndsNumber (rest : List UInt8) : Prop :=
  ∀ character,
    rest.head? = some character →
    isDigit character = false ∧ character ≠ 46 ∧ character ≠ 101 ∧
    character ≠ 69

theorem endsNumber_nil : EndsNumber [] := by
  intro character isHead
  cases isHead

theorem endsNumber_comma (rest : List UInt8) : EndsNumber (44 :: rest) := by
  intro character isHead
  cases isHead
  decide

theorem endsNumber_bracket (rest : List UInt8) : EndsNumber (93 :: rest) := by
  intro character isHead
  cases isHead
  decide

theorem endsNumber_brace (rest : List UInt8) : EndsNumber (125 :: rest) := by
  intro character isHead
  cases isHead
  decide

variable {rest : List UInt8}

theorem parseDigits_decimal
    (number : Nat)
    (ends : ∀ character, rest.head? = some character →
    isDigit character = false) :
    parseDigits (Lines.decimal number ++ rest) =
      some (Lines.decimal number, rest) := by
  rcases decimal_spec number with ⟨digits, _, nonempty, _⟩
  have stops : rest.takeWhile isDigit = [] ∧ rest.dropWhile isDigit = rest := by
    cases rest with
    | nil => exact ⟨rfl, rfl⟩
    | cons first rest => simp [ends first rfl]
  have taken :
      (Lines.decimal number ++ rest).takeWhile isDigit =
        Lines.decimal number := by
    rw [List.takeWhile_append_of_pos digits, stops.1, List.append_nil]
  have dropped : (Lines.decimal number ++ rest).dropWhile isDigit = rest := by
    rw [List.dropWhile_append_of_pos digits, stops.2]
  rw [parseDigits, taken, dropped, if_neg]
  intro empty
  rw [empty] at nonempty
  exact nonempty rfl

theorem parseSign_signed
    (number : Int) {signs : List UInt8} (minus : 45 ∈ signs)
    (noDigit : ∀ sign ∈ signs, isDigit sign = false) (rest : List UInt8) :
    parseSign signs (Lines.signed number ++ rest) =
      (decide (number < 0), Lines.decimal number.natAbs ++ rest) := by
  rw [Lines.signed]
  split
  · next negative => simp [parseSign, minus, negative]
  · next positive =>
      rcases decimal_spec number.natAbs with ⟨digits, _, nonempty, _⟩
      cases text : Lines.decimal number.natAbs with
      | nil =>
          rw [text] at nonempty
          exact absurd rfl nonempty
      | cons first others =>
          have isFirst := digits first (by rw [text]; exact List.mem_cons_self ..)
          have other : first ∉ signs := by
            intro member
            rw [noDigit first member] at isFirst
            cases isFirst
          simp [parseSign, other, positive]

theorem withSign_natAbs (number : Int) :
    withSign (decide (number < 0)) number.natAbs = number := by
  rw [withSign]
  split
  · next negative =>
      have := of_decide_eq_true negative
      omega
  · next positive =>
      have : ¬ number < 0 := fun negative =>
        positive (decide_eq_true negative)
      omega

/-- A number is read back. -/
theorem parseNumber_text
    (mantissa exponent : Int) (ends : EndsNumber rest) :
    parseNumber (numberText mantissa exponent ++ rest) =
      some (.number mantissa exponent, rest) := by
  rcases decimal_spec mantissa.natAbs with ⟨_, value, _, leading⟩
  have noLeading :
      ¬ ((Lines.decimal mantissa.natAbs).head? = some 48 ∧
      1 < (Lines.decimal mantissa.natAbs).length) := by
    rintro ⟨zero, long⟩
    by_cases positive : 0 < mantissa.natAbs
    · exact leading positive zero
    · have isZero : mantissa.natAbs = 0 := by omega
      rw [isZero] at long
      exact absurd long (by decide)
  have sign (behind : List UInt8) :=
    @parseSign_signed mantissa [45] (List.mem_singleton_self 45)
      (by simp [isDigit]) behind
  rw [numberText, parseNumber, List.append_assoc, sign]
  simp only
  split
  · next noExponent =>
      rw [List.nil_append,
        parseDigits_decimal _ fun character head => (ends character head).1]
      simp only [Option.bind_some, if_neg noLeading]
      cases rest with
      | nil =>
          simp [parseFraction, parseExponent, value, withSign_natAbs,
            noExponent]
      | cons first rest =>
          rcases ends first rfl with ⟨_, noPoint, noMark, noOther⟩
          simp [parseFraction, parseExponent, value, withSign_natAbs,
            noExponent, noPoint, noMark, noOther]
  · next hasExponent =>
      rcases decimal_spec exponent.natAbs with ⟨_, size, _, _⟩
      have exponentSign :=
        @parseSign_signed exponent [43, 45] (by decide) (by simp [isDigit]) rest
      rw [List.cons_append, parseDigits_decimal _ (by
        intro character head
        cases head
        rfl)]
      simp only [Option.bind_some, if_neg noLeading]
      have point : (101 : UInt8) ≠ 46 := by decide
      simp only [parseFraction, if_neg point, Option.bind_some,
        parseExponent, true_or, if_true, exponentSign,
        parseDigits_decimal _ fun character head => (ends character head).1,
        Option.map_some, List.append_nil, value, size, withSign_natAbs,
        List.length_nil]
      simp

/-! ## Strings that are written as they are -/

/-- No character of a string needs an escape. -/
def Plain (bytes : List UInt8) : Prop :=
  ∀ character ∈ bytes, character ≠ 34 ∧ character ≠ 92 ∧ 32 ≤ character

instance (bytes : List UInt8) : Decidable (Plain bytes) :=
  inferInstanceAs (Decidable (∀ character ∈ bytes, _))

variable {bytes : List UInt8} {fuel : Nat}

/-- A plain string is read as it is. -/
theorem parseChars_plain
    (isPlain : Plain bytes)
    (enough : bytes.length < fuel) (rest : List UInt8) :
    parseChars fuel (bytes ++ 34 :: rest) = some (bytes, rest) := by
  induction bytes generalizing fuel with
  | nil =>
      cases fuel with
      | zero => cases enough
      | succ fuel => simp [parseChars]
  | cons character bytes induction =>
      cases fuel with
      | zero => cases enough
      | succ fuel =>
          rcases isPlain character (List.mem_cons_self ..) with
            ⟨noQuote, noBackslash, large⟩
          have others :=
            induction
              (fun other member =>
                isPlain other (List.mem_cons_of_mem _ member))
              (Nat.lt_of_succ_lt_succ enough)
          rw [List.cons_append, parseChars, if_neg noQuote,
            if_neg noBackslash, if_neg (UInt8.not_lt.mpr large), others]
          rfl

/-- What reading a part of a text has made of it: it has not become longer,
has stayed as it was if it has not become shorter, and has lost no quote. -/
structure Reads (used out : List UInt8) : Prop where
  shorter : out.length ≤ used.length
  same : out.length = used.length → out = used ∧ Plain used
  quotes : used.count 34 ≤ out.count 34

theorem Reads.nil : Reads [] [] where
  shorter := Nat.le_refl _
  same _ := ⟨rfl, fun _ member => absurd member List.not_mem_nil⟩
  quotes := Nat.le_refl _

variable {out : List UInt8}

/-- A character that is read as it is. -/
theorem Reads.cons
    {used : List UInt8} (reads : Reads used out) {character : UInt8}
    (noQuote : character ≠ 34) (noBackslash : character ≠ 92)
    (large : 32 ≤ character) : Reads (character :: used) (character :: out)
    where
  shorter := Nat.succ_le_succ reads.shorter
  same length := by
    rcases reads.same (Nat.succ.inj length) with ⟨same, isPlain⟩
    refine ⟨by rw [same], fun other member => ?_⟩
    rcases List.mem_cons.mp member with rfl | inside
    · exact ⟨noQuote, noBackslash, large⟩
    · exact isPlain other inside
  quotes := by
    rw [List.count_cons_of_ne noQuote, List.count_cons_of_ne noQuote]
    exact reads.quotes

/-- An escape, which is longer than what it stands for. -/
theorem Reads.escape
    {used : List UInt8} (reads : Reads used out)
    {code : List UInt8} (longer : bytes.length ≤ code.length)
    (quotes : code.count 34 ≤ bytes.count 34) :
    Reads (92 :: (code ++ used)) (bytes ++ out) where
  shorter := by
    have := reads.shorter
    simp only [List.length_append, List.length_cons]
    omega
  same length := by
    have := reads.shorter
    simp only [List.length_append, List.length_cons] at length
    omega
  quotes := by
    have := reads.quotes
    rw [List.count_cons_of_ne (by decide), List.count_append, List.count_append]
    omega

theorem hexDigit_ne_quote
    {character digit : UInt8}
    (isDigit : Percent.hexDigit? character = some digit) :
    character ≠ 34 := by
  rintro rfl
  cases isDigit

variable {text : List UInt8}

theorem hexQuad_spec
    {number : Nat}
    (read : hexQuad text = some (number, rest)) :
    ∃ code, text = code ++ rest ∧ code.length = 4 ∧ code.count 34 = 0 := by
  match text, read with
  | a :: b :: c :: d :: behind, read =>
      rw [hexQuad] at read
      split at read
      · next _ _ _ _ isA isB isC isD =>
          cases read
          refine ⟨[a, b, c, d], rfl, rfl, ?_⟩
          rw [List.count_cons_of_ne (hexDigit_ne_quote isA),
            List.count_cons_of_ne (hexDigit_ne_quote isB),
            List.count_cons_of_ne (hexDigit_ne_quote isC),
            List.count_cons_of_ne (hexDigit_ne_quote isD)]
          rfl
      · cases read

theorem utf8EncodeChar_length_le (character : Char) :
    (String.utf8EncodeChar character).length ≤ 4 := by
  rw [String.length_utf8EncodeChar]
  exact Char.utf8Size_le_four character

theorem unicodeEscape_spec
    (read : unicodeEscape text = some (bytes, rest)) :
    ∃ code,
      text = code ++ rest ∧ bytes.length ≤ code.length ∧
      code.count 34 = 0 := by
  rcases Option.bind_eq_some_iff.mp read with
    ⟨⟨first, behind⟩, isFirst, result⟩
  rcases hexQuad_spec isFirst with ⟨code, rfl, four, noQuote⟩
  clear read isFirst
  simp only at result
  split at result
  · cases result
    refine ⟨code, rfl, ?_, noQuote⟩
    rw [four]
    exact utf8EncodeChar_length_le _
  · split at result
    · split at result
      · next after =>
          rcases Option.bind_eq_some_iff.mp result with
            ⟨⟨second, last⟩, isSecond, pair⟩
          rcases hexQuad_spec isSecond with ⟨other, rfl, otherFour, none'⟩
          clear result isSecond
          simp only at pair
          split at pair
          · rcases Prod.mk.inj (Option.some.inj pair) with ⟨rfl, rfl⟩
            refine ⟨code ++ 92 :: 117 :: other, by simp, ?_, ?_⟩
            · have := utf8EncodeChar_length_le
                (Char.ofNat
                  (0x10000 + (first - 0xD800) * 0x400 + (second - 0xDC00)))
              simp only [List.length_append, List.length_cons]
              omega
            · rw [List.count_append, List.count_cons_of_ne (by decide),
                List.count_cons_of_ne (by decide), noQuote, none']
          · cases pair
      · cases result
    · cases result

/-- An escape is not shorter than what it stands for, and only a quote has a
quote in it. -/
theorem escape_spec
    (read : escape text = some (bytes, rest)) :
    ∃ code,
      text = code ++ rest ∧ bytes.length ≤ code.length ∧
      code.count 34 ≤ bytes.count 34 := by
  cases text with
  | nil => cases read
  | cons character behind =>
      rw [escape] at read
      have single {value : UInt8} (other : character ≠ 34)
          (isRead : some ([value], behind) = some (bytes, rest)) :
          ∃ code,
            character :: behind = code ++ rest ∧
            bytes.length ≤ code.length ∧
            code.count 34 ≤ bytes.count 34 := by
        cases isRead
        refine ⟨[character], rfl, Nat.le_refl _, ?_⟩
        rw [List.count_cons_of_ne other]
        exact Nat.zero_le _
      split at read
      · cases read
        exact ⟨[character], rfl, Nat.le_refl _, Nat.le_refl _⟩
      · next noSelf =>
          have other : character ≠ 34 := fun same => noSelf (Or.inl same)
          split at read
          · exact single other read
          split at read
          · exact single other read
          split at read
          · exact single other read
          split at read
          · exact single other read
          split at read
          · exact single other read
          split at read
          · next isNumber =>
              rcases unicodeEscape_spec read with
                ⟨code, rfl, longer, noQuote⟩
              refine ⟨character :: code, rfl, ?_, ?_⟩
              · rw [List.length_cons]
                omega
              · rw [List.count_cons_of_ne other, noQuote]
                exact Nat.zero_le _
          · cases read

theorem parseChars_spec
    (read : parseChars fuel text = some (out, rest)) :
    ∃ used, text = used ++ 34 :: rest ∧ Reads used out := by
  induction fuel generalizing text out with
  | zero => cases read
  | succ fuel induction =>
      cases text with
      | nil => cases read
      | cons character behind =>
          rw [parseChars] at read
          split at read
          · next isQuote =>
              cases read
              exact ⟨[], by rw [isQuote]; rfl, .nil⟩
          · next noQuote =>
              split at read
              · next isBackslash =>
                  rcases Option.bind_eq_some_iff.mp read with
                    ⟨⟨bytes, after⟩, isEscape, read⟩
                  rcases Option.map_eq_some_iff.mp read with
                    ⟨⟨more, last⟩, others, isOut⟩
                  cases isOut
                  rcases escape_spec isEscape with
                    ⟨code, rfl, longer, quotes⟩
                  rcases induction others with ⟨used, same, reads⟩
                  simp only at same
                  refine ⟨92 :: (code ++ used), ?_, reads.escape longer quotes⟩
                  rw [isBackslash, same, List.cons_append, List.append_assoc]
              · next noBackslash =>
                  split at read
                  · cases read
                  · next small =>
                      rcases Option.map_eq_some_iff.mp read with
                        ⟨⟨more, last⟩, others, isOut⟩
                      cases isOut
                      rcases induction others with ⟨used, same, reads⟩
                      refine ⟨character :: used, by rw [same]; rfl, ?_⟩
                      exact reads.cons noQuote noBackslash
                        (UInt8.not_lt.mp small)

/-- A string that was written as it is and is read back is plain. -/
theorem plain_of_parseChars
    {behind : List UInt8}
    (read : parseChars fuel (bytes ++ 34 :: behind) = some (bytes, rest)) :
    Plain bytes := by
  rcases parseChars_spec read with ⟨used, same, reads⟩
  rcases List.append_eq_append_iff.mp same with
    ⟨left, isUsed, isBehind⟩ | ⟨left, isBytes, isRest⟩
  · cases left with
    | nil =>
        rw [List.append_nil] at isUsed
        rw [isUsed] at reads
        exact (reads.same rfl).2
    | cons first left =>
        -- The quote behind the string would have to be read as one of its.
        cases isBehind
        have quotes := reads.quotes
        rw [isUsed, List.count_append, List.count_cons_self] at quotes
        omega
  · have shorter := reads.shorter
    rw [isBytes, List.length_append] at shorter
    have empty : left = [] := List.length_eq_zero_iff.mp (by omega)
    rw [empty, List.append_nil] at isBytes
    rw [isBytes] at reads ⊢
    exact (reads.same rfl).2

end Json

end Endap.Library
