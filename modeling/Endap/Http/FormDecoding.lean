import Endap.Http.Query
import Endap.Library.Loop
import Mathlib.Data.List.GetD

/-!
# Decoding a field in place

`http_url_decode_inplace` reads and writes the same memory.  An escape is three
bytes and becomes one, so the loop writes behind what it reads; and it looks at
the bytes of an escape one after another, so that it does not look past the
terminator.  What it leaves is the decoded text.
-/

namespace Endap.Http

open Endap.Library
open Endap.Library.Percent

/-! ## The loop -/

def isXDigit (character : UInt8) : Bool :=
  isDigit character ∨ 65 ≤ character ∧ character ≤ 70 ∨
    97 ≤ character ∧ character ≤ 102

/-- `tolower` in the C locale. -/
def lowerCase (character : UInt8) : UInt8 :=
  if 65 ≤ character ∧ character ≤ 90 then character + 32 else character

/-- The value of a hexadecimal digit, as the loop computes it. -/
def xDigitValue (character : UInt8) : UInt8 :=
  if isDigit character then character - 48
  else 10 + (lowerCase character - 97)

/-- The memory behind `text`, the offsets of `src` and `dst`, and the offsets
that were read. -/
structure UrlDecode where
  memory : List UInt8
  src : Nat
  dst : Nat
  reads : List Nat

/-- `src[distance]`; the memory behind the array reads as zero. -/
def UrlDecode.ahead (decode : UrlDecode) (distance : Nat) : UInt8 :=
  decode.memory.getD (decode.src + distance) 0

/-- The loop has read the first bytes ahead. -/
def UrlDecode.reading (decode : UrlDecode) (count : Nat) : UrlDecode :=
  { decode with
    reads := decode.reads ++ (List.range count).map (decode.src + ·) }

/-- `*dst++ = value`, and `src` goes on. -/
def UrlDecode.put (decode : UrlDecode) (value : UInt8) (step : Nat) :
    UrlDecode :=
  { decode with
    memory := decode.memory.set decode.dst value
    src := decode.src + step
    dst := decode.dst + 1 }

/-- One iteration.  The second digit of an escape is only read behind a first
one. -/
def urlDecodeBody (decode : UrlDecode) : Loop.Flow UrlDecode :=
  let first := decode.ahead 0
  if first = 0 then .stop (decode.reading 1)
  else if first = 43 then .next ((decode.reading 1).put 32 1)
  else if first = 37 then
    if isXDigit (decode.ahead 1) then
      if isXDigit (decode.ahead 2) then
        .next
          ((decode.reading 3).put
            (xDigitValue (decode.ahead 1) <<< 4 |||
              xDigitValue (decode.ahead 2)) 3)
      else .next ((decode.reading 3).put first 1)
    else .next ((decode.reading 2).put first 1)
  else .next ((decode.reading 1).put first 1)

/-- The loop at its first iteration. -/
def UrlDecode.start (memory : List UInt8) : UrlDecode where
  memory := memory
  src := 0
  dst := 0
  reads := []

/-- The loop of `http_url_decode_inplace`. -/
def urlDecodeLoop (memory : List UInt8) : UrlDecode :=
  Loop.run (fun decode => decode.memory.length - decode.src) urlDecodeBody
    (UrlDecode.start memory)

/-- `http_url_decode_inplace`: the memory afterwards. -/
def urlDecodeMemory (memory : List UInt8) : List UInt8 :=
  let last := urlDecodeLoop memory
  last.memory.set last.dst 0

theorem urlDecodeBody_decreasing :
    Loop.Decreasing (fun decode => decode.memory.length - decode.src)
      urlDecodeBody := by
  intro decode after flow
  have inside : decode.ahead 0 ≠ 0 → decode.src < decode.memory.length := by
    intro notZero
    by_contra outside
    apply notZero
    exact List.getD_eq_default _ _ (Nat.le_of_not_lt outside)
  have puts (count : Nat) (value : UInt8) {step : Nat} (moves : 0 < step)
      (notZero : decode.ahead 0 ≠ 0) :
      ((decode.reading count).put value step).memory.length -
          ((decode.reading count).put value step).src <
        decode.memory.length - decode.src := by
    have more := inside notZero
    simp only [UrlDecode.put, UrlDecode.reading, List.length_set]
    omega
  rw [urlDecodeBody] at flow
  split_ifs at flow with isZero
  all_goals
    cases flow
    exact puts _ _ (by decide) isZero

/-! ## Escapes -/

theorem hexDigit?_eq :
    ∀ character : UInt8,
      hexDigit? character =
        if isXDigit character then some (xDigitValue character) else none := by
  have checked :
      ∀ value : Fin 256,
        hexDigit? (UInt8.ofFin value) =
          if isXDigit (UInt8.ofFin value) then
            some (xDigitValue (UInt8.ofFin value))
          else none := by
    decide +kernel
  exact fun character => checked character.toFin

theorem joinDigits {high low : UInt8} (isHigh : isXDigit high = true)
    (isLow : isXDigit low = true) :
    xDigitValue high <<< 4 ||| xDigitValue low =
      xDigitValue high * 16 + xDigitValue low := by
  have small :
      ∀ value : Fin 256,
        isXDigit (UInt8.ofFin value) = true →
          xDigitValue (UInt8.ofFin value) < 16 := by
    decide +kernel
  have checked :
      ∀ first second : Fin 16,
        UInt8.ofNat first <<< 4 ||| UInt8.ofNat second =
          UInt8.ofNat first * 16 + UInt8.ofNat second := by
    decide +kernel
  have joined :=
    checked
      ⟨(xDigitValue high).toNat,
        UInt8.lt_iff_toNat_lt.mp (small high.toFin isHigh)⟩
      ⟨(xDigitValue low).toNat,
        UInt8.lt_iff_toNat_lt.mp (small low.toFin isLow)⟩
  simpa using joined

theorem escape?_sign (high low : UInt8) :
    escape? 37 high low =
      if isXDigit high = true ∧ isXDigit low = true then
        some (xDigitValue high <<< 4 ||| xDigitValue low)
      else none := by
  rw [escape?, if_pos rfl, hexDigit?_eq, hexDigit?_eq]
  by_cases isHigh : isXDigit high = true
  · by_cases isLow : isXDigit low = true
    · simp only [isHigh, isLow, and_self, if_true, Option.bind_some,
        Option.map_some, joinDigits isHigh isLow]
    · simp [isHigh, isLow]
  · simp [isHigh]

theorem decodeForm_sign {more : List UInt8}
    (noEscape :
      ¬ (isXDigit (more.getD 0 0) = true ∧ isXDigit (more.getD 1 0) = true)) :
    decodeForm (37 :: more) = 37 :: decodeForm more := by
  match more, noEscape with
  | [], _ => rfl
  | [_], _ => rfl
  | high :: low :: _, noEscape =>
      have notEscape : escape? 37 high low = none := by
        rw [escape?_sign]
        exact if_neg noEscape
      exact decodeBy_none _ _ notEscape _

/-! ## What the loop keeps -/

/-- The decoded front of a text lies in front of `dst`; nothing from `dst`
onwards was written, and nothing behind the terminator was read. -/
structure Decoding (text rest : List UInt8) (decode : UrlDecode) : Prop where
  inside : decode.src ≤ text.length
  ordered : decode.dst ≤ decode.src
  unwritten :
    decode.memory.drop decode.dst = (text ++ 0 :: rest).drop decode.dst
  decoded :
    decode.memory.take decode.dst ++ decodeForm (text.drop decode.src) =
      decodeForm text
  looks : ∀ place ∈ decode.reads, place ≤ text.length

section

variable {text rest : List UInt8} {decode : UrlDecode}

theorem Decoding.start (text rest : List UInt8) :
    Decoding text rest (UrlDecode.start (text ++ 0 :: rest)) where
  inside := Nat.zero_le _
  ordered := Nat.le_refl _
  unwritten := rfl
  decoded := rfl
  looks _ member := absurd member List.not_mem_nil

theorem Decoding.ahead_eq (holds : Decoding text rest decode)
    (distance : Nat) :
    decode.ahead distance =
      (text.drop decode.src ++ 0 :: rest).getD distance 0 := by
  have source :
      decode.memory.drop decode.src = text.drop decode.src ++ 0 :: rest := by
    have same := congrArg (List.drop (decode.src - decode.dst)) holds.unwritten
    rw [List.drop_drop, List.drop_drop,
      Nat.add_sub_cancel' holds.ordered] at same
    rw [same, List.drop_append_of_le_length holds.inside]
  rw [← source, UrlDecode.ahead, List.getD_eq_getElem?_getD,
    List.getD_eq_getElem?_getD, List.getElem?_drop]

theorem getD_append_zero {front : List UInt8} {index : Nat}
    (inside : index ≤ front.length) :
    (front ++ 0 :: rest).getD index 0 = front.getD index 0 := by
  rcases Nat.lt_or_eq_of_le inside with before | rfl
  · exact List.getD_append _ _ _ _ before
  · rw [List.getD_append_right _ _ _ _ (Nat.le_refl _), Nat.sub_self,
      List.getD_eq_default _ _ (Nat.le_refl _)]
    rfl

variable {count : Nat}

theorem Decoding.reading_looks (holds : Decoding text rest decode)
    (looks : decode.src + count ≤ text.length + 1) :
    ∀ place ∈ (decode.reading count).reads, place ≤ text.length := by
  intro place member
  rcases List.mem_append.mp member with earlier | later
  · exact holds.looks place earlier
  · rcases List.mem_map.mp later with ⟨distance, isDistance, rfl⟩
    have near := List.mem_range.mp isDistance
    omega

/-- There is room for the terminator at `dst`. -/
theorem Decoding.room (holds : Decoding text rest decode) :
    decode.dst < decode.memory.length := by
  have inside := holds.inside
  have ordered := holds.ordered
  have same := congrArg List.length holds.unwritten
  rw [List.length_drop, List.length_drop, List.length_append,
    List.length_cons] at same
  omega

theorem Decoding.unwritten_next (holds : Decoding text rest decode) :
    decode.memory.drop (decode.dst + 1) =
      (text ++ 0 :: rest).drop (decode.dst + 1) := by
  have next := congrArg (List.drop 1) holds.unwritten
  rwa [List.drop_drop, List.drop_drop] at next

variable {more : List UInt8}

theorem Decoding.put (holds : Decoding text rest decode)
    {value : UInt8} {taken : List UInt8}
    (parts : text.drop decode.src = taken ++ more) (notEmpty : taken ≠ [])
    (decodes : decodeForm (taken ++ more) = value :: decodeForm more)
    (looks : decode.src + count ≤ text.length + 1) :
    Decoding text rest
      ((decode.reading count).put value taken.length) := by
  have moves := List.length_pos_iff.mpr notEmpty
  have inside := holds.inside
  have ordered := holds.ordered
  have length := congrArg List.length parts
  rw [List.length_drop, List.length_append] at length
  refine ⟨?_, ?_, ?_, ?_, holds.reading_looks looks⟩
  · change decode.src + taken.length ≤ text.length
    omega
  · change decode.dst + 1 ≤ decode.src + taken.length
    omega
  · change (decode.memory.set decode.dst value).drop (decode.dst + 1) = _
    rw [List.drop_set_of_lt (Nat.lt_succ_self _)]
    exact holds.unwritten_next
  · change
      (decode.memory.set decode.dst value).take (decode.dst + 1) ++
          decodeForm (text.drop (decode.src + taken.length)) =
        decodeForm text
    have written :
        (decode.memory.set decode.dst value).take (decode.dst + 1) =
          decode.memory.take decode.dst ++ [value] := by
      rw [List.take_add_one, List.take_set_of_le (Nat.le_refl _),
        List.getElem?_set_self holds.room]
      rfl
    rw [← List.drop_drop, parts, List.drop_left, written,
      List.append_assoc, ← holds.decoded, parts, decodes]
    rfl

theorem Decoding.copy (holds : Decoding text rest decode)
    {first value : UInt8}
    (parts : text.drop decode.src = first :: more)
    (decodes : decodeForm (first :: more) = value :: decodeForm more)
    (looks : decode.src + count ≤ text.length + 1) :
    Decoding text rest ((decode.reading count).put value 1) := by
  have single : text.drop decode.src = [first] ++ more := parts
  exact holds.put single (List.cons_ne_nil _ _) decodes looks

theorem isXDigit_getD {front : List UInt8} {index : Nat}
    (isDigit : isXDigit (front.getD index 0) = true) :
    index < front.length := by
  by_contra outside
  rw [List.getD_eq_default _ _ (Nat.le_of_not_lt outside)] at isDigit
  exact absurd isDigit (by decide)

theorem Decoding.sign (holds : Decoding text rest decode)
    (parts : text.drop decode.src = 37 :: more) :
    (isXDigit (decode.ahead 1) = true →
        isXDigit (decode.ahead 2) = true →
          Decoding text rest
            ((decode.reading 3).put
              (xDigitValue (decode.ahead 1) <<< 4 |||
                xDigitValue (decode.ahead 2)) 3)) ∧
      (isXDigit (decode.ahead 1) = true →
          ¬ isXDigit (decode.ahead 2) = true →
            Decoding text rest ((decode.reading 3).put 37 1)) ∧
        (¬ isXDigit (decode.ahead 1) = true →
          Decoding text rest ((decode.reading 2).put 37 1)) := by
  have length := congrArg List.length parts
  rw [List.length_drop, List.length_cons] at length
  have at1 : decode.ahead 1 = more.getD 0 0 := by
    rw [holds.ahead_eq, parts]
    exact getD_append_zero (Nat.succ_le_succ (Nat.zero_le _))
  have at2 (longer : 1 ≤ more.length) : decode.ahead 2 = more.getD 1 0 := by
    rw [holds.ahead_eq, parts]
    exact getD_append_zero (Nat.succ_le_succ longer)
  refine ⟨fun isHigh isLow => ?_, fun isHigh notLow => ?_, fun notHigh => ?_⟩
  · rw [at1] at isHigh
    rw [at2 (isXDigit_getD isHigh)] at isLow
    have longest := isXDigit_getD isLow
    rw [at1, at2 (isXDigit_getD isHigh)]
    match more, parts, longest with
    | high :: low :: behind, parts, longest =>
        have escape := (escape?_sign high low).trans (if_pos ⟨isHigh, isLow⟩)
        have whole : text.drop decode.src = [37, high, low] ++ behind := parts
        rw [List.length_cons, List.length_cons] at length
        exact
          holds.put whole (List.cons_ne_nil _ _)
            (decodeBy_escape _ _ escape _) (by omega)
  · rw [at1] at isHigh
    have longer := isXDigit_getD isHigh
    rw [at2 longer] at notLow
    exact
      holds.copy parts (decodeForm_sign fun both => notLow both.2) (by omega)
  · rw [at1] at notHigh
    exact
      holds.copy parts (decodeForm_sign fun both => notHigh both.1)
        (by omega)

variable (noZero : 0 ∉ text)

include noZero

theorem Decoding.next {after : UrlDecode}
    (holds : Decoding text rest decode)
    (flow : urlDecodeBody decode = .next after) :
    Decoding text rest after := by
  have at0 := holds.ahead_eq 0
  cases parts : text.drop decode.src with
  | nil =>
      rw [parts] at at0
      rw [urlDecodeBody, at0] at flow
      cases flow
  | cons first more =>
      have length := congrArg List.length parts
      rw [List.length_drop, List.length_cons] at length
      have inText : first ∈ text :=
        List.mem_of_mem_drop (parts ▸ List.mem_cons_self ..)
      have notZero : first ≠ 0 := ne_of_mem_of_not_mem inText noZero
      have isFirst : decode.ahead 0 = first := by
        rw [at0, parts]
        rfl
      rw [urlDecodeBody, isFirst, if_neg notZero] at flow
      by_cases isPlus : first = 43
      · subst isPlus
        cases flow
        refine holds.copy parts ?_ (by omega)
        exact decodeBy_cons_of_none _ _ (escape?_of_ne (by decide)) _
      · rw [if_neg isPlus] at flow
        by_cases isSign : first = 37
        · subst isSign
          rcases holds.sign parts with ⟨escapes, cut, plain⟩
          rw [if_pos rfl] at flow
          split_ifs at flow with isHigh isLow
          · cases flow
            exact escapes isHigh isLow
          · cases flow
            exact cut isHigh isLow
          · cases flow
            exact plain isHigh
        · rw [if_neg isSign] at flow
          cases flow
          refine holds.copy parts ?_ (by omega)
          have plain :=
            decodeBy_cons_of_none escape? plusToSpace
              (escape?_of_ne isSign) more
          rwa [plusToSpace, if_neg isPlus] at plain

theorem Decoding.stop {last : UrlDecode}
    (holds : Decoding text rest decode)
    (flow : urlDecodeBody decode = .stop last) :
    Decoding text rest last ∧ last.src = text.length := by
  have inside := holds.inside
  have isZero : decode.ahead 0 = 0 ∧ last = decode.reading 1 := by
    rw [urlDecodeBody] at flow
    split_ifs at flow with isZero
    · cases flow
      exact ⟨isZero, rfl⟩
  have atEnd : decode.src = text.length := by
    have at0 := holds.ahead_eq 0
    cases parts : text.drop decode.src with
    | nil =>
        have behind := List.drop_eq_nil_iff.mp parts
        omega
    | cons first more =>
        rw [parts, isZero.1] at at0
        have isFirst : first = 0 := at0.symm
        have inText : first ∈ text :=
          List.mem_of_mem_drop (parts ▸ List.mem_cons_self ..)
        exact absurd (isFirst ▸ inText) noZero
  rw [isZero.2]
  exact
    ⟨{ holds with looks := holds.reading_looks (by omega) }, atEnd⟩

theorem urlDecodeLoop_spec :
    Decoding text rest (urlDecodeLoop (text ++ 0 :: rest)) ∧
      (urlDecodeLoop (text ++ 0 :: rest)).src = text.length := by
  apply
    Loop.run_invariant urlDecodeBody_decreasing (Decoding text rest)
      (fun last => Decoding text rest last ∧ last.src = text.length)
  · intro state after holds flow
    exact holds.next noZero flow
  · intro state last holds flow
    exact holds.stop noZero flow
  · exact Decoding.start text rest

/-- The decoded text and its terminator stand in front of what they leave of
the memory. -/
theorem urlDecodeMemory_eq :
    urlDecodeMemory (text ++ 0 :: rest) =
      decodeForm text ++
        0 :: (text ++ 0 :: rest).drop ((decodeForm text).length + 1) := by
  have ends := @urlDecodeLoop_spec text rest noZero
  rw [urlDecodeMemory]
  generalize urlDecodeLoop (text ++ 0 :: rest) = last at ends
  rcases ends with ⟨holds, atEnd⟩
  have decoded : last.memory.take last.dst = decodeForm text := by
    have whole := holds.decoded
    rw [atEnd, List.drop_length] at whole
    exact (List.append_nil _).symm.trans whole
  have length : (decodeForm text).length = last.dst := by
    rw [← decoded, List.length_take]
    exact Nat.min_eq_left (Nat.le_of_lt holds.room)
  rw [length, ← decoded, List.set_eq_take_append_cons_drop,
    if_pos holds.room, holds.unwritten_next]

end

/-- What the loop in place leaves is the text that the fields are decoded
to. -/
theorem urlDecodeMemory_text {text : List UInt8} (noZero : 0 ∉ text)
    (rest : List UInt8) :
    CText.upToZero (urlDecodeMemory (text ++ 0 :: rest)) =
      httpUrlDecodeInplace text := by
  rw [urlDecodeMemory_eq noZero, CText.upToZero_append_zero,
    httpUrlDecodeInplace]

/-- Decoding in place undoes every encoding of a text; and in every memory with
a terminator the loop never writes in front of what it has yet to read, and
reads nothing behind the terminator. -/
theorem form_decoding_in_place :
    (∀ text encoded rest,
      0 ∉ text → FormEncodes text encoded →
        CText.upToZero (urlDecodeMemory (encoded ++ 0 :: rest)) = text) ∧
      ∀ text rest,
        0 ∉ text →
          (∀ decode,
            Loop.Reaches urlDecodeBody
                (UrlDecode.start (text ++ 0 :: rest)) decode →
              decode.dst ≤ decode.src) ∧
            (∀ place ∈ (urlDecodeLoop (text ++ 0 :: rest)).reads,
              place ≤ text.length) ∧
              CText.upToZero (urlDecodeMemory (text ++ 0 :: rest)) =
                httpUrlDecodeInplace text := by
  constructor
  · intro text encoded rest noZero encodes
    rw [urlDecodeMemory_text (encodes.zero_notMem noZero),
      httpUrlDecodeInplace, encodes.decodeForm_eq,
      CText.upToZero_of_notMem noZero]
  · intro text rest noZero
    refine ⟨?_, ?_, urlDecodeMemory_text noZero rest⟩
    · intro decode reaches
      have holds :=
        reaches.invariant (fun _ _ holds flow => holds.next noZero flow)
          (Decoding.start text rest)
      exact holds.ordered
    · exact (urlDecodeLoop_spec noZero).1.looks

/-- A text with a space, a percent sign and an escape in lower case, and one
that ends in the middle of an escape. -/
theorem form_decoding_in_place_samples :
    CText.upToZero
          (urlDecodeMemory (CText.bytes "a+%2b%25x" ++ 0 :: [7, 7])) =
        CText.bytes "a +%x" ∧
      ∀ place ∈ (urlDecodeLoop (CText.bytes "a%4" ++ 0 :: [65])).reads,
        place ≤ 3 := by
  have encodes :
      FormEncodes [97, 32, 43, 37, 120]
        [97, 43, 37, 50, 98, 37, 50, 53, 120] :=
    .literal (by decide) (by decide)
      (.plus
        (.escape (by decide) (by decide)
          (.escape (by decide) (by decide)
            (.literal (by decide) (by decide) .nil))))
  constructor
  · exact form_decoding_in_place.1 _ _ [7, 7] (by decide) encodes
  · exact (form_decoding_in_place.2 _ [65] (by decide)).2.1

end Endap.Http
