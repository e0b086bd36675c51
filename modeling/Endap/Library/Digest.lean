import Endap.Library.Crc
import Endap.Library.Layout

/-!
# Digests and damaged records

A digest takes symbols one by one.  When a step forgets neither the register
nor the symbol, one changed symbol changes the digest, whatever follows it.
The reflected CRC-32 and the hash that multiplies by an odd number are such
digests.

A stamped record therefore loses its intactness with any one of its bytes,
those of the checksum included.
-/

namespace Endap.Library

/-! ## Damage -/

/-- Two sequences differ in exactly one place. -/
inductive Damaged {Symbol : Type*} : List Symbol → List Symbol → Prop
  | intro (before after : List Symbol) {symbol changed : Symbol}
      (differs : symbol ≠ changed) :
      Damaged (before ++ symbol :: after) (before ++ changed :: after)

namespace Damaged

variable {Symbol : Type*} {left right : List Symbol}

theorem modify
    {change : Symbol → Symbol} (changes : ∀ symbol, symbol ≠ change symbol)
    {symbols : List Symbol} {position : Nat}
    (inside : position < symbols.length) :
    Damaged symbols (symbols.modify position change) := by
  rcases List.exists_of_modify change inside with
    ⟨before, symbol, after, rfl, -, modified⟩
  rw [modified]
  exact .intro _ _ (changes _)

theorem length_eq (damaged : Damaged left right) :
    left.length = right.length := by
  cases damaged with
  | intro before after differs => simp

theorem ne (damaged : Damaged left right) : left ≠ right := by
  cases damaged with
  | intro before after differs =>
      intro same
      have rest := List.append_cancel_left same
      exact differs (List.cons.inj rest).1

/-- The damage is in the first part or in the rest. -/
theorem split (damaged : Damaged left right) (count : Nat) :
    Damaged (left.take count) (right.take count) ∧
        left.drop count = right.drop count ∨
      left.take count = right.take count ∧
      Damaged (left.drop count) (right.drop count) := by
  cases damaged with
  | intro before after differs =>
      by_cases inside : before.length < count
      · left
        rcases Nat.exists_eq_add_of_lt inside with ⟨more, rfl⟩
        rw [Nat.add_assoc, List.take_length_add_append,
          List.take_length_add_append, List.drop_length_add_append,
          List.drop_length_add_append]
        exact ⟨.intro before (after.take more) differs, rfl⟩
      · right
        have outside := Nat.le_of_not_lt inside
        rw [List.take_append_of_le_length outside,
          List.take_append_of_le_length outside,
          List.drop_append_of_le_length outside,
          List.drop_append_of_le_length outside]
        exact ⟨rfl, .intro (before.drop count) after differs⟩

end Damaged

/-! ## Digests -/

/-- A function of sequences that sees every damage. -/
def Detects {Symbol Digest : Type*} (digest : List Symbol → Digest) : Prop :=
  ∀ left right, Damaged left right → digest left ≠ digest right

/-- A step that forgets neither the register nor the symbol. -/
structure Faithful {Register Symbol : Type*}
    (step : Register → Symbol → Register) : Prop where
  register : ∀ symbol, Function.Injective (step · symbol)
  symbol : ∀ register, Function.Injective (step register)

namespace Faithful

variable {Register Symbol : Type*} {step : Register → Symbol → Register}

theorem foldl_injective (faithful : Faithful step) (symbols : List Symbol) :
    Function.Injective (symbols.foldl step ·) := by
  induction symbols with
  | nil => exact fun _ _ same => same
  | cons symbol symbols induction =>
      intro left right same
      exact faithful.register symbol (induction same)

/-- The digest that a faithful step folds sees every damage. -/
theorem detects (faithful : Faithful step) (start : Register) :
    Detects (List.foldl step start) := by
  intro left right damaged same
  cases damaged with
  | intro before after differs =>
      rw [List.foldl_append, List.foldl_append, List.foldl_cons,
        List.foldl_cons] at same
      exact differs (faithful.symbol _ (faithful.foldl_injective after same))

end Faithful

theorem Detects.comp {Symbol Digest Result : Type*}
    {digest : List Symbol → Digest} (detects : Detects digest)
    {rewrite : Digest → Result} (injective : Function.Injective rewrite) :
    Detects fun symbols => rewrite (digest symbols) :=
  fun left right damaged same => detects left right damaged (injective same)

/-- Multiplying after the symbol was added, by a number with an inverse. -/
theorem faithful_multiply {prime inverse : UInt32}
    (inverts : prime * inverse = 1) :
    Faithful fun (digest : UInt32) (byte : UInt8) =>
      (digest ^^^ byte.toUInt32) * prime := by
  have cancel : Function.Injective (· * prime : UInt32 → UInt32) := by
    intro left right same
    have back := congrArg (· * inverse) same
    simpa only [UInt32.mul_assoc, inverts, UInt32.mul_one] using back
  constructor
  · intro byte left right same
    exact (UInt32.xor_left_inj _).mp (cancel same)
  · intro digest left right same
    have widened := (UInt32.xor_right_inj _).mp (cancel same)
    exact UInt8.toUInt32_inj.mp widened

namespace Layout

/-! ## The reflected CRC-32 -/

theorem crc32Bit_toBitVec (crc : UInt32) :
    (crc32Bit crc).toBitVec = Crc.bit 0xEDB88320#32 crc.toBitVec := by
  have lowest : crc &&& 1 ≠ 0 ↔ crc.toBitVec.getLsbD 0 = true := by
    rw [ne_eq, ← UInt32.toBitVec_inj]
    change ¬ crc.toBitVec &&& 1#32 = 0#32 ↔ _
    rw [BitVec.and_one_eq_setWidth_ofBool_getLsbD]
    cases crc.toBitVec.getLsbD 0 with
    | _ => decide
  rw [crc32Bit, Crc.bit]
  simp only [lowest]
  split
  · rfl
  · rfl

theorem crc32Bit_injective : Function.Injective crc32Bit := by
  intro left right same
  have registers := congrArg UInt32.toBitVec same
  rw [crc32Bit_toBitVec, crc32Bit_toBitVec] at registers
  exact UInt32.toBitVec_inj.mp (Crc.bit_injective (by decide) registers)

theorem detects_crc32 : Detects crc32 := by
  have bits :
      Function.Injective fun register : UInt32 =>
        (List.range 8).foldl (fun crc _ => crc32Bit crc) register := by
    have steps : Function.Injective crc32Bit^[8] := crc32Bit_injective.iterate 8
    exact steps
  have faithful :
      Faithful fun (crc : UInt32) (byte : UInt8) =>
        (List.range 8).foldl (fun crc _ => crc32Bit crc)
          (crc ^^^ byte.toUInt32) := by
    constructor
    · intro byte left right same
      exact (UInt32.xor_left_inj _).mp (bits same)
    · intro crc left right same
      exact UInt8.toUInt32_inj.mp ((UInt32.xor_right_inj _).mp (bits same))
  refine (faithful.detects 0xFFFFFFFF).comp ?_
  intro left right same
  exact UInt32.not_inj.mp same

/-! ## Layouts without unused bytes -/

/-- Every record of the size of a layout is what some value becomes. -/
def Exact {Value : Type*} (layout : Layout Value) : Prop :=
  ∀ bytes, bytes.length = layout.size → ∃ value, layout.write value = bytes

theorem littleEndian_ofLittleEndian {count : Nat} {bytes : List UInt8}
    (size : bytes.length = count) :
    littleEndian count (ofLittleEndian count bytes) = bytes := by
  induction count generalizing bytes with
  | zero => exact (List.length_eq_zero_iff.mp size).symm
  | succ count induction =>
      match bytes with
      | byte :: bytes =>
          have later := induction (Nat.succ.inj size)
          have small := byte.toNat_lt
          simp only [ofLittleEndian, List.headD_cons, List.tail_cons,
            littleEndian]
          congr 1
          · rw [← UInt8.toNat_inj, UInt8.toNat_ofNat']
            omega
          · rw [Nat.add_mul_div_left _ _ (by decide),
              Nat.div_eq_of_lt small, Nat.zero_add, later]

theorem ofLittleEndian_lt (count : Nat) (bytes : List UInt8) :
    ofLittleEndian count bytes < 256 ^ count := by
  induction count generalizing bytes with
  | zero => exact Nat.one_pos
  | succ count induction =>
      have later := induction bytes.tail
      have first := (bytes.headD 0).toNat_lt
      rw [ofLittleEndian, Nat.pow_succ]
      omega

namespace Exact

variable {First Second : Type*}

/-- A type of all the numbers below a power of 256. -/
theorem integer {Value : Type*} {count : Nat}
    {toNat : Value → Nat} {ofNat : Nat → Value}
    {small : ∀ value, toNat value < 256 ^ count}
    {ofNat_toNat : ∀ value, ofNat (toNat value) = value}
    (toNat_ofNat : ∀ number < 256 ^ count, toNat (ofNat number) = number) :
    Exact (Layout.integer count toNat ofNat small ofNat_toNat) := by
  intro bytes size
  refine ⟨ofNat (ofLittleEndian count bytes), ?_⟩
  show littleEndian count (toNat _) = bytes
  rw [toNat_ofNat _ (ofLittleEndian_lt count bytes)]
  exact littleEndian_ofLittleEndian size

theorem u32 : Exact Layout.u32 :=
  Exact.integer fun _ => UInt32.toNat_ofNat_of_lt'

theorem u16 : Exact Layout.u16 :=
  Exact.integer fun _ => UInt16.toNat_ofNat_of_lt'

theorem andThen {first : Layout First} {second : Layout Second}
    (exactFirst : Exact first) (exactSecond : Exact second) :
    Exact (first.andThen second) := by
  intro bytes size
  have whole : bytes.length = first.size + second.size := size
  rcases exactFirst (bytes.take first.size)
      (by rw [List.length_take]; omega) with ⟨value, isValue⟩
  rcases exactSecond (bytes.drop first.size)
      (by rw [List.length_drop]; omega) with ⟨other, isOther⟩
  refine ⟨(value, other), ?_⟩
  show first.write value ++ second.write other = bytes
  rw [isValue, isOther, List.take_append_drop]

theorem retype {layout : Layout First} (exactFirst : Exact layout)
    {fromFirst : First → Second} {toFirst : Second → First}
    {inverse : ∀ value, fromFirst (toFirst value) = value}
    (surjective : ∀ value, toFirst (fromFirst value) = value) :
    Exact (layout.retype fromFirst toFirst inverse) := by
  intro bytes size
  rcases exactFirst bytes size with ⟨value, isValue⟩
  refine ⟨fromFirst value, ?_⟩
  show layout.write (toFirst (fromFirst value)) = bytes
  rw [surjective, isValue]

/-- A damaged value is another value. -/
theorem read_ne {layout : Layout First} (exactLayout : Exact layout)
    {left right : List UInt8} (damaged : Damaged left right)
    (size : left.length = layout.size) :
    layout.read left ≠ layout.read right := by
  intro same
  rcases exactLayout left size with ⟨value, rfl⟩
  rcases exactLayout right (damaged.length_eq.symm.trans size) with ⟨other, rfl⟩
  have read : ∀ value, layout.read (layout.write value) = value := by
    intro value
    have back := layout.read_write value []
    rwa [List.append_nil] at back
  rw [read, read] at same
  rw [same] at damaged
  exact damaged.ne rfl

end Exact

/-! ## Stamped records -/

theorem not_intact_of_damaged {Value : Type*}
    {checksum : List UInt8 → UInt32} (detects : Detects checksum)
    {body : Layout Value} {bytes changed : List UInt8}
    (size : bytes.length = body.stampedSize)
    (intact : Intact checksum body bytes)
    (damaged : Damaged bytes changed) :
    ¬ Intact checksum body changed := by
  intro again
  rcases damaged.split body.size with
    ⟨inBody, sameStamp⟩ | ⟨sameBody, inStamp⟩
  · refine detects _ _ inBody ?_
    have stamps :
        u32.read (bytes.drop body.size) =
          u32.read (changed.drop body.size) := by
      rw [sameStamp]
    exact intact.trans (stamps.trans again.symm)
  · have stampSize : (bytes.drop body.size).length = 4 := by
      rw [List.length_drop, size]
      exact Nat.add_sub_cancel_left body.size 4
    have sums := congrArg checksum sameBody
    exact
      Exact.u32.read_ne inStamp stampSize (intact.symm.trans (sums.trans again))

/-- A record is not intact any more once a byte was changed. -/
theorem not_intact_of_damaged_stamp {Value : Type*}
    {checksum : List UInt8 → UInt32} (detects : Detects checksum)
    {body : Layout Value} {value : Value} {changed : List UInt8}
    (damaged : Damaged (stamp checksum body value) changed) :
    changed.length = body.stampedSize ∧ ¬ Intact checksum body changed :=
  ⟨damaged.length_eq.symm.trans (stamp_length checksum body value),
    not_intact_of_damaged detects (stamp_length checksum body value)
      (intact_stamp checksum body value) damaged⟩

end Layout

end Endap.Library
