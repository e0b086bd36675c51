import Endap.Library.CText
import Endap.V3.Journal

/-!
# The storage keys in their buffer

`get_nvs_key` fills a buffer of sixteen characters from behind, in front of a
terminator, and copies what it has put there.  The buffer has room for fifteen
digits, and an identifier of 64 bits has at most thirteen, so no digit is cut
off and different records have different keys.
-/

namespace Endap.V3

open Endap.Library

/-! ## The buffer -/

/-- `buf` and `pos`.  The cells behind `pos` are filled, the last one with the
terminator. -/
structure KeyBuffer where
  buf : Fin 16 → UInt8
  pos : Int
  notBelow : -1 ≤ pos
  notAbove : pos ≤ 14

/-- `buf[15] = '\0'`, in a buffer with any contents. -/
def KeyBuffer.terminated (contents : Fin 16 → UInt8) : KeyBuffer where
  buf := Function.update contents ⟨15, Nat.lt_succ_self 15⟩ 0
  pos := 14
  notBelow := by omega
  notAbove := by omega

theorem terminated_room (contents : Fin 16 → UInt8) :
    0 ≤ (KeyBuffer.terminated contents).pos :=
  Int.natCast_nonneg 14

/-- `buf[pos--] = character`. -/
def KeyBuffer.put (buffer : KeyBuffer) (room : 0 ≤ buffer.pos)
    (character : UInt8) : KeyBuffer where
  buf :=
    Function.update buffer.buf
      ⟨buffer.pos.toNat, by
        have notAbove := buffer.notAbove
        omega⟩
      character
  pos := buffer.pos - 1
  notBelow := by omega
  notAbove := by
    have notAbove := buffer.notAbove
    omega

/-- The variables of the loop of `get_nvs_key`. -/
structure KeyLoop where
  buffer : KeyBuffer
  val : UInt64

/-- The character of a digit in the buffer. -/
def nvsKeyByte (rem : UInt64) : UInt8 :=
  if rem < 10 then 0x30 + rem.toUInt8 else 0x41 + (rem - 10).toUInt8

/-- One iteration of the loop. -/
def keyBody (loop : KeyLoop) : Loop.Flow KeyLoop :=
  if goesOn : 0 < loop.val ∧ 0 ≤ loop.buffer.pos then
    .next
      { buffer := loop.buffer.put goesOn.2 (nvsKeyByte (loop.val % 36))
        val := loop.val / 36 }
  else .stop loop

/-- The buffer and the value that is left of an identifier in front of the
copy. -/
def keyLoop (contents : Fin 16 → UInt8) (id : UInt64) : KeyLoop :=
  if id = 0 then
    { buffer :=
        (KeyBuffer.terminated contents).put (terminated_room contents) 0x30
      val := 0 }
  else
    Loop.run (fun loop => loop.val.toNat) keyBody
      { buffer := KeyBuffer.terminated contents
        val := id }

/-- The filled cells. -/
def KeyBuffer.filled (buffer : KeyBuffer) : List UInt8 :=
  (List.ofFn buffer.buf).drop (buffer.pos + 1).toNat

/-- `strcpy`: the characters up to the terminator and the terminator; none
without a terminator in the memory. -/
def strcpy (source : List UInt8) : Option (List UInt8) :=
  if 0 ∈ source then some (CText.upToZero source ++ [0]) else none

/-- `get_nvs_key`: what it writes to `out_key`. -/
def writtenNvsKey (contents : Fin 16 → UInt8) (id : UInt64) :
    Option (List UInt8) :=
  strcpy (keyLoop contents id).buffer.filled

/-! ## What the buffer holds -/

theorem filled_terminated (contents : Fin 16 → UInt8) :
    (KeyBuffer.terminated contents).filled = [0] := by
  change (List.ofFn (Function.update contents 15 0)).drop 15 = [0]
  rw [List.drop_eq_getElem_cons (by simp), List.drop_eq_nil_of_le (by simp),
    List.getElem_ofFn]
  exact congrArg (· :: []) (Function.update_self _ _ _)

theorem filled_put (buffer : KeyBuffer) (room : 0 ≤ buffer.pos)
    (character : UInt8) :
    (buffer.put room character).filled = character :: buffer.filled := by
  have notAbove := buffer.notAbove
  have place : (buffer.pos - 1 + 1).toNat = buffer.pos.toNat := by
    omega
  have next : (buffer.pos + 1).toNat = buffer.pos.toNat + 1 := by
    omega
  have inside : buffer.pos.toNat < 16 := by
    omega
  rw [KeyBuffer.filled, KeyBuffer.filled, next]
  change (List.ofFn (Function.update buffer.buf ⟨_, inside⟩ character)).drop
      (buffer.pos - 1 + 1).toNat = _
  rw [place, List.drop_eq_getElem_cons (by simpa using inside),
    List.getElem_ofFn, Function.update_self]
  congr 1
  apply List.ext_getElem
  · simp
  · intro index inFirst inSecond
    rw [List.getElem_drop, List.getElem_drop, List.getElem_ofFn,
      List.getElem_ofFn]
    apply Function.update_of_ne
    intro same
    have places := congrArg Fin.val same
    simp only at places
    omega

/-- The characters of a key as bytes. -/
def keyBytes (key : List Char) : List UInt8 :=
  key.map fun character => UInt8.ofNat character.toNat

/-- A digit or an upper-case letter. -/
def IsKeyByte (byte : UInt8) : Prop :=
  0x30 ≤ byte ∧ byte ≤ 0x39 ∨ 0x41 ≤ byte ∧ byte ≤ 0x5A

instance (byte : UInt8) : Decidable (IsKeyByte byte) :=
  inferInstanceAs (Decidable (_ ∨ _))

theorem keyByte_digit {rem : Nat} (digit : rem < 36) :
    nvsKeyByte (UInt64.ofNat rem) = UInt8.ofNat (nvsKeyDigit rem).toNat ∧
    IsKeyByte (UInt8.ofNat (nvsKeyDigit rem).toNat) ∧
    Char.ofNat (UInt8.ofNat (nvsKeyDigit rem).toNat).toNat =
      nvsKeyDigit rem := by
  have all :
      ((List.range 36).all fun rem =>
        nvsKeyByte (UInt64.ofNat rem) = UInt8.ofNat (nvsKeyDigit rem).toNat ∧
        IsKeyByte (UInt8.ofNat (nvsKeyDigit rem).toNat) ∧
        Char.ofNat (UInt8.ofNat (nvsKeyDigit rem).toNat).toNat =
          nvsKeyDigit rem) = true := by
    decide +kernel
  exact of_decide_eq_true
    (List.all_eq_true.mp all rem (List.mem_range.mpr digit))

theorem keyBody_decreasing :
    Loop.Decreasing (fun loop => loop.val.toNat) keyBody := by
  intro loop after flow
  rw [keyBody] at flow
  split at flow
  · next goesOn =>
      cases flow
      have positive := UInt64.lt_iff_toNat_lt.mp goesOn.1
      change (loop.val / 36).toNat < loop.val.toNat
      rw [UInt64.toNat_div]
      exact Nat.div_lt_self positive (by decide)
  · cases flow

theorem keyBody_of_eq_zero {loop : KeyLoop} (isZero : loop.val = 0) :
    keyBody loop = .stop loop := by
  rw [keyBody, dif_neg]
  rintro ⟨positive, _⟩
  exact absurd (isZero ▸ positive) (by decide)

theorem keyBody_of_ne_zero {loop : KeyLoop} (notZero : loop.val ≠ 0)
    (room : 0 ≤ loop.buffer.pos) :
    keyBody loop =
      .next
        { buffer := loop.buffer.put room (nvsKeyByte (loop.val % 36))
          val := loop.val / 36 } := by
  have positive : 0 < loop.val := by
    apply UInt64.lt_iff_toNat_lt.mpr
    exact Nat.pos_of_ne_zero fun zero => notZero (UInt64.toNat_inj.mp zero)
  exact dif_pos ⟨positive, room⟩

theorem nvsKeyByte_rem (val : UInt64) :
    nvsKeyByte (val % 36) =
      UInt8.ofNat (nvsKeyDigit (val.toNat % 36)).toNat := by
  have digit : val.toNat % 36 < 36 := Nat.mod_lt _ (by decide)
  have rem : val % 36 = UInt64.ofNat (val.toNat % 36) := by
    apply UInt64.toNat_inj.mp
    rw [UInt64.toNat_ofNat_of_lt' (Nat.lt_trans digit (by decide))]
    exact UInt64.toNat_mod _ _
  rw [rem]
  exact (keyByte_digit digit).1

theorem keyBody_run (room : Nat) (loop : KeyLoop) (key : List Char)
    (isRoom : loop.buffer.pos + 1 = room)
    (filled : loop.buffer.filled = keyBytes key ++ [0]) :
    let last := Loop.run (fun loop => loop.val.toNat) keyBody loop
    last.buffer.filled =
        keyBytes (nvsKeyDigits room loop.val.toNat key) ++ [0] ∧
    (loop.val.toNat < 36 ^ room → last.val = 0) := by
  induction room generalizing loop key with
  | zero =>
      have stops : keyBody loop = .stop loop := by
        rw [keyBody, dif_neg]
        omega
      rw [Loop.run_stop stops]
      refine ⟨filled, fun small => ?_⟩
      exact UInt64.toNat_inj.mp (Nat.lt_one_iff.mp small)
  | succ room induction =>
      rw [nvsKeyDigits]
      by_cases isZero : loop.val = 0
      · rw [Loop.run_stop (keyBody_of_eq_zero isZero), isZero]
        exact ⟨filled, fun _ => isZero⟩
      · have notZero : loop.val.toNat ≠ 0 :=
          fun zero => isZero (UInt64.toNat_inj.mp zero)
        have fits : 0 ≤ loop.buffer.pos := by
          omega
        have rest : (loop.val / 36).toNat = loop.val.toNat / 36 :=
          UInt64.toNat_div _ _
        have later :=
          induction
            { buffer := loop.buffer.put fits (nvsKeyByte (loop.val % 36))
              val := loop.val / 36 }
            (nvsKeyDigit (loop.val.toNat % 36) :: key)
            (by
              change loop.buffer.pos - 1 + 1 = room
              omega)
            (by
              rw [filled_put, filled, nvsKeyByte_rem]
              rfl)
        rw [Loop.run_next keyBody_decreasing
            (keyBody_of_ne_zero isZero fits), if_neg notZero, ← rest]
        refine ⟨later.1, fun small => later.2 ?_⟩
        rw [rest]
        rw [Nat.pow_succ] at small
        exact Nat.div_lt_of_lt_mul (by rwa [Nat.mul_comm])

/-! ## The key -/

theorem nvsKeyDigits_length {room val count : Nat} (small : val < 36 ^ count)
    (fits : count ≤ room) (key : List Char) :
    (nvsKeyDigits room val key).length ≤ key.length + count := by
  induction room generalizing val count key with
  | zero => exact Nat.le_add_right _ _
  | succ room induction =>
      rw [nvsKeyDigits]
      split
      · exact Nat.le_add_right _ _
      · next notZero =>
          cases count with
          | zero => exact absurd (Nat.lt_one_iff.mp small) notZero
          | succ count =>
              rw [Nat.pow_succ] at small
              have smaller : val / 36 < 36 ^ count :=
                Nat.div_lt_of_lt_mul (by rwa [Nat.mul_comm])
              have shorter :=
                induction smaller (Nat.le_of_succ_le_succ fits)
                  (nvsKeyDigit (val % 36) :: key)
              rw [List.length_cons] at shorter
              omega

theorem nvsKeyDigits_length_ge (room val : Nat) (key : List Char) :
    key.length ≤ (nvsKeyDigits room val key).length := by
  induction room generalizing val key with
  | zero => exact Nat.le_refl _
  | succ room induction =>
      rw [nvsKeyDigits]
      split
      · exact Nat.le_refl _
      · have longer :=
          induction (val / 36) (nvsKeyDigit (val % 36) :: key)
        exact Nat.le_of_succ_le longer

theorem nvsKeyDigits_digit {room val : Nat} {key : List Char}
    {character : Char} (member : character ∈ nvsKeyDigits room val key) :
    character ∈ key ∨ ∃ rem < 36, character = nvsKeyDigit rem := by
  induction room generalizing val key with
  | zero => exact .inl member
  | succ room induction =>
      rw [nvsKeyDigits] at member
      split at member
      · exact .inl member
      · rcases induction member with inKey | isDigit
        · rcases List.mem_cons.mp inKey with isFirst | earlier
          · exact .inr ⟨val % 36, Nat.mod_lt _ (by decide), isFirst⟩
          · exact .inl earlier
        · exact .inr isDigit

theorem getNvsKey_digit {id : UInt64} {character : Char}
    (member : character ∈ getNvsKey id) :
    ∃ rem < 36, character = nvsKeyDigit rem := by
  rw [getNvsKey] at member
  split at member
  · exact ⟨0, by decide, List.mem_singleton.mp member⟩
  · exact (nvsKeyDigits_digit member).resolve_left List.not_mem_nil

theorem getNvsKey_length (id : UInt64) :
    1 ≤ (getNvsKey id).length ∧ (getNvsKey id).length ≤ 13 := by
  rw [getNvsKey]
  split
  · decide
  · next notZero =>
      have small : id.toNat < 36 ^ 13 :=
        Nat.lt_of_lt_of_le id.toNat_lt (by norm_num)
      have short := nvsKeyDigits_length small (by decide : 13 ≤ 15) []
      rw [List.length_nil, Nat.zero_add] at short
      refine ⟨?_, short⟩
      rw [nvsKeyDigits, if_neg]
      · exact nvsKeyDigits_length_ge 14 _ [_]
      · exact fun zero => notZero (UInt64.toNat_inj.mp zero)

/-- The characters of a key are characters of the allowed kind, and its bytes
tell which. -/
theorem keyBytes_getNvsKey (id : UInt64) :
    (∀ byte ∈ keyBytes (getNvsKey id), IsKeyByte byte) ∧
    (keyBytes (getNvsKey id)).map (fun byte => Char.ofNat byte.toNat) =
      getNvsKey id := by
  constructor
  · intro byte member
    rcases List.mem_map.mp member with ⟨character, inKey, rfl⟩
    rcases getNvsKey_digit inKey with ⟨rem, digit, rfl⟩
    exact (keyByte_digit digit).2.1
  · rw [keyBytes, List.map_map]
    have back :
        ∀ character ∈ getNvsKey id,
          Char.ofNat (UInt8.ofNat character.toNat).toNat = character := by
      intro character member
      rcases getNvsKey_digit member with ⟨rem, digit, rfl⟩
      exact (keyByte_digit digit).2.2
    exact (List.map_congr_left back).trans (List.map_id' _)

/-- The loop ends with no value left, and the filled cells are the key and the
terminator. -/
theorem keyLoop_spec (contents : Fin 16 → UInt8) (id : UInt64) :
    (keyLoop contents id).buffer.filled = keyBytes (getNvsKey id) ++ [0] ∧
    (keyLoop contents id).val = 0 := by
  rw [keyLoop, getNvsKey]
  split
  · refine ⟨?_, rfl⟩
    change
      ((KeyBuffer.terminated contents).put (terminated_room contents)
          0x30).filled =
        _
    rw [filled_put, filled_terminated]
    rfl
  · have small : id.toNat < 36 ^ 15 :=
      Nat.lt_of_lt_of_le id.toNat_lt (by norm_num)
    have ends :=
      keyBody_run 15
        { buffer := KeyBuffer.terminated contents
          val := id }
        [] rfl (filled_terminated contents)
    exact ⟨ends.1, ends.2 small⟩

theorem writtenNvsKey_eq (contents : Fin 16 → UInt8) (id : UInt64) :
    writtenNvsKey contents id = some (keyBytes (getNvsKey id) ++ [0]) := by
  have noZero : 0 ∉ keyBytes (getNvsKey id) := by
    intro member
    have isKey := (keyBytes_getNvsKey id).1 0 member
    exact absurd isKey (by decide)
  rw [writtenNvsKey, (keyLoop_spec contents id).1, strcpy, if_pos (by simp),
    CText.upToZero_append_zero, CText.upToZero_of_notMem noZero]

/-! ## The flush -/

/-- What a flush has done to the blobs: one is as it was, or a record that was
marked is stored under its key. -/
structure FlushWrites (catalog : CatalogPool) (start state : FlushState) :
    Prop where
  marks : ∀ index, Marked state.dirtyMask index → Marked start.dirtyMask index
  blobs :
    ∀ key,
      state.flash key = start.flash key ∨
      ∃ index < catalog.count,
        Marked start.dirtyMask index ∧
        getNvsKey (catalog.pool index).id = key ∧
        state.flash key = some (catalog.pool index)

section

variable {catalog : CatalogPool} {accepts : List Char → Bool} {row : Nat}
variable {start state after : FlushState}

theorem FlushWrites.body (writes : FlushWrites catalog start state)
    (flow : flushBody catalog accepts row state = .next after) :
    FlushWrites catalog start after := by
  rcases flushBody_next flow with ⟨notZero, cleared, written⟩
  rcases BitMask.getLsbD_lowest notZero with ⟨bitInside, isMarked⟩
  generalize BitMask.lowest (state.dirtyMask row) = bit at *
  have marked : Marked state.dirtyMask (row * 32 + bit) := by
    have atRow : (row * 32 + bit) / 32 = row := by omega
    have atBit : (row * 32 + bit) % 32 = bit := by omega
    rw [Marked, atRow, atBit]
    exact isMarked
  constructor
  · intro index still
    by_cases here : index = row * 32 + bit
    · exact writes.marks index (here ▸ marked)
    · rw [cleared, marked_clear state.dirtyMask row bitInside here] at still
      exact writes.marks index still
  · intro key
    rcases written with ⟨record, found, _, stored⟩ | ⟨_, same, _⟩
    · rcases CatalogPool.getByIndex_eq_some_iff.mp found with ⟨inside, rfl⟩
      by_cases here : key = getNvsKey (catalog.pool (row * 32 + bit)).id
      · refine
          .inr ⟨_, inside, writes.marks _ marked, here.symm, ?_⟩
        rw [stored, here, Function.update_self]
      · rw [stored, Function.update_of_ne here]
        exact writes.blobs key
    · rw [same]
      exact writes.blobs key

end

theorem flush_blobs (persistence : V3Persistence) (catalog : CatalogPool)
    (outcome : FlushOutcome) (key : List Char) :
    let after := (v3PersistenceFlushDirtyRecords persistence catalog outcome).1
    after.flash key = persistence.flash key ∨
    ∃ index < catalog.count,
      Marked persistence.dirtyMask index ∧
      getNvsKey (catalog.pool index).id = key ∧
      after.flash key = some (catalog.pool index) := by
  have start :
      FlushWrites catalog persistence.unwritten persistence.unwritten :=
    ⟨fun _ marked => marked, fun _ => .inl rfl⟩
  have flushed (accepts : List Char → Bool) :
      FlushWrites catalog persistence.unwritten
        (flushRows catalog accepts 32 persistence.unwritten) :=
    (flushRows_spec (FlushWrites catalog persistence.unwritten)
      (fun _ _ _ writes flow => writes.body flow) start 32).1
  by_cases refused : persistence.handle = .closed ∧ outcome.opens = false
  · rw [v3PersistenceFlushDirtyRecords, if_pos refused]
    exact .inl rfl
  · have runs :
        ∃ accepts,
          (v3PersistenceFlushDirtyRecords persistence catalog outcome).1.flash =
            (flushRows catalog accepts 32 persistence.unwritten).flash := by
      rw [v3PersistenceFlushDirtyRecords, if_neg refused]
      simp only [V3Persistence.unwritten]
      exact ⟨_, rfl⟩
    rcases runs with ⟨accepts, runs⟩
    simp only [runs]
    exact (flushed accepts).blobs key

/-- The key of every identifier is written within its buffer, from one to
thirteen digits and upper-case letters in front of a terminator, and none of
its digits is cut off.  Different identifiers have different keys, so a flush
changes the blob of an identifier only to a marked record with that
identifier. -/
theorem nvs_keys_identify :
    (∀ contents id,
      let key := keyBytes (getNvsKey id)
      writtenNvsKey contents id = some (key ++ [0]) ∧
      (keyLoop contents id).val = 0 ∧
      1 ≤ key.length ∧ key.length ≤ 13 ∧ ∀ byte ∈ key, IsKeyByte byte) ∧
      (∀ contents others first second,
        writtenNvsKey contents first = writtenNvsKey others second →
        first = second) ∧
        ∀ persistence catalog outcome id,
          let after :=
            (v3PersistenceFlushDirtyRecords persistence catalog outcome).1
          after.flash (getNvsKey id) = persistence.flash (getNvsKey id) ∨
          ∃ index < catalog.count,
            Marked persistence.dirtyMask index ∧
            (catalog.pool index).id = id ∧
            after.flash (getNvsKey id) =
              some (catalog.pool index) := by
  refine ⟨?_, ?_, ?_⟩
  · intro contents id
    have length : (keyBytes (getNvsKey id)).length = (getNvsKey id).length :=
      List.length_map _
    simp only [length]
    exact
      ⟨writtenNvsKey_eq contents id, (keyLoop_spec contents id).2,
        (getNvsKey_length id).1, (getNvsKey_length id).2,
        (keyBytes_getNvsKey id).1⟩
  · intro contents others first second same
    rw [writtenNvsKey_eq, writtenNvsKey_eq, Option.some.injEq,
      List.append_left_inj] at same
    apply getNvsKey_injective
    rw [← (keyBytes_getNvsKey first).2, same, (keyBytes_getNvsKey second).2]
  · intro persistence catalog outcome id
    rcases flush_blobs persistence catalog outcome (getNvsKey id) with
      same | ⟨index, inside, marked, sameKey, stored⟩
    · exact .inl same
    · exact .inr ⟨index, inside, marked, getNvsKey_injective sameKey, stored⟩

end Endap.V3
