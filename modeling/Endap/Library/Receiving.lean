import Endap.Library.ArrayList

/-!
# Receiving in pieces

A body is received by calls that each ask for some number of bytes.  A call
fails, or returns the next bytes of the body: as many as were asked for, or
fewer.

What was received is the front of the body, whatever the calls returned; the
rest of the array is what it was before.
-/

namespace Endap.Library.Receiving

variable {Byte : Type*}

/-- A body, and what each call returns when it asks for some bytes: an error,
or how many of the next bytes it delivers. -/
structure Arrival (Byte : Type*) where
  body : List Byte
  returns : Nat → Nat → Int
  fits : ∀ call wanted, returns call wanted ≤ wanted

/-- No call fails. -/
def Arrival.Delivers (arrival : Arrival Byte) : Prop :=
  ∀ call wanted, 0 < wanted → 0 < arrival.returns call wanted

/-- The array, how many bytes of the body were taken, and by how many
calls. -/
structure Reception (Byte : Type*) where
  cells : Nat → Byte
  taken : Nat
  calls : Nat

/-- Nothing was received yet. -/
def Reception.start (cells : Nat → Byte) : Reception Byte where
  cells := cells
  taken := 0
  calls := 0

/-- What the next call returns. -/
def Reception.returned (arrival : Arrival Byte) (reception : Reception Byte)
    (wanted : Nat) : Int :=
  arrival.returns reception.calls wanted

/-- The next call; it stores what it receives at an offset. -/
def Reception.receive (arrival : Arrival Byte) (reception : Reception Byte)
    (offset wanted : Nat) : Reception Byte :=
  let received := (reception.returned arrival wanted).toNat
  { cells :=
      ArrayList.copyCells reception.cells offset
        (fun index =>
          arrival.body[reception.taken + index]?.getD
            (reception.cells (offset + index)))
        received
    taken := reception.taken + received
    calls := reception.calls + 1 }

/-! ## The front of the body -/

/-- The array starts with the part of the body that was taken and goes on as
it was before. -/
structure Reception.Front (arrival : Arrival Byte) (before : Nat → Byte)
    (reception : Reception Byte) : Prop where
  inside : reception.taken ≤ arrival.body.length
  front :
    ∀ index, index < reception.taken →
    arrival.body[index]? = some (reception.cells index)
  behind :
    ∀ index, reception.taken ≤ index → reception.cells index = before index

section

variable {arrival : Arrival Byte} {before : Nat → Byte}

theorem Reception.front_start :
    (Reception.start before).Front arrival before where
  inside := Nat.zero_le _
  front := fun index early => absurd early (Nat.not_lt_zero index)
  behind := fun _ _ => rfl

variable {reception : Reception Byte}

/-- A call does not return more than it was asked for. -/
theorem Reception.received_le (wanted : Nat) :
    (reception.returned arrival wanted).toNat ≤ wanted := by
  have fits := arrival.fits reception.calls wanted
  rw [Reception.returned]
  omega

/-- A call that asks for no more than is left receives the next part. -/
theorem Reception.Front.receive
    (holds : reception.Front arrival before) {wanted : Nat}
    (left : reception.taken + wanted ≤ arrival.body.length) :
    (reception.receive arrival reception.taken wanted).Front arrival
      before := by
  have few : (reception.returned arrival wanted).toNat ≤ wanted :=
    reception.received_le wanted
  refine ⟨?_, ?_, ?_⟩
  · exact Nat.le_trans (Nat.add_le_add_left few _) left
  · intro index early
    have early :
        index < reception.taken + (reception.returned arrival wanted).toNat :=
      early
    simp only [Reception.receive, ArrayList.copyCells]
    split
    · next stored =>
        have isIndex : reception.taken + (index - reception.taken) = index :=
          Nat.add_sub_cancel' stored.1
        have inside : index < arrival.body.length := by omega
        rw [isIndex, List.getElem?_eq_getElem inside]
        rfl
    · next kept => exact holds.front index (by omega)
  · intro index late
    have late :
        reception.taken + (reception.returned arrival wanted).toNat ≤
          index :=
      late
    simp only [Reception.receive, ArrayList.copyCells]
    rw [if_neg (by omega)]
    exact holds.behind index (by omega)

/-- The array as a list. -/
theorem Reception.Front.listed (holds : reception.Front arrival before) :
    ArrayList.listed reception.cells arrival.body.length =
      arrival.body.take reception.taken ++
        (ArrayList.listed before arrival.body.length).drop
          reception.taken := by
  have short : (arrival.body.take reception.taken).length = reception.taken :=
    List.length_take_of_le holds.inside
  apply List.ext_getElem?
  intro index
  rw [List.getElem?_append, short, ArrayList.listed_getElem?]
  by_cases early : index < reception.taken
  · rw [if_pos early, List.getElem?_take_of_lt early,
      if_pos (Nat.lt_of_lt_of_le early holds.inside)]
    exact (holds.front index early).symm
  · have late := Nat.le_of_not_lt early
    rw [if_neg early, List.getElem?_drop, Nat.add_sub_cancel' late,
      ArrayList.listed_getElem?, holds.behind index late]

/-- When all was taken, the array holds the body. -/
theorem Reception.Front.listed_whole
    (holds : reception.Front arrival before)
    (whole : reception.taken = arrival.body.length) :
    ArrayList.listed reception.cells arrival.body.length =
      arrival.body := by
  rw [holds.listed, whole, List.take_length, List.drop_eq_nil_of_le (by simp),
    List.append_nil]

end

end Endap.Library.Receiving
