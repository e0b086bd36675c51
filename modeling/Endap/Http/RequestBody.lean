import Endap.Library.CText
import Endap.Library.Loop
import Endap.Library.Receiving

/-!
# Bodies of requests

The handlers read the body of a request with a loop that calls until nothing
is left.  It reads the body whatever the calls return, if the body is not
empty and fits the array of the caller with a terminator behind it.
-/

namespace Endap.Http

open Endap.Library
open Endap.Library.Loop
open Endap.Library.Receiving

/-! ## The loop -/

/-- The variables of `http_read_request_body`, and what it returns. -/
structure BodyRead where
  reception : Reception UInt8
  offset : Nat
  remaining : Nat
  complete : Bool

/-- One iteration of `http_read_request_body`. -/
def bodyReadStep (arrival : Arrival UInt8) (outSize : Nat)
    (read : BodyRead) : Flow BodyRead :=
  if 0 < read.remaining then
    let room := outSize - read.offset - 1
    let toRead := if read.remaining < room then read.remaining else room
    if toRead ≤ 0 then .stop { read with complete := false }
    else
      let received := read.reception.returned arrival toRead
      let reception := read.reception.receive arrival read.offset toRead
      if received ≤ 0 then
        .stop { read with reception := reception, complete := false }
      else
        .next
          { read with
            reception := reception
            offset := read.offset + received.toNat
            remaining := read.remaining - received.toNat }
  else .stop { read with complete := true }

/-- The variables of `http_read_request_body` at its loop. -/
def BodyRead.start (arrival : Arrival UInt8) (outBody : Nat → UInt8) :
    BodyRead where
  reception := .start (Function.update outBody 0 0)
  offset := 0
  remaining := arrival.body.length
  complete := false

/-- `http_read_request_body`; the length of the body is the one that the
request announced. -/
def httpReadRequestBody (arrival : Arrival UInt8)
    (outBody : Nat → UInt8) (outSize : Nat) : Bool × (Nat → UInt8) :=
  if outSize = 0 ∨ arrival.body.length = 0 then (false, outBody)
  else if arrival.body.length ≥ outSize then (false, outBody)
  else
    let read :=
      Loop.run BodyRead.remaining (bodyReadStep arrival outSize)
        (.start arrival outBody)
    if read.complete = true then
      (true, Function.update read.reception.cells read.offset 0)
    else (false, read.reception.cells)

section

variable {arrival : Arrival UInt8} {outSize : Nat}

/-- Before each call the array starts with what was taken of the body, and
the rest is still asked for. -/
structure BodyRead.Reading (arrival : Arrival UInt8)
    (outBody : Nat → UInt8) (read : BodyRead) : Prop where
  front : read.reception.Front arrival outBody
  offset : read.offset = read.reception.taken
  left : read.reception.taken + read.remaining = arrival.body.length

/-- At the end the body was read, or a call failed. -/
structure BodyRead.Ended (arrival : Arrival UInt8)
    (outBody : Nat → UInt8) (read : BodyRead) : Prop where
  whole :
    read.complete = true →
    read.reception.Front arrival outBody ∧
    read.reception.taken = arrival.body.length ∧
    read.offset = arrival.body.length
  complete : arrival.Delivers → read.complete = true

variable {read : BodyRead} {outBody : Nat → UInt8}

theorem bodyReadStep_asks
    (reading : read.Reading arrival outBody)
    (room : arrival.body.length < outSize) (more : 0 < read.remaining) :
    bodyReadStep arrival outSize read =
      let received := read.reception.returned arrival read.remaining
      let reception :=
        read.reception.receive arrival read.reception.taken read.remaining
      if received ≤ 0 then
        .stop { read with reception := reception, complete := false }
      else
        .next
          { read with
            reception := reception
            offset := read.offset + received.toNat
            remaining := read.remaining - received.toNat } := by
  have left := reading.left
  have offset := reading.offset
  have toRead :
      (if read.remaining < outSize - read.reception.taken - 1 then
          read.remaining
        else outSize - read.reception.taken - 1) = read.remaining := by
    split <;> omega
  rw [bodyReadStep, if_pos more]
  simp only [offset, toRead]
  rw [if_neg (Nat.not_le_of_lt more)]

theorem bodyReadStep_decreasing (arrival : Arrival UInt8) (outSize : Nat) :
    Loop.Decreasing BodyRead.remaining (bodyReadStep arrival outSize) := by
  intro read after step
  rw [bodyReadStep] at step
  split at step
  · next more =>
      simp only at step
      generalize
        (if read.remaining < outSize - read.offset - 1 then read.remaining
          else outSize - read.offset - 1) = toRead at step
      split at step
      · cases step
      · split at step
        · cases step
        · next received =>
            cases step
            exact Nat.sub_lt more (by omega)
  · cases step

theorem bodyReadStep_reading
    (room : arrival.body.length < outSize)
    (reading : read.Reading arrival outBody) {after : BodyRead}
    (step : bodyReadStep arrival outSize read = .next after) :
    after.Reading arrival outBody := by
  by_cases more : 0 < read.remaining
  · have left := reading.left
    have few :
        (read.reception.returned arrival read.remaining).toNat ≤
          read.remaining :=
      read.reception.received_le read.remaining
    have front :
        (read.reception.receive arrival read.reception.taken
          read.remaining).Front arrival outBody :=
      reading.front.receive (Nat.le_of_eq left)
    rw [bodyReadStep_asks reading room more] at step
    simp only at step
    split at step
    · cases step
    · cases step
      refine ⟨front, congrArg (· + _) reading.offset, ?_⟩
      simp only [Reception.receive]
      omega
  · rw [bodyReadStep, if_neg more] at step
    cases step

theorem bodyReadStep_ended
    (room : arrival.body.length < outSize)
    (reading : read.Reading arrival outBody) {last : BodyRead}
    (step : bodyReadStep arrival outSize read = .stop last) :
    last.Ended arrival outBody := by
  by_cases more : 0 < read.remaining
  · rw [bodyReadStep_asks reading room more] at step
    simp only at step
    split at step
    · next failed =>
        cases step
        refine ⟨fun complete => ?_, fun delivers => ?_⟩
        · cases complete
        · exact absurd failed (Int.not_le_of_gt (delivers _ _ more))
    · cases step
  · have left := reading.left
    rw [bodyReadStep, if_neg more] at step
    cases step
    have whole : read.reception.taken = arrival.body.length := by omega
    exact
      ⟨fun _ => ⟨reading.front, whole, reading.offset.trans whole⟩,
        fun _ => rfl⟩

/-- The loop reads the whole body, whatever the calls return; it gives up only
when a call fails. -/
theorem bodyRead_ended
    (room : arrival.body.length < outSize) (outBody : Nat → UInt8) :
    (Loop.run BodyRead.remaining (bodyReadStep arrival outSize)
        (.start arrival outBody)).Ended arrival
      (Function.update outBody 0 0) :=
  Loop.run_invariant (bodyReadStep_decreasing arrival outSize)
    (BodyRead.Reading arrival (Function.update outBody 0 0))
    (BodyRead.Ended arrival (Function.update outBody 0 0))
    (fun _ _ reading step => bodyReadStep_reading room reading step)
    (fun _ _ reading step => bodyReadStep_ended room reading step)
    ⟨Reception.front_start, rfl, Nat.zero_add _⟩

theorem httpReadRequestBody_refused
    (arrival : Arrival UInt8) (outBody : Nat → UInt8) {outSize : Nat}
    (unfit : ¬ (arrival.body ≠ [] ∧ arrival.body.length < outSize)) :
    httpReadRequestBody arrival outBody outSize = (false, outBody) := by
  rw [httpReadRequestBody]
  split
  · rfl
  · next some =>
      rw [if_pos]
      by_contra room
      refine unfit ⟨?_, Nat.lt_of_not_le room⟩
      exact fun empty => some (Or.inr (by rw [empty]; rfl))

theorem httpReadRequestBody_of_fits
    (arrival : Arrival UInt8) (outBody : Nat → UInt8) {outSize : Nat}
    (fits : arrival.body ≠ [] ∧ arrival.body.length < outSize) :
    httpReadRequestBody arrival outBody outSize =
      let read :=
        Loop.run BodyRead.remaining (bodyReadStep arrival outSize)
          (.start arrival outBody)
      if read.complete = true then
        (true, Function.update read.reception.cells read.offset 0)
      else (false, read.reception.cells) := by
  have some : ¬ (outSize = 0 ∨ arrival.body.length = 0) := by
    have positive := List.length_pos_iff.mpr fits.1
    omega
  rw [httpReadRequestBody, if_neg some, if_neg (Nat.not_le_of_lt fits.2)]

/-- `http_read_request_body` returns the body and a terminator, or false; it
returns the body when the body fits and no call fails, however the calls cut
it. -/
theorem httpReadRequestBody_whole
    (arrival : Arrival UInt8) (outBody : Nat → UInt8) (outSize : Nat) :
    let read := httpReadRequestBody arrival outBody outSize
    (read.1 = true →
    ArrayList.listed read.2 arrival.body.length = arrival.body ∧
    read.2 arrival.body.length = 0) ∧
    (arrival.body ≠ [] → arrival.body.length < outSize →
    arrival.Delivers → read.1 = true) := by
  intro read
  by_cases fits : arrival.body ≠ [] ∧ arrival.body.length < outSize
  · have ended := bodyRead_ended fits.2 outBody
    have isRead := httpReadRequestBody_of_fits arrival outBody fits
    simp only [read]
    rw [isRead]
    simp only
    split
    · next complete =>
        rcases ended.whole complete with ⟨front, taken, offset⟩
        rw [offset]
        refine ⟨fun _ => ⟨?_, ?_⟩, fun _ _ _ => rfl⟩
        · refine Eq.trans ?_ (front.listed_whole taken)
          apply ArrayList.listed_congr
          intro index inside
          exact Function.update_of_ne (Nat.ne_of_lt inside) _ _
        · exact Function.update_self _ _ _
    · next incomplete =>
        refine ⟨fun complete => ?_, fun _ _ delivers => ?_⟩
        · cases complete
        · exact absurd (ended.complete delivers) incomplete
  · have refused := httpReadRequestBody_refused arrival outBody fits
    simp only [read]
    rw [refused]
    refine ⟨fun complete => ?_, fun nonempty room _ => ?_⟩
    · cases complete
    · exact absurd ⟨nonempty, room⟩ fits

/-- The text in an array. -/
def arrayText (cells : Nat → UInt8) (size : Nat) : List UInt8 :=
  CText.upToZero (ArrayList.listed cells size)

theorem httpReadRequestBody_text
    (fits : arrival.body ≠ [] ∧ arrival.body.length < outSize)
    (delivers : arrival.Delivers) (outBody : Nat → UInt8) :
    let read := httpReadRequestBody arrival outBody outSize
    read.1 = true ∧
    arrayText read.2 outSize = CText.upToZero arrival.body := by
  intro read
  have whole := httpReadRequestBody_whole arrival outBody outSize
  have isRead : read.1 = true := whole.2 fits.1 fits.2 delivers
  rcases whole.1 isRead with ⟨front, ended⟩
  have terminated : read.2 arrival.body.length = 0 := ended
  refine ⟨isRead, ?_⟩
  -- Behind the body stands its terminator, whatever comes then.
  obtain ⟨more, isSize⟩ : ∃ more, outSize = arrival.body.length + (1 + more) :=
    ⟨outSize - arrival.body.length - 1, by have room := fits.2; omega⟩
  obtain ⟨rest, split⟩ :
      ∃ rest,
        ArrayList.listed read.2 outSize = arrival.body ++ 0 :: rest := by
    rw [isSize, ArrayList.listed, List.range_add, List.map_append,
      ← ArrayList.listed, front, Nat.add_comm 1 more,
      List.range_succ_eq_map]
    simp only [List.map_cons, Nat.add_zero, terminated]
    exact ⟨_, rfl⟩
  rw [arrayText, split, CText.upToZero_append_zero]

end

end Endap.Http
