import Endap.Library.Appending
import Mathlib.Data.List.GetD

/-!
# Steps that append in memory

A step appends some content behind the running offset of a buffer and reports
whether it fitted.  One kind of step compares the length first and copies; the
other prints what fits and compares afterwards, so that a part of its content
may stand in the buffer when it fails.

A step that is given up leaves what stands before its offset, writes nothing
behind the end of the buffer and keeps the offset inside.  Steps one behind the
other append their contents one behind the other.
-/

namespace Endap.Library.InMemory

/-- The memory from the start of a buffer on, and the running offset. -/
structure Cursor where
  cells : Nat → UInt8
  offset : Nat

/-- What a step reports, and the cursor behind it. -/
abbrev Step := Cursor → Bool × Cursor

/-- A comparison of the length, a copy, and the terminator. -/
def putText (size : Nat) (text : List UInt8) : Step := fun cursor =>
  if cursor.offset ≥ size then (false, cursor)
  else if text.length ≥ size - cursor.offset then (false, cursor)
  else
    (true,
      { cells := fun index =>
          if index < cursor.offset then cursor.cells index
          else if index < cursor.offset + text.length then
            text.getD (index - cursor.offset) 0
          else if index = cursor.offset + text.length then 0
          else cursor.cells index
        offset := cursor.offset + text.length })

/-- `vsnprintf` into the room that is left, and a comparison of the length that
it returns. -/
def putPrinted (size : Nat) (text : List UInt8) : Step := fun cursor =>
  if cursor.offset ≥ size then (false, cursor)
  else
    let cells := fun index =>
      if index < cursor.offset then cursor.cells index
      else
        Lines.printed (size - cursor.offset) 0 text
          (fun place => cursor.cells (cursor.offset + place))
          (index - cursor.offset)
    if text.length ≥ size - cursor.offset then
      (false, { cells := cells, offset := cursor.offset })
    else
      (true, { cells := cells, offset := cursor.offset + text.length })

/-- A step, and another one if it fitted. -/
def andThen (first second : Step) : Step := fun cursor =>
  if (first cursor).1 then second (first cursor).2 else first cursor

/-- A step for each of some items, and a last one. -/
def eachThen {Item : Type*} (step : Item → Step) (last : Step) :
    List Item → Step
  | [] => last
  | item :: rest => andThen (step item) (eachThen step last rest)

/-- What a step that appends some content does to a cursor. -/
structure PutsAt (size : Nat) (content : List UInt8) (before : Cursor)
    (fits : Bool) (after : Cursor) : Prop where
  fits_iff :
    fits = true ↔ before.offset < size ∧ before.offset + content.length < size
  moves : fits = true → after.offset = before.offset + content.length
  written :
    fits = true →
    ∀ index < content.length,
      after.cells (before.offset + index) = content.getD index 0
  terminated : fits = true → after.cells after.offset = 0
  front : ∀ index < before.offset, after.cells index = before.cells index
  behind : ∀ index, size ≤ index → after.cells index = before.cells index
  inside : before.offset < size → after.offset < size
  grows : before.offset ≤ after.offset

/-- A step appends some content. -/
def Puts (size : Nat) (step : Step) (content : List UInt8) : Prop :=
  ∀ cursor, PutsAt size content cursor (step cursor).1 (step cursor).2

section

variable {size : Nat}

variable {content : List UInt8}

/-- A step that is given up may have written inside the buffer, behind the
offset. -/
theorem PutsAt.givenUp {before after : Cursor}
    (full : ¬ (before.offset < size ∧ before.offset + content.length < size))
    (front : ∀ index < before.offset, after.cells index = before.cells index)
    (behind : ∀ index, size ≤ index → after.cells index = before.cells index)
    (inside : before.offset < size → after.offset < size)
    (grows : before.offset ≤ after.offset) :
    PutsAt size content before false after where
  fits_iff := iff_of_false Bool.false_ne_true full
  moves impossible := absurd impossible Bool.false_ne_true
  written impossible := absurd impossible Bool.false_ne_true
  terminated impossible := absurd impossible Bool.false_ne_true
  front := front
  behind := behind
  inside := inside
  grows := grows

theorem PutsAt.refused {cursor : Cursor}
    (full : ¬ (cursor.offset < size ∧ cursor.offset + content.length < size)) :
    PutsAt size content cursor false cursor :=
  .givenUp full (fun _ _ => rfl) (fun _ _ => rfl) id (Nat.le_refl _)

theorem puts_putText (text : List UInt8) :
    Puts size (putText size text) text := by
  intro cursor
  rw [putText]
  split
  · exact .refused (by omega)
  · split
    · exact .refused (by omega)
    · constructor
      case fits_iff => exact iff_of_true rfl ⟨by omega, by omega⟩
      case moves => exact fun _ => rfl
      case written =>
        intro _ index inside
        simp only
        rw [if_neg (by omega), if_pos (by omega), Nat.add_sub_cancel_left]
      case terminated =>
        intro _
        simp only [Nat.lt_irrefl, if_false, if_true]
        exact if_neg (by omega)
      case front => exact fun index before => if_pos before
      case behind =>
        intro index outside
        simp only
        rw [if_neg (by omega), if_neg (by omega), if_neg (by omega)]
      case inside =>
        intro _
        simp only
        omega
      case grows => exact Nat.le_add_right _ _

theorem puts_putPrinted (text : List UInt8) :
    Puts size (putPrinted size text) text := by
  intro cursor
  rw [putPrinted]
  split
  · exact .refused (by omega)
  · next room =>
      have behind (index : Nat) (outside : size ≤ index) :
          (if index < cursor.offset then cursor.cells index
            else
              Lines.printed (size - cursor.offset) 0 text
                (fun place => cursor.cells (cursor.offset + place))
                (index - cursor.offset)) =
            cursor.cells index := by
        split
        · rfl
        · next printed =>
            rw [Lines.printed_outside (by omega) (by omega),
              Nat.add_sub_cancel' (Nat.le_of_not_lt printed)]
      split
      · exact
          .givenUp (by omega) (fun index before => if_pos before) behind id
            (Nat.le_refl _)
      · constructor
        case fits_iff => exact iff_of_true rfl ⟨by omega, by omega⟩
        case moves => exact fun _ => rfl
        case written =>
          intro _ index inside
          simp only
          rw [if_neg (by omega), Nat.add_sub_cancel_left, Lines.printed,
            if_pos (by omega)]
        case terminated =>
          intro _
          simp only
          rw [if_neg (by omega), Nat.add_sub_cancel_left, Lines.printed,
            if_neg (by omega), if_pos (by omega)]
        case front => exact fun index before => if_pos before
        case behind => exact behind
        case inside =>
          intro _
          simp only
          omega
        case grows => exact Nat.le_add_right _ _

/-- Two steps one behind the other. -/
theorem Puts.andThen {first second : Step} {front back : List UInt8}
    (left : Puts size first front) (right : Puts size second back) :
    Puts size (andThen first second) (front ++ back) := by
  intro cursor
  have atFirst := left cursor
  have atSecond := right (first cursor).2
  have grows := atFirst.grows
  rw [InMemory.andThen]
  cases fits : (first cursor).1 with
  | false =>
      rw [fits] at atFirst
      simp only [Bool.false_eq_true, if_false, fits]
      have full := mt atFirst.fits_iff.mpr Bool.false_ne_true
      refine
        .givenUp ?_ atFirst.front atFirst.behind atFirst.inside atFirst.grows
      rw [List.length_append]
      omega
  | true =>
      rw [fits] at atFirst
      have room := atFirst.fits_iff.mp rfl
      have moves := atFirst.moves rfl
      simp only [if_true]
      constructor
      case fits_iff =>
        rw [atSecond.fits_iff, moves, List.length_append]
        omega
      case moves =>
        intro whole
        rw [atSecond.moves whole, moves, List.length_append]
        exact Nat.add_assoc _ _ _
      case written =>
        intro whole index inside
        rw [List.length_append] at inside
        rcases Nat.lt_or_ge index front.length with early | late
        · rw [atSecond.front _ (by omega), atFirst.written rfl index early,
            List.getD_append _ _ _ _ early]
        · have place := atSecond.written whole (index - front.length)
            (by omega)
          rw [moves, Nat.add_assoc, Nat.add_sub_cancel' late] at place
          rw [place, List.getD_append_right _ _ _ _ late]
      case terminated => exact atSecond.terminated
      case front =>
        intro index before
        rw [atSecond.front index (Nat.lt_of_lt_of_le before grows)]
        exact atFirst.front index before
      case behind =>
        intro index outside
        rw [atSecond.behind index outside]
        exact atFirst.behind index outside
      case inside =>
        exact fun room => atSecond.inside (atFirst.inside room)
      case grows => exact Nat.le_trans grows atSecond.grows

/-- A step for each of some items. -/
theorem Puts.eachThen {Item : Type*} {step : Item → Step} {last : Step}
    {content : Item → List UInt8} {back : List UInt8}
    (each : ∀ item, Puts size (step item) (content item))
    (closes : Puts size last back) (items : List Item) :
    Puts size (eachThen step last items) (items.flatMap content ++ back) := by
  induction items with
  | nil => exact closes
  | cons item rest induction =>
      rw [List.flatMap_cons, List.append_assoc]
      exact (each item).andThen induction

/-! ## The text in the buffer -/

/-- The bytes up to the offset. -/
def Cursor.text (cursor : Cursor) : List UInt8 :=
  ArrayList.listed cursor.cells cursor.offset

theorem PutsAt.text_eq {before after : Cursor}
    (puts : PutsAt size content before true after) :
    after.text = before.text ++ content := by
  have moves := puts.moves rfl
  apply List.ext_getElem?
  intro index
  rw [Cursor.text, Cursor.text, ArrayList.listed_getElem?, moves,
    List.getElem?_append, ArrayList.listed_length,
    ArrayList.listed_getElem?]
  by_cases old : index < before.offset
  · rw [if_pos (by omega), if_pos old, if_pos old, puts.front index old]
  · rw [if_neg old]
    by_cases new : index < before.offset + content.length
    · have inside : index - before.offset < content.length := by
        omega
      have place := puts.written rfl (index - before.offset) inside
      rw [Nat.add_sub_cancel' (Nat.le_of_not_lt old)] at place
      rw [if_pos new, place, List.getD_eq_getElem _ _ inside,
        List.getElem?_eq_getElem inside]
    · rw [if_neg new, List.getElem?_eq_none (by omega)]

/-- In memory a step does to the text in the buffer what a step on texts that
appends the same content does. -/
theorem Puts.text_eq {step : Step}
    {checked : List UInt8 → Option (List UInt8)}
    (puts : Puts size step content)
    (appends : Checked.Appends size checked content) {cursor : Cursor}
    (room : cursor.offset < size) :
    checked cursor.text =
      if (step cursor).1 then some (step cursor).2.text else none := by
  have atCursor := puts cursor
  have length : cursor.text.length = cursor.offset :=
    ArrayList.listed_length _ _
  rw [appends cursor.text (by rw [length]; exact room), length]
  cases fits : (step cursor).1 with
  | false =>
      rw [fits] at atCursor
      have full := mt atCursor.fits_iff.mpr Bool.false_ne_true
      exact if_neg fun fits => full ⟨room, fits⟩
  | true =>
      rw [fits] at atCursor
      rw [if_pos (atCursor.fits_iff.mp rfl).2, atCursor.text_eq]
      rfl

end

end Endap.Library.InMemory
