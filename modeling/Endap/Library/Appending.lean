import Endap.Library.Lines
import Mathlib.Algebra.Order.Ring.Int
import Mathlib.Data.List.Induction

/-!
# Texts appended to a buffer

Texts are printed one behind another into a buffer of fixed size.  There are
two ways to do it.

Without a check, each `snprintf` is given the room that the offset leaves and
the offset goes on by the length of the text, whether it fitted or not.  As
soon as the offset is behind the end, the room is a difference that wraps.
All offsets and all cells that are written are inside the buffer if and only
if the texts together are not longer than it.

With a check, a text that does not fit ends the whole, and a result is what
the texts are together.
-/

namespace Endap.Library

/-! ## Lists with commas -/

section

variable {Record : Type*}

/-- The texts of some records, with a comma before each but the first. -/
def separated (content : Nat → Record → List UInt8) (records : List Record) :
    List (List UInt8) :=
  records.zipIdx.flatMap fun place =>
    (if 0 < place.2 then [[44]] else []) ++ [content place.2 place.1]

/-- The lengths of the texts together. -/
def contentLength (length : Nat → Record → Nat) (records : List Record) :
    Nat :=
  (records.zipIdx.map fun place => length place.2 place.1).sum

theorem separated_length_from
    (content : Nat → Record → List UInt8) (records : List Record)
    (start : Nat) :
    ((records.zipIdx start).flatMap fun place =>
          (if 0 < place.2 then [[44]] else []) ++
            [content place.2 place.1]).flatten.length =
      ((records.zipIdx start).map fun place =>
          (content place.2 place.1).length).sum +
        if start = 0 then records.length - 1 else records.length := by
  induction records generalizing start with
  | nil => simp
  | cons record records induction =>
      rw [List.zipIdx_cons, List.flatMap_cons, List.flatten_append,
        List.length_append, induction, List.map_cons, List.sum_cons,
        List.length_cons, if_neg (Nat.succ_ne_zero start)]
      by_cases first : start = 0
      · simp only [first, Nat.lt_irrefl, if_false, if_true, List.nil_append,
          List.flatten_singleton]
        omega
      · simp only [if_neg first, if_pos (Nat.pos_of_ne_zero first),
          List.flatten_append, List.flatten_singleton, List.length_append,
          List.length_singleton]
        omega

theorem separated_length
    {content : Nat → Record → List UInt8} {length : Nat → Record → Nat}
    (same : ∀ index record, (content index record).length = length index record)
    (records : List Record) :
    (separated content records).flatten.length =
      contentLength length records + (records.length - 1) := by
  rw [separated, separated_length_from, if_pos rfl, contentLength]
  simp only [same]

end

/-! ## Without a check -/

namespace Unchecked

/-- The memory from the start of the buffer on, the running offset, and a
bound for the cells that have been written.  The offset does not wrap: the
texts of a run are together far shorter than the address space. -/
structure Writing where
  cells : Nat → UInt8
  offset : Nat
  reach : Nat

/-- What `size - offset` is for 32-bit sizes. -/
def room (size offset : Nat) : Nat := (((size : Int) - offset) % 2 ^ 32).toNat

/-- One `snprintf` behind the offset, and the offset behind its text. -/
def Writing.append (size : Nat) (writing : Writing) (text : List UInt8) :
    Writing :=
  let available := room size writing.offset
  { cells := fun index =>
      if index < writing.offset ∨ available = 0 then writing.cells index
      else
        Lines.printed available 0 text
          (fun place => writing.cells (writing.offset + place))
          (index - writing.offset)
    offset := writing.offset + text.length
    reach :=
      if available = 0 then writing.reach
      else
        max writing.reach
          (writing.offset + min text.length (available - 1) + 1) }

/-- Texts that are appended to an empty buffer. -/
def appended (size : Nat) (memory : Nat → UInt8)
    (texts : List (List UInt8)) : Writing :=
  texts.foldl (Writing.append size) { cells := memory, offset := 0, reach := 0 }

/-- The bytes up to the offset. -/
def Writing.sent (writing : Writing) : List UInt8 :=
  ArrayList.listed writing.cells writing.offset

/-- A buffer size and the texts that are appended to the buffer. -/
structure Report where
  size : Nat
  texts : List (List UInt8)

/-- The texts of a report together. -/
def Report.document (report : Report) : List UInt8 := report.texts.flatten

/-- The memory after the texts of a report. -/
def Report.written (report : Report) (memory : Nat → UInt8) : Writing :=
  appended report.size memory report.texts

/-- No offset, no cell that is written and no byte that is sent is behind the
end of the buffer. -/
structure Report.Contained (report : Report) (memory : Nat → UInt8) :
    Prop where
  before : ∀ front text rest,
    report.texts = front ++ text :: rest →
    (appended report.size memory front).offset ≤ report.size
  reach : (report.written memory).reach ≤ report.size
  sent : (report.written memory).offset ≤ report.size

section

variable {size : Nat}

theorem room_of_le
    (small : size < 2 ^ 32) {offset : Nat} (inside : offset ≤ size) :
    room size offset = size - offset := by
  rw [room, Int.emod_eq_of_lt (by omega) (by omega)]
  omega

theorem appended_concat
    (memory : Nat → UInt8) (texts : List (List UInt8)) (text : List UInt8) :
    appended size memory (texts ++ [text]) =
      (appended size memory texts).append size text :=
  List.foldl_concat ..

theorem appended_offset
    (memory : Nat → UInt8) (texts : List (List UInt8)) :
    (appended size memory texts).offset = texts.flatten.length := by
  induction texts using List.reverseRecOn with
  | nil => rfl
  | append_singleton texts text induction =>
      rw [appended_concat, List.flatten_concat, List.length_append, ← induction]
      rfl

theorem appended_reach
    (small : size < 2 ^ 32) (memory : Nat → UInt8)
    {texts : List (List UInt8)} (fits : texts.flatten.length ≤ size) :
    (appended size memory texts).reach ≤ size := by
  induction texts using List.reverseRecOn with
  | nil => exact Nat.zero_le _
  | append_singleton texts text induction =>
      rw [List.flatten_concat, List.length_append] at fits
      have others := induction (by omega)
      have offset := @appended_offset size memory texts
      rw [appended_concat, Writing.append, room_of_le small (by omega)]
      split
      · exact others
      · next nonempty => exact Nat.max_le.mpr ⟨others, by omega⟩

/-- Nothing is written or sent behind the end exactly if the texts are
together not longer than the buffer. -/
theorem Report.contained_iff
    {report : Report} (small : report.size < 2 ^ 32)
    (memory : Nat → UInt8) :
    report.Contained memory ↔ report.document.length ≤ report.size := by
  constructor
  · intro contained
    have sent := contained.sent
    rwa [Report.written, appended_offset] at sent
  · intro fits
    refine ⟨?_, appended_reach small memory fits, ?_⟩
    · intro front text rest texts
      rw [Report.document, texts, List.flatten_append,
        List.length_append] at fits
      rw [appended_offset]
      omega
    · rw [Report.written, appended_offset]
      exact fits

theorem appended_sent
    (small : size < 2 ^ 32) (memory : Nat → UInt8)
    {texts : List (List UInt8)} (fits : texts.flatten.length < size) :
    (appended size memory texts).sent = texts.flatten := by
  induction texts using List.reverseRecOn with
  | nil => rfl
  | append_singleton texts text induction =>
      rw [List.flatten_concat, List.length_append] at fits
      have others := induction (by omega)
      have offset := @appended_offset size memory texts
      have available :
          room size (appended size memory texts).offset =
            size - texts.flatten.length := by
        rw [room_of_le small (by omega), offset]
      rw [Writing.sent] at others
      rw [appended_concat, List.flatten_concat, ← others, Writing.sent]
      apply List.ext_getElem?
      intro index
      have whole :
          min text.length (size - texts.flatten.length - 1) =
            text.length := by
        omega
      have length : texts.flatten.length =
          (ArrayList.listed (appended size memory texts).cells
            (appended size memory texts).offset).length := by
        rw [ArrayList.listed_length, offset]
      simp only [Writing.append, ArrayList.listed_getElem?, available,
        Lines.printed, whole, List.getElem?_append,
        ArrayList.listed_length]
      by_cases old : index < (appended size memory texts).offset
      · rw [if_pos (by omega), if_pos (Or.inl old), if_pos old, if_pos old]
      · rw [if_neg old]
        by_cases new : index < (appended size memory texts).offset + text.length
        · have inside :
              index - (appended size memory texts).offset < text.length := by
            omega
          rw [if_pos new, if_neg (by omega), if_pos inside,
            List.getD_eq_getElem?_getD, List.getElem?_eq_getElem inside]
          rfl
        · rw [if_neg new, List.getElem?_eq_none (by omega)]

/-- A report that leaves room for the terminator is sent as it is. -/
theorem Report.sent_eq
    {report : Report} (small : report.size < 2 ^ 32)
    (memory : Nat → UInt8) (fits : report.document.length < report.size) :
    (report.written memory).sent = report.document :=
  appended_sent small memory fits

end

end Unchecked

/-! ## With a check -/

namespace Checked

/-- Append a text if it leaves room for the terminator. -/
def append (size : Nat) (text out : List UInt8) : Option (List UInt8) :=
  if out.length + text.length < size then some (out ++ text) else none

/-- A step appends some content if there is room for all of it, and fails
otherwise. -/
def Appends (size : Nat) (step : List UInt8 → Option (List UInt8))
    (content : List UInt8) : Prop :=
  ∀ out,
    out.length < size →
    step out =
      if out.length + content.length < size then some (out ++ content)
      else none

section

variable {size : Nat}

theorem appends_append (text : List UInt8) :
    Appends size (append size text) text :=
  fun _ _ => rfl

theorem appends_some : Appends size some [] := by
  intro out room
  rw [List.length_nil, Nat.add_zero, if_pos room, List.append_nil]

theorem Appends.of_eq
    {step : List UInt8 → Option (List UInt8)} {content other : List UInt8}
    (appends : Appends size step content) (same : content = other) :
    Appends size step other :=
  same ▸ appends

/-- Two steps one behind the other. -/
theorem Appends.bind
    {first second : List UInt8 → Option (List UInt8)}
    {front back : List UInt8} (left : Appends size first front)
    (right : Appends size second back) :
    Appends size (fun out => (first out).bind second) (front ++ back) := by
  intro out room
  simp only [left out room]
  by_cases fits : out.length + front.length < size
  · have length : (out ++ front).length = out.length + front.length :=
      List.length_append
    rw [if_pos fits, Option.bind_some, right _ (by rw [length]; exact fits),
      length, List.length_append, List.append_assoc, Nat.add_assoc]
  · rw [if_neg fits, Option.bind_none, List.length_append, if_neg (by omega)]

/-- A step for each of some records. -/
theorem Appends.foldlM
    {Record : Type*} {step : List UInt8 → Record → Option (List UInt8)}
    {content : Record → List UInt8}
    (each : ∀ record, Appends size (step · record) (content record))
    (records : List Record) :
    Appends size (fun out => records.foldlM step out)
      (records.flatMap content) := by
  induction records with
  | nil => exact appends_some
  | cons record records induction => exact (each record).bind induction

/-- What an empty buffer makes of it. -/
theorem Appends.from_empty
    {step : List UInt8 → Option (List UInt8)} {content : List UInt8}
    (appends : Appends size step content) (positive : 0 < size) :
    step [] = if content.length < size then some content else none := by
  have := appends [] positive
  simpa using this

end

end Checked

end Endap.Library
