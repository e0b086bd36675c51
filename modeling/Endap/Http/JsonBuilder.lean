import Endap.Library.Appending
import Endap.Library.CText
import Endap.Library.JsonRoundTrip

/-!
# The builder of documents

The larger documents are put together with functions that check the room: each
appends a text behind the running offset or reports that it does not fit, and
then the whole document is given up.  The buffer is represented by the text in
it; its length is the running offset.

Strings are written with escapes, one character at a time.
-/

namespace Endap.Http

open Endap.Library
open Endap.Library.Checked

def appendText (size : Nat) (text : String) (out : List UInt8) :
    Option (List UInt8) :=
  Checked.append size (CText.bytes text) out

/-- `append_format`, with the text that is printed. -/
def appendFormat (size : Nat) (printed : List (List UInt8))
    (out : List UInt8) : Option (List UInt8) :=
  Checked.append size printed.flatten out

/-- The cases of `append_json_string`. -/
def appendJsonChar (size : Nat) (out : List UInt8) (character : UInt8) :
    Option (List UInt8) :=
  if character = 34 then appendText size "\\\"" out
  else if character = 92 then appendText size "\\\\" out
  else if character = 8 then appendText size "\\b" out
  else if character = 12 then appendText size "\\f" out
  else if character = 10 then appendText size "\\n" out
  else if character = 13 then appendText size "\\r" out
  else if character = 9 then appendText size "\\t" out
  else if character < 0x20 then
    appendFormat size
      [CText.bytes "\\u00",
        [Json.hexDigit (character / 16), Json.hexDigit (character % 16)]] out
  else appendFormat size [[character]] out

/-- `append_json_string`, with the characters before the terminator. -/
def appendJsonString (size : Nat) (text out : List UInt8) :
    Option (List UInt8) := do
  let out ← appendText size "\"" out
  let out ← text.foldlM (appendJsonChar size) out
  appendText size "\"" out

section

variable {size : Nat}

theorem appendText_appends (text : String) :
    Appends size (appendText size text) (CText.bytes text) :=
  appends_append _

theorem appendFormat_appends (printed : List (List UInt8)) :
    Appends size (appendFormat size printed) printed.flatten :=
  appends_append _

theorem appendJsonChar_appends (character : UInt8) :
    Appends size (appendJsonChar size · character)
      (Json.escapeChar character) := by
  rw [Json.escapeChar]
  unfold appendJsonChar
  repeat' split
  all_goals exact appends_append _

theorem appendJsonString_appends (text : List UInt8) :
    Appends size (appendJsonString size text) (Json.quoted Json.escaped text) :=
  (appendText_appends _).bind
    ((Appends.foldlM appendJsonChar_appends text).bind (appendText_appends _))

end

/-! ## Documents with literals -/

/-- The comma before all but the first of a list. -/
def appendComma (size index : Nat) (out : List UInt8) : Option (List UInt8) :=
  if 0 < index then appendText size "," out else some out

/-- An integer. -/
def jsonInt (number : Int) : Json := .number number 0

/-- A string. -/
def jsonText (value : String) : Json := .string (CText.bytes value)

/-- An object with keys that are literals. -/
def jsonObject (members : List (String × Json)) : Json :=
  .object (members.map fun member => (CText.bytes member.1, member.2))

section

variable {writer : Json.Writer}

/-- The members of an object with keys that are literals. -/
def fieldsText (writer : Json.Writer) : List (String × Json) → List UInt8
  | [] => []
  | [(key, value)] =>
      CText.bytes ("\"" ++ key ++ "\":") ++ value.text writer
  | (key, value) :: next :: rest =>
      CText.bytes ("\"" ++ key ++ "\":") ++
        (value.text writer ++
          (CText.bytes "," ++ fieldsText writer (next :: rest)))

theorem bytes_append (first second : String) :
    CText.bytes first ++ CText.bytes second = CText.bytes (first ++ second) := by
  simp [CText.bytes]

theorem bytes_append_append (first second : String) (rest : List UInt8) :
    CText.bytes first ++ (CText.bytes second ++ rest) =
      CText.bytes (first ++ second) ++ rest := by
  rw [← List.append_assoc, bytes_append]

theorem bytes_key (key : String) :
    CText.bytes ("\"" ++ key ++ "\":") =
      34 :: (CText.bytes key ++ [34, 58]) := by
  rw [← bytes_append, ← bytes_append]
  rfl

/-- A literal is plain text. -/
def PlainText (value : String) : Bool :=
  (CText.bytes value).all fun character =>
    32 ≤ character ∧ character < 128 ∧ character ≠ 34 ∧ character ≠ 92

variable {value : String}

theorem PlainText.plain (isPlain : PlainText value = true) :
    Json.Plain (CText.bytes value) := by
  intro character member
  have passes := of_decide_eq_true (List.all_eq_true.mp isPlain _ member)
  exact ⟨passes.2.2.1, passes.2.2.2, passes.1⟩

theorem PlainText.isText (isPlain : PlainText value = true) :
    Utf8.IsText (CText.bytes value) := by
  refine Utf8.isText_of_ascii fun character member => ?_
  have passes := of_decide_eq_true (List.all_eq_true.mp isPlain _ member)
  exact passes.2.1

/-- The keys of an object are plain text. -/
def PlainKeys (keys : List String) : Bool := keys.all PlainText

theorem membersText_eq
    (keeps : Json.KeepsPlain writer) {members : List (String × Json)}
    (plain : PlainKeys (members.map Prod.fst) = true) :
    Json.membersText writer
        (members.map fun member => (CText.bytes member.1, member.2)) =
      fieldsText writer members := by
  induction members with
  | nil => rfl
  | cons member members induction =>
      rcases member with ⟨key, value⟩
      rw [List.map_cons, PlainKeys, List.all_cons, Bool.and_eq_true] at plain
      have others := induction plain.2
      have isKept := keeps (PlainText.plain plain.1)
      cases members with
      | nil =>
          simp [Json.membersText, fieldsText, Json.quoted, isKept, bytes_key]
      | cons next members =>
          rw [List.map_cons] at others
          rw [List.map_cons, List.map_cons, Json.membersText, others,
            Json.quoted, isKept, fieldsText, bytes_key]
          simp [CText.bytes]

theorem text_jsonObject
    (keeps : Json.KeepsPlain writer) {members : List (String × Json)}
    (plain : PlainKeys (members.map Prod.fst) = true) :
    (jsonObject members).text writer =
      CText.bytes "\x7b" ++
        (fieldsText writer members ++ CText.bytes "\x7d") := by
  rw [jsonObject, Json.text, membersText_eq keeps plain]
  rfl

theorem text_jsonInt (number : Int) :
    (jsonInt number).text writer = Lines.signed number := by
  rw [jsonInt, Json.text, Json.numberText, if_pos rfl, List.append_nil]

theorem text_jsonText (value : String) :
    (jsonText value).text writer = Json.quoted writer (CText.bytes value) := by
  rw [jsonText, Json.text]

theorem text_string (bytes : List UInt8) :
    (Json.string bytes).text writer = Json.quoted writer bytes := by
  rw [Json.text]

theorem quoted_length
    (keeps : Json.KeepsPlain writer)
    (isPlain : PlainText value = true) :
    (Json.quoted writer (CText.bytes value)).length = value.length + 2 := by
  rw [Json.quoted, keeps (PlainText.plain isPlain), List.length_cons,
    List.length_append, CText.bytes_length, String.length_toList]
  rfl

theorem text_array (items : List Json) :
    (Json.array items).text writer =
      CText.bytes "[" ++
        (Json.itemsText writer items ++ CText.bytes "]") := by
  rw [Json.text]
  rfl

variable {P : List UInt8 → Prop}

theorem forall_strings_jsonObject
    (members : List (String × Json)) :
    (∀ bytes ∈ (jsonObject members).strings, P bytes) ↔
    ∀ member ∈ members,
      P (CText.bytes member.1) ∧ ∀ bytes ∈ member.2.strings, P bytes := by
  rw [jsonObject, Json.strings]
  induction members with
  | nil => simp [Json.memberStrings]
  | cons member members induction =>
      rw [List.map_cons, Json.memberStrings, List.forall_mem_cons,
        List.forall_mem_append, induction, List.forall_mem_cons, and_assoc]

/-- What holds of all plain texts holds of the strings of an object with plain
keys if it holds of those of its values. -/
theorem forall_strings_plainKeys
    (plainHolds : ∀ value, PlainText value = true → P (CText.bytes value))
    (members : List (String × Json))
    (plain : PlainKeys (members.map Prod.fst) = true) :
    (∀ bytes ∈ (jsonObject members).strings, P bytes) ↔
    ∀ member ∈ members, ∀ bytes ∈ member.2.strings, P bytes := by
  rw [forall_strings_jsonObject]
  refine forall₂_congr fun member inside => ?_
  have key := List.all_eq_true.mp plain member.1 (List.mem_map_of_mem inside)
  exact and_iff_right (plainHolds member.1 key)

theorem isText_jsonObject_iff
    (members : List (String × Json))
    (plain : PlainKeys (members.map Prod.fst) = true) :
    (∀ bytes ∈ (jsonObject members).strings, Utf8.IsText bytes) ↔
    ∀ member ∈ members, ∀ bytes ∈ member.2.strings, Utf8.IsText bytes :=
  forall_strings_plainKeys (fun _ => PlainText.isText) members plain

@[simp]
theorem strings_jsonInt (number : Int) : (jsonInt number).strings = [] := by
  rw [jsonInt, Json.strings]

@[simp]
theorem strings_jsonText (value : String) :
    (jsonText value).strings = [CText.bytes value] := by
  rw [jsonText, Json.strings]

@[simp]
theorem strings_string (bytes : List UInt8) :
    (Json.string bytes).strings = [bytes] := by
  rw [Json.strings]

theorem forall_strings_array
    {Record : Type*} (json : Record → Json)
    (records : List Record) :
    (∀ bytes ∈ (Json.array (records.map json)).strings, P bytes) ↔
    ∀ record ∈ records, ∀ bytes ∈ (json record).strings, P bytes := by
  rw [Json.strings]
  induction records with
  | nil => simp [Json.itemStrings]
  | cons record records induction =>
      rw [List.map_cons, Json.itemStrings, List.forall_mem_append, induction,
        List.forall_mem_cons]

theorem signed_natCast (number : Nat) :
    Lines.signed (number : Int) = Lines.decimal number := by
  rw [Lines.signed, if_neg (by omega), Int.natAbs_natCast]

section

variable {Record : Type*} {content : Record × Nat → List UInt8}
    {json : Record × Nat → Json}

theorem flatMap_comma
    (same : ∀ place, content place = (json place).text writer)
    (record : Record) (records : List Record) {start : Nat}
    (later : 0 < start) :
    (((record :: records).zipIdx start).flatMap fun place =>
        (if 0 < place.2 then CText.bytes "," else []) ++ content place) =
      44 ::
        Json.itemsText writer (((record :: records).zipIdx start).map json) := by
  induction records generalizing record start with
  | nil => simp [later, same, Json.itemsText, CText.bytes]
  | cons next records induction =>
      rw [List.zipIdx_cons, List.flatMap_cons,
        induction next (Nat.succ_pos start), if_pos later, same,
        List.map_cons, List.zipIdx_cons, List.map_cons, Json.itemsText]
      rfl

/-- Records with commas between them, each with its place, are the items of an
array. -/
theorem flatMap_placedItems
    (same : ∀ place, content place = (json place).text writer)
    (records : List Record) :
    (records.zipIdx.flatMap fun place =>
        (if 0 < place.2 then CText.bytes "," else []) ++ content place) =
      Json.itemsText writer (records.zipIdx.map json) := by
  cases records with
  | nil => rfl
  | cons record records =>
      rw [List.zipIdx_cons, List.flatMap_cons, if_neg (Nat.lt_irrefl 0),
        List.nil_append, same]
      cases records with
      | nil => simp [Json.itemsText]
      | cons next records =>
          rw [flatMap_comma same next records Nat.one_pos, List.map_cons,
            List.zipIdx_cons, List.map_cons, Json.itemsText]

end

theorem flatMap_itemsText
    {Record : Type*} {content : Record → List UInt8} {json : Record → Json}
    (same : ∀ record, content record = (json record).text writer)
    (records : List Record) :
    (records.zipIdx.flatMap fun place =>
        (if 0 < place.2 then CText.bytes "," else []) ++ content place.1) =
      Json.itemsText writer (records.map json) := by
  have placed :=
    @flatMap_placedItems writer Record (fun place => content place.1)
      (fun place => json place.1) (fun place => same place.1) records
  have each :
      records.zipIdx.map (fun place => json place.1) = records.map json :=
    List.map_map.symm.trans
      (congrArg (List.map json) (List.zipIdx_map_fst 0 records))
  rw [placed, each]

theorem itemsText_length
    {Record : Type*} {json : Record → Json} {length : Record → Nat}
    (same : ∀ record, ((json record).text writer).length = length record)
    (records : List Record) :
    (Json.itemsText writer (records.map json)).length =
      (records.map length).sum + (records.length - 1) := by
  induction records with
  | nil => rfl
  | cons record records induction =>
      cases records with
      | nil => simp [Json.itemsText, same]
      | cons next records =>
          have split :
              Json.itemsText writer ((record :: next :: records).map json) =
                (json record).text writer ++
                  44 :: Json.itemsText writer ((next :: records).map json) := by
            rw [List.map_cons, List.map_cons, Json.itemsText]
          rw [split, List.length_append, List.length_cons, induction,
            same record]
          simp only [List.map_cons, List.sum_cons, List.length_cons]
          omega

theorem appendComma_appends (size index : Nat) :
    Appends size (appendComma size index)
      (if 0 < index then CText.bytes "," else []) := by
  unfold appendComma
  split
  · exact appendText_appends _
  · exact appends_some

end

end Endap.Http
