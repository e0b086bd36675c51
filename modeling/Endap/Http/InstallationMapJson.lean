import Endap.Http.JsonBuilder
import Endap.Installation.Map
import Endap.Library.Run

/-!
# The document of the installation map

The map is sent as a document with all entries, built in a buffer of 20480
bytes.  A character of a text takes up to six bytes of it.  A document that
does not fit is not sent at all.

The texts are written as they were stored, byte by byte; where a stored text
is no valid UTF-8, neither is the document.  The main theorem says for which
maps the document is sent and decoded to the stored entries.
-/

namespace Endap.Http

open Endap.Installation
open Endap.Library
open Endap.Library.Checked

/-! ## The builder -/

def kindText (entry : InstallationEntry) : String :=
  if entry.kind = 1 then "output" else "input"

/-- One entry, as `append_installation_map_entries` appends it. -/
def appendEntry
    (size : Nat) (out : List UInt8) (place : InstallationEntry × Nat) :
    Option (List UInt8) := do
  let entry := place.1
  let out ← appendComma size place.2 out
  let out ←
    appendFormat size
      [CText.bytes "\x7b\"node_id\":", Lines.decimal entry.nodeId.toNat,
        CText.bytes ",\"kind\":", Lines.decimal entry.kind.toNat,
        CText.bytes ",\"channel_id\":", Lines.decimal entry.channelId.toNat,
        CText.bytes ",\"local_code\":"] out
  let out ← appendJsonString size entry.localCode out
  let out ← appendText size ",\"kind_text\":" out
  let out ← appendJsonString size (CText.bytes (kindText entry)) out
  let out ← appendText size ",\"global_id\":" out
  let out ← appendJsonString size entry.globalCode out
  let out ← appendText size ",\"global_code\":" out
  let out ← appendJsonString size entry.globalCode out
  let out ← appendText size ",\"alias\":" out
  let out ← appendJsonString size entry.aliasText out
  let out ← appendText size ",\"room\":" out
  let out ← appendJsonString size entry.room out
  let out ← appendText size ",\"group\":" out
  let out ← appendJsonString size entry.group out
  let out ←
    appendFormat size
      [CText.bytes ",\"sort_order\":", Lines.signed entry.sortOrder.toInt,
        CText.bytes ",\"visibility\":"] out
  let out ← appendJsonString size entry.visibility out
  let out ← appendText size ",\"notes\":" out
  let out ← appendJsonString size entry.notes out
  appendText size "\x7d" out

def appendInstallationMapEntries
    (size : Nat) (entries : List InstallationEntry) (out : List UInt8) :
    Option (List UInt8) := do
  let out ← appendText size "[" out
  let out ← entries.zipIdx.foldlM (appendEntry size) out
  appendText size "]" out

/-- `build_installation_map_json`; nothing where the source returns zero. -/
def buildInstallationMapJson
    (entries : List InstallationEntry) (size : Nat) :
    Option (List UInt8) := do
  let out ←
    appendFormat size
      [CText.bytes "\x7b\"version\":", Lines.decimal 2,
        CText.bytes ",\"input_block\":", Lines.decimal 8,
        CText.bytes ",\"output_block\":", Lines.decimal 4,
        CText.bytes ",\"output_global_base\":", Lines.decimal 101,
        CText.bytes ",\"entries\":"] []
  let out ← appendInstallationMapEntries size entries out
  appendText size "\x7d" out

def installationMapJsonBufferSize : Nat := 20480

/-- The document that `send_installation_map_json` sends, or nothing for the
error `installation_map_build_failed`. -/
def sendInstallationMapJson (entries : List InstallationEntry) :
    Option (List UInt8) :=
  buildInstallationMapJson entries installationMapJsonBufferSize

/-! ## What the document says -/

/-- The members of the object of an entry. -/
def entryMembers (entry : InstallationEntry) : List (String × Json) :=
  [("node_id", jsonInt entry.nodeId.toNat),
    ("kind", jsonInt entry.kind.toNat),
    ("channel_id", jsonInt entry.channelId.toNat),
    ("local_code", .string entry.localCode),
    ("kind_text", jsonText (kindText entry)),
    ("global_id", .string entry.globalCode),
    ("global_code", .string entry.globalCode),
    ("alias", .string entry.aliasText),
    ("room", .string entry.room),
    ("group", .string entry.group),
    ("sort_order", jsonInt entry.sortOrder.toInt),
    ("visibility", .string entry.visibility),
    ("notes", .string entry.notes)]

/-- An entry. -/
def entryJson (entry : InstallationEntry) : Json :=
  jsonObject (entryMembers entry)

/-- The members of the object of the map. -/
def mapMembers (entries : List InstallationEntry) : List (String × Json) :=
  [("version", jsonInt 2),
    ("input_block", jsonInt 8),
    ("output_block", jsonInt 4),
    ("output_global_base", jsonInt 101),
    ("entries", .array (entries.map entryJson))]

/-- The map, with all entries in order. -/
def mapJson (entries : List InstallationEntry) : Json :=
  jsonObject (mapMembers entries)

theorem entryKeys_plain :
    PlainKeys
        ["node_id", "kind", "channel_id", "local_code", "kind_text",
          "global_id", "global_code", "alias", "room", "group", "sort_order",
          "visibility", "notes"] =
      true := by
  decide

theorem mapKeys_plain :
    PlainKeys
        ["version", "input_block", "output_block", "output_global_base",
          "entries"] =
      true := by
  decide

theorem kindText_plain (entry : InstallationEntry) :
    PlainText (kindText entry) = true := by
  rw [kindText]
  split <;> decide

theorem entryJson_text (entry : InstallationEntry) :
    (entryJson entry).text Json.escaped =
      CText.bytes "\x7b" ++
        (fieldsText Json.escaped (entryMembers entry) ++ CText.bytes "\x7d") :=
  text_jsonObject Json.keepsPlain_escaped entryKeys_plain

theorem mapJson_text (entries : List InstallationEntry) :
    (mapJson entries).text Json.escaped =
      CText.bytes "\x7b" ++
        (fieldsText Json.escaped (mapMembers entries) ++ CText.bytes "\x7d") :=
  text_jsonObject Json.keepsPlain_escaped mapKeys_plain

section

variable {size : Nat}

theorem appendEntry_appends (place : InstallationEntry × Nat) :
    Appends size (appendEntry size · place)
      ((if 0 < place.2 then CText.bytes "," else []) ++
        (entryJson place.1).text Json.escaped) := by
  unfold appendEntry
  refine Appends.of_eq
    ((appendComma_appends size place.2).bind
      ((appendFormat_appends _).bind
        ((appendJsonString_appends _).bind
          ((appendText_appends _).bind
            ((appendJsonString_appends _).bind
              ((appendText_appends _).bind
                ((appendJsonString_appends _).bind
                  ((appendText_appends _).bind
                    ((appendJsonString_appends _).bind
                      ((appendText_appends _).bind
                        ((appendJsonString_appends _).bind
                          ((appendText_appends _).bind
                            ((appendJsonString_appends _).bind
                              ((appendText_appends _).bind
                                ((appendJsonString_appends _).bind
                                  ((appendFormat_appends _).bind
                                    ((appendJsonString_appends _).bind
                                      ((appendText_appends _).bind
                                        ((appendJsonString_appends _).bind
                                          (appendText_appends
                                            _)))))))))))))))))))) ?_
  rw [entryJson_text]
  simp only [entryMembers, fieldsText, text_jsonInt, text_jsonText, text_string,
    signed_natCast, bytes_append_append, List.append_assoc,
    String.reduceAppend, List.flatten_cons, List.flatten_nil,
    List.append_nil]

theorem appendInstallationMapEntries_appends
    (entries : List InstallationEntry) :
    Appends size (appendInstallationMapEntries size entries)
      (CText.bytes "[" ++
        (Json.itemsText Json.escaped (entries.map entryJson) ++
          CText.bytes "]")) := by
  have each := Appends.foldlM (@appendEntry_appends size) entries.zipIdx
  rw [flatMap_itemsText fun _ => rfl] at each
  exact (appendText_appends _).bind (each.bind (appendText_appends _))

theorem buildInstallationMapJson_eq
    (entries : List InstallationEntry) (positive : 0 < size) :
    buildInstallationMapJson entries size =
      if ((mapJson entries).text Json.escaped).length < size then
        some ((mapJson entries).text Json.escaped)
      else none := by
  have steps :=
    (appendFormat_appends
        [CText.bytes "\x7b\"version\":", Lines.decimal 2,
          CText.bytes ",\"input_block\":", Lines.decimal 8,
          CText.bytes ",\"output_block\":", Lines.decimal 4,
          CText.bytes ",\"output_global_base\":", Lines.decimal 101,
          CText.bytes ",\"entries\":"]).bind
      ((@appendInstallationMapEntries_appends size entries).bind
        (appendText_appends "\x7d"))
  refine (steps.of_eq ?_).from_empty positive
  have number (value : Nat) :
      (jsonInt (OfNat.ofNat value)).text Json.escaped = Lines.decimal value :=
    (text_jsonInt _).trans (signed_natCast value)
  rw [mapJson_text]
  simp only [mapMembers, fieldsText, number, text_array,
    bytes_append_append, bytes_append, List.append_assoc,
    String.reduceAppend, List.flatten_cons, List.flatten_nil,
    List.append_nil]

end

/-! ## Lengths -/

theorem quoted_escaped_length (bytes : List UInt8) :
    (Json.quoted Json.escaped bytes).length =
      Json.escapedLength bytes + 2 := by
  rw [Json.quoted, List.length_cons, List.length_append, Json.escaped_length]
  rfl

/-- The length of an entry: the literals, the digits, and the texts with
their escapes. -/
def entryLength (entry : InstallationEntry) : Nat :=
  170 + Lines.digitCount entry.nodeId.toNat +
    Lines.digitCount entry.kind.toNat +
    Lines.digitCount entry.channelId.toNat +
    Json.escapedLength entry.localCode + (kindText entry).length +
    2 * Json.escapedLength entry.globalCode +
    Json.escapedLength entry.aliasText + Json.escapedLength entry.room +
    Json.escapedLength entry.group +
    Lines.signedLength entry.sortOrder.toInt +
    Json.escapedLength entry.visibility + Json.escapedLength entry.notes

theorem entryJson_length (entry : InstallationEntry) :
    ((entryJson entry).text Json.escaped).length = entryLength entry := by
  rw [entryJson_text]
  simp only [entryMembers, fieldsText, text_jsonInt, text_jsonText,
    text_string, signed_natCast, quoted_escaped_length,
    quoted_length Json.keepsPlain_escaped (kindText_plain _),
    List.length_append, Lines.decimal_length, Lines.signed_length,
    CText.bytes_length, String.reduceAppend, String.reduceToList,
    List.length_cons, List.length_nil, Nat.zero_add, Nat.reduceAdd,
    entryLength]
  omega

/-- The length of the map. -/
def installationMapLength (entries : List InstallationEntry) : Nat :=
  84 + (entries.map entryLength).sum + (entries.length - 1)

theorem mapJson_length (entries : List InstallationEntry) :
    ((mapJson entries).text Json.escaped).length =
      installationMapLength entries := by
  have each := itemsText_length entryJson_length entries
  have numbers :
      Lines.signedLength 2 = 1 ∧ Lines.signedLength 8 = 1 ∧
      Lines.signedLength 4 = 1 ∧ Lines.signedLength 101 = 3 := by
    decide
  rcases numbers with ⟨version, inputs, outputs, base⟩
  rw [mapJson_text]
  simp only [mapMembers, fieldsText, text_jsonInt, text_array, each,
    List.length_append, Lines.signed_length, version, inputs, outputs, base,
    CText.bytes_length, String.reduceAppend, String.reduceToList,
    List.length_cons, List.length_nil, Nat.zero_add, Nat.reduceAdd,
    installationMapLength]
  omega

/-! ## When the map can be read back -/

/-- The texts of an entry are valid. -/
structure EntryValid (entry : InstallationEntry) : Prop where
  localCode : Utf8.IsText entry.localCode
  globalCode : Utf8.IsText entry.globalCode
  aliasText : Utf8.IsText entry.aliasText
  room : Utf8.IsText entry.room
  group : Utf8.IsText entry.group
  visibility : Utf8.IsText entry.visibility
  notes : Utf8.IsText entry.notes

theorem entryJson_isText_iff (entry : InstallationEntry) :
    (∀ bytes ∈ (entryJson entry).strings, Utf8.IsText bytes) ↔
    EntryValid entry := by
  rw [entryJson, isText_jsonObject_iff (entryMembers entry) entryKeys_plain]
  constructor
  · intro valid
    simp only [entryMembers, List.forall_mem_cons, strings_string,
      List.mem_singleton, forall_eq] at valid
    rcases valid with
      ⟨_, _, _, localCode, _, globalCode, _, aliasText, room, group, _,
        visibility, notes⟩
    exact ⟨localCode, globalCode, aliasText, room, group, visibility, notes⟩
  · intro valid
    simp [entryMembers, valid.localCode, valid.globalCode, valid.aliasText,
      valid.room, valid.group, valid.visibility, valid.notes,
      PlainText.isText (kindText_plain _)]

theorem mapJson_isText_iff (entries : List InstallationEntry) :
    (∀ bytes ∈ (mapJson entries).strings, Utf8.IsText bytes) ↔
    ∀ entry ∈ entries, EntryValid entry := by
  have each := @forall_strings_array Utf8.IsText _ entryJson entries
  rw [mapJson, isText_jsonObject_iff (mapMembers entries) mapKeys_plain]
  simp [mapMembers, each, entryJson_isText_iff]

/-- The document is built, and it is decoded to the stored entries. -/
def MapReadable (entries : List InstallationEntry) : Prop :=
  ∃ document,
    sendInstallationMapJson entries = some document ∧
    Json.decode document = some (mapJson entries)

theorem mapReadable_iff (entries : List InstallationEntry) :
    MapReadable entries ↔
    installationMapLength entries < installationMapJsonBufferSize ∧
    ∀ entry ∈ entries, EntryValid entry := by
  have built :=
    @buildInstallationMapJson_eq installationMapJsonBufferSize entries
      (by decide)
  rw [mapJson_length] at built
  rw [MapReadable, sendInstallationMapJson, built]
  by_cases fits : installationMapLength entries < installationMapJsonBufferSize
  · rw [if_pos fits, and_iff_right fits, ← mapJson_isText_iff,
      ← Json.decode_escaped_iff]
    simp
  · rw [if_neg fits]
    exact iff_of_false (by simp) fun readable => fits readable.1

/-- In every state that the map reaches it can be read back exactly if its
length is below that of the buffer and its texts are valid. -/
theorem installation_map_readable_iff
    (world : InstallationWorld) (actions : List InstallationAction) :
    MapReadable (Run.final installationStep world actions).entries ↔
    installationMapLength
          (Run.final installationStep world actions).entries <
        20480 ∧
    ∀ entry ∈ (Run.final installationStep world actions).entries,
      EntryValid entry :=
  mapReadable_iff _

def fullRequest (channel : Nat) : SaveRequest where
  nodeId := 1
  channelId := UInt16.ofNat channel
  kindText := CText.bytes "output"
  localCode := CText.bytes "RELAY-BANK1"
  globalCode := CText.bytes "HOUSE-1.FLOOR-2.PANEL-3"
  globalId := []
  aliasText := CText.bytes "Ceiling lights above the long oak table"
  room := CText.bytes "Dining room upstair"
  group := CText.bytes "Lights and shutters"
  visibility := CText.bytes "maintenance"
  notes := CText.bytes "Dimmable, replaced in spring, see the file book"
  sortOrder := 0

def fullRequests : List InstallationAction :=
  (List.range 64).map fun channel =>
    .saveHandler (fullRequest (channel + 1)) .committed

/-- All 64 entries are stored, and the map is not sent any more. -/
theorem full_map_not_sent :
    (Run.final installationStep { entries := [], flash := none }
          fullRequests).entries.length =
        64 ∧
      sendInstallationMapJson
          (Run.final installationStep { entries := [], flash := none }
            fullRequests).entries =
        none ∧
      ¬ MapReadable
        (Run.final installationStep { entries := [], flash := none }
          fullRequests).entries := by
  have long :
      installationMapJsonBufferSize ≤
        installationMapLength
          (Run.final installationStep { entries := [], flash := none }
            fullRequests).entries := by
    decide +kernel
  have built :=
    @buildInstallationMapJson_eq installationMapJsonBufferSize
      (Run.final installationStep { entries := [], flash := none }
        fullRequests).entries
      (by decide)
  rw [mapJson_length, if_neg (Nat.not_lt.mpr long)] at built
  refine ⟨by decide +kernel, built, fun readable => ?_⟩
  rcases readable with ⟨document, sent, _⟩
  rw [sendInstallationMapJson, built] at sent
  cases sent

end Endap.Http
