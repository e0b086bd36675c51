import Endap.Http.InstallationMapJson
import Endap.Http.LadderDeploy
import Endap.Http.Query
import Endap.Installation.Keys

/-!
# Saving an entry of the installation map

The handler reads each text of an entry into a buffer of the size of its
field and looks only at what is in the buffers, not at the results of the
lookups.  A raw value that fits is decoded there; of a longer one the buffer
holds the beginning, as it was sent.

Two things are as the design has them.  A request may give the global code
under the key `global_id` instead, and a request in which nothing is given but
a local code removes the entry.
-/

namespace Endap.Http

open Endap.Installation
open Endap.Library
open Endap.State

/-! ## The handler -/

/-- `sort_order`, narrowed to the type of the field. -/
def sortOrderOf (text : List UInt8) : Int16 :=
  if text ≠ [] then (atoi text).toInt16 else 0

/-- The buffers and numbers that `installation_map_save_handler` reads out of
a body, if the three fields that it needs are found. -/
def saveRequestOfBody (rawValue : RawValue) (body : List UInt8) :
    Option SaveRequest := do
  let nodeIdText ← (httpBodyGetValue rawValue body "node_id" 24).value?
  let channelIdText ← (httpBodyGetValue rawValue body "channel_id" 16).value?
  let kindText ← (httpBodyGetValue rawValue body "kind" 16).value?
  -- The results of the other lookups are dropped.
  let buffer (key : String) (size : Nat) : List UInt8 :=
    (httpBodyGetValue rawValue body key size).text
  some
    { nodeId := strtoul nodeIdText
      channelId := (strtoul channelIdText).toUInt16
      kindText := kindText
      localCode := buffer "local_code" 12
      globalCode := buffer "global_code" 24
      globalId := buffer "global_id" 24
      aliasText := buffer "alias" 40
      room := buffer "room" 20
      group := buffer "group" 20
      visibility := buffer "visibility" 12
      notes := buffer "notes" 48
      sortOrder := sortOrderOf (buffer "sort_order" 16) }

/-- The answers of `installation_map_save_handler`. -/
inductive InstallationSaveAnswer where
  | map (document : List UInt8)
  | badRequest
  | invalidKind
  | invalidTarget
  | saveFailed
  | buildFailed

def InstallationSaveAnswer.status : InstallationSaveAnswer → HttpStatus
  | .map _ => .ok
  | .badRequest => .badRequest
  | .invalidKind => .badRequest
  | .invalidTarget => .badRequest
  | .saveFailed => .internalServerError
  | .buildFailed => .internalServerError

/-- The error that an answer names. -/
def InstallationSaveAnswer.error? : InstallationSaveAnswer → Option String
  | .map _ => none
  | .badRequest => some "bad_request"
  | .invalidKind => some "invalid_kind"
  | .invalidTarget => some "invalid_target"
  | .saveFailed => some "installation_map_save_failed"
  | .buildFailed => some "installation_map_build_failed"

/-- `send_installation_map_json`, as an answer. -/
def mapAnswer (entries : List InstallationEntry) : InstallationSaveAnswer :=
  match sendInstallationMapJson entries with
  | some document => .map document
  | none => .buildFailed

/-- `installation_map_save_handler`; without a body where none could be
read. -/
def installationMapSaveHandler
    (rawValue : RawValue) (body : Option (List UInt8))
    (outcome : NvsOutcome) (world : InstallationWorld) :
    InstallationWorld × InstallationSaveAnswer :=
  match body.bind (saveRequestOfBody rawValue) with
  | none => (world, .badRequest)
  | some request =>
      match request.arguments? with
      | none =>
          if kindOfText request.kindText = none then (world, .invalidKind)
          else (world, .invalidTarget)
      | some arguments =>
          let updated := installationMapUpsert world arguments outcome
          (updated.1,
            if updated.2 then mapAnswer updated.1.entries else .saveFailed)

/-! ## What was sent -/

/-- The value of a field in a body: empty where it is absent. -/
def sentValue (rawValue : RawValue) (body : List UInt8) (key : String) :
    List UInt8 :=
  ((rawValue body (CText.bytes key)).map Percent.decodeForm).getD []

/-- The field is absent, or its raw value is shorter than the buffer and
stands for no zero byte. -/
def FieldFits
    (rawValue : RawValue) (body : List UInt8) (key : String) (size : Nat) :
    Prop :=
  ∀ raw,
    rawValue body (CText.bytes key) = some raw →
    raw.length < size ∧ 0 ∉ Percent.decodeForm raw

/-- The global code as it was sent, under either key. -/
def sentGlobalCode (rawValue : RawValue) (body : List UInt8) : List UInt8 :=
  if sentValue rawValue body "global_code" = [] then
    sentValue rawValue body "global_id"
  else sentValue rawValue body "global_code"

/-- An entry holds what was sent, of each field that fits. -/
structure StoredAsSent
    (rawValue : RawValue) (body : List UInt8) (entry : InstallationEntry) :
    Prop where
  localCode :
    FieldFits rawValue body "local_code" 12 →
    entry.localCode = sentValue rawValue body "local_code"
  globalCode :
    FieldFits rawValue body "global_code" 24 →
    FieldFits rawValue body "global_id" 24 →
    entry.globalCode = sentGlobalCode rawValue body
  aliasText :
    FieldFits rawValue body "alias" 40 →
    entry.aliasText = sentValue rawValue body "alias"
  room :
    FieldFits rawValue body "room" 20 →
    entry.room = sentValue rawValue body "room"
  group :
    FieldFits rawValue body "group" 20 →
    entry.group = sentValue rawValue body "group"
  visibility :
    FieldFits rawValue body "visibility" 12 →
    entry.visibility = sentValue rawValue body "visibility"
  notes :
    FieldFits rawValue body "notes" 48 →
    entry.notes = sentValue rawValue body "notes"
  sortOrder :
    FieldFits rawValue body "sort_order" 16 →
    -32768 ≤ integerValue (sentValue rawValue body "sort_order") →
    integerValue (sentValue rawValue body "sort_order") ≤ 32767 →
    entry.sortOrder.toInt = integerValue (sentValue rawValue body "sort_order")

/-- The position at which an update leaves its entry. -/
def updatePosition
    (entries : List InstallationEntry) (arguments : UpsertArguments) : Nat :=
  (arguments.target? entries).getD entries.length

/-- The request in a body was carried out.  With nothing but a local code the
entry that it names is removed, otherwise one is stored that holds what was
sent. -/
def CarriedOut
    (rawValue : RawValue) (body : List UInt8)
    (before after : List InstallationEntry) : Prop :=
  ∃ request arguments,
    saveRequestOfBody rawValue body = some request ∧
    request.arguments? = some arguments ∧
    if arguments.removes then
      after = before.eraseIdx (updatePosition before arguments)
    else
      ∃ entry,
        after[updatePosition before arguments]? = some entry ∧
        StoredAsSent rawValue body entry

/-! ## Lookups -/

section

variable {rawValue : RawValue} {body : List UInt8} {key : String}
    {size : Nat}

theorem FieldFits.text (fits : FieldFits rawValue body key size) :
    (httpBodyGetValue rawValue body key size).text =
      sentValue rawValue body key := by
  rw [sentValue]
  cases holds : rawValue body (CText.bytes key) with
  | none =>
      rw [httpBodyGetValue_missing holds]
      rfl
  | some raw =>
      rcases fits raw holds with ⟨short, noZero⟩
      rw [httpBodyGetValue_fits holds short]
      exact CText.upToZero_of_notMem noZero

theorem FieldFits.take (fits : FieldFits rawValue body key size) :
    (httpBodyGetValue rawValue body key size).text.take (size - 1) =
      sentValue rawValue body key := by
  rw [← fits.text]
  exact List.take_of_length_le
    (httpBodyGetValue_length_le rawValue body key size)

end

theorem sortOrderOf_toInt
    {text : List UInt8} (low : -32768 ≤ integerValue text)
    (high : integerValue text ≤ 32767) :
    (sortOrderOf text).toInt = integerValue text := by
  by_cases empty : text = []
  · subst empty
    rfl
  · have clamped :
        max (-2147483648) (min 2147483647 (integerValue text)) =
          integerValue text := by
      omega
    rw [sortOrderOf, if_pos empty, atoi, clamped, Int32.toInt_toInt16,
      Int32.toInt_ofInt_of_le (by omega) (by omega)]
    exact Int.bmod_eq_of_le (by omega) (by omega)

/-! ## The entry -/

theorem arguments_storedAsSent
    {rawValue : RawValue} {body : List UInt8} {request : SaveRequest}
    {arguments : UpsertArguments}
    (isRequest : saveRequestOfBody rawValue body = some request)
    (isArguments : request.arguments? = some arguments) :
    StoredAsSent rawValue body arguments.entry := by
  simp only [saveRequestOfBody, Option.bind_eq_bind,
    Option.bind_eq_some_iff, Option.some.injEq] at isRequest
  rcases isRequest with ⟨_, _, _, _, _, _, rfl⟩
  unfold SaveRequest.arguments? at isArguments
  split at isArguments
  · cases isArguments
  split at isArguments
  · cases isArguments
  cases isArguments
  have whole {key : String} {size : Nat}
      (fits : FieldFits rawValue body key size) :
      ((httpBodyGetValue rawValue body key size).text.take (size - 1)).take
          (size - 1) =
        sentValue rawValue body key := by
    rw [List.take_take, Nat.min_self, fits.take]
  refine
    { localCode := whole, aliasText := whole, room := whole, group := whole
      visibility := whole, notes := whole, globalCode := ?_
      sortOrder := ?_ }
  · intro fits otherFits
    rw [sentGlobalCode, ← fits.text]
    dsimp only [UpsertArguments.entry]
    split
    · exact whole otherFits
    · exact (whole fits).trans fits.text.symm
  · intro fits low high
    rw [← fits.text] at low high ⊢
    exact sortOrderOf_toInt low high

section

variable {world : InstallationWorld} {arguments : UpsertArguments}

theorem installationMapUpsert_removed
    (removes : arguments.removes = true) (outcome : NvsOutcome) :
    (installationMapUpsert world arguments outcome).1.entries =
      world.entries.eraseIdx (updatePosition world.entries arguments) := by
  rw [installationMapUpsert, if_pos removes, updatePosition]
  cases arguments.target? world.entries with
  | none => exact (List.eraseIdx_of_length_le (Nat.le_refl _)).symm
  | some index => rfl

theorem installationMapUpsert_stored
    (keeps : ¬ arguments.removes = true) {outcome : NvsOutcome}
    (stored : (installationMapUpsert world arguments outcome).2 = true) :
    (installationMapUpsert world arguments outcome).1.entries[
        updatePosition world.entries arguments]? =
      some arguments.entry := by
  rw [installationMapUpsert, if_neg keeps] at stored ⊢
  rw [updatePosition]
  cases target : arguments.target? world.entries with
  | none =>
      rw [target] at stored
      by_cases full : world.entries.length ≥ maxEntries
      · simp only [if_pos full] at stored
        cases stored
      · simp only [if_neg full]
        exact List.getElem?_concat_length
  | some index =>
      rcases target?_some target with ⟨old, holds, _⟩
      rcases List.getElem?_eq_some_iff.mp holds with ⟨inside, _⟩
      exact List.getElem?_set_self inside

end

/-- A request that is answered with success has been carried out: what is
stored holds, of each field that fits, what was sent. -/
theorem installationMapSaveHandler_carriesOut
    (rawValue : RawValue) (body : Option (List UInt8))
    (outcome : NvsOutcome) (world : InstallationWorld)
    (success :
      (installationMapSaveHandler rawValue body outcome world).2.status = .ok) :
    ∃ text,
      body = some text ∧
      CarriedOut rawValue text world.entries
        (installationMapSaveHandler rawValue body outcome
          world).1.entries := by
  cases body with
  | none => cases success
  | some text =>
      refine ⟨text, rfl, ?_⟩
      rw [installationMapSaveHandler, Option.bind_some] at success ⊢
      cases isRequest : saveRequestOfBody rawValue text with
      | none =>
          rw [isRequest] at success
          cases success
      | some request =>
          rw [isRequest] at success
          dsimp only at success ⊢
          cases isArguments : request.arguments? with
          | none =>
              rw [isArguments] at success
              dsimp only at success
              split at success <;> cases success
          | some arguments =>
              rw [isArguments] at success
              refine ⟨request, arguments, isRequest, isArguments, ?_⟩
              by_cases removes : arguments.removes = true
              · rw [if_pos removes]
                exact installationMapUpsert_removed removes outcome
              · rw [if_neg removes]
                refine
                  ⟨arguments.entry, installationMapUpsert_stored removes ?_,
                    arguments_storedAsSent isRequest isArguments⟩
                by_contra refused
                dsimp only at success
                rw [if_neg refused] at success
                cases success

def accentedBody : List UInt8 :=
  CText.bytes
    "node_id=7&channel_id=2&kind=output&alias=Sal%C3%A3o&sort_order=-3"

/-- It is answered with success and carried out. -/
theorem accented_entry_stored :
    (installationMapSaveHandler splitRawValue (some accentedBody) .committed
          { entries := [], flash := none }).2.status =
        .ok ∧
      ∃ text,
        some accentedBody = some text ∧
        CarriedOut splitRawValue text []
          (installationMapSaveHandler splitRawValue (some accentedBody)
            .committed { entries := [], flash := none }).1.entries := by
  have success :
      (installationMapSaveHandler splitRawValue (some accentedBody)
          .committed { entries := [], flash := none }).2.status =
        .ok := by
    decide +kernel
  exact
    ⟨success,
      installationMapSaveHandler_carriesOut splitRawValue
        (some accentedBody) .committed { entries := [], flash := none }
        success⟩

/-- A request that gives the global code under its other key, an alias that
would fit its field but does not fit it encoded, a room with a zero byte, and
a position out of range. -/
def otherKeyBody : List UInt8 :=
  CText.bytes "node_id=7&channel_id=2&kind=output&global_id=P1-Q2&alias=" ++
    CText.bytes "Ilumina%C3%A7%C3%A3o%20do%20sal%C3%A3o%20de%20jantar" ++
    CText.bytes "&room=A%00B&sort_order=40000"

def otherKeyEntry : InstallationEntry where
  nodeId := 7
  kind := 1
  channelId := 2
  localCode := []
  globalCode := CText.bytes "P1-Q2"
  aliasText := CText.bytes "Ilumina%C3%A7%C3%A3o%20do%20sal%C3%A3o%"
  room := CText.bytes "A"
  group := []
  visibility := []
  notes := []
  sortOrder := -25536

/-- The request succeeds.  The global code, absent under its own key, is
stored, and the alias, the room and the position are not those sent. -/
theorem saved_entry_differs :
    (installationMapSaveHandler splitRawValue (some otherKeyBody)
          .committed { entries := [], flash := none }).2.status =
        .ok ∧
      (installationMapSaveHandler splitRawValue (some otherKeyBody)
          .committed { entries := [], flash := none }).1.entries =
        [otherKeyEntry] ∧
      otherKeyEntry.globalCode ≠
        sentValue splitRawValue otherKeyBody "global_code" ∧
      otherKeyEntry.aliasText ≠ sentValue splitRawValue otherKeyBody "alias" ∧
      otherKeyEntry.room ≠ sentValue splitRawValue otherKeyBody "room" ∧
      otherKeyEntry.sortOrder.toInt ≠
        integerValue (sentValue splitRawValue otherKeyBody "sort_order") := by
  refine ⟨?_, ?_, ?_, ?_, ?_, ?_⟩ <;> decide +kernel

end Endap.Http
