import Endap.Library.CText
import Endap.Library.Slots
import Endap.State.Nvs

/-!
# The installation map

The map gives names to the channels of the nodes of an installation.  An
entry has a local code, printed on the node, and a global code, given by the
installer; the global code, or the local one where that is empty, is the
identifier under which the channel is commanded.

The functions below are those that change the map: the update of one entry,
with the arguments of its two callers, the replacement of a node, the copy of
a node's entries to another node, and the load at the start.  The table in
memory is the list of the entries in use; each change is written to the flash
at once, and a write that fails does not undo the change.
-/

namespace Endap.Installation

open Endap.Library
open Endap.State

/-- `installation_map_entry_t`. -/
structure InstallationEntry where
  nodeId : UInt32
  kind : UInt8
  channelId : UInt16
  localCode : List UInt8
  globalCode : List UInt8
  aliasText : List UInt8
  room : List UInt8
  group : List UInt8
  visibility : List UInt8
  notes : List UInt8
  sortOrder : Int16
deriving DecidableEq

/-- `installation_map_entry_v1_t`. -/
structure InstallationEntryV1 where
  nodeId : UInt32
  kind : UInt8
  channelId : UInt16
  localCode : List UInt8
  globalCode : List UInt8
  aliasText : List UInt8

/-- The blob in the flash, told apart by its version and size. -/
inductive InstallationBlob where
  | current (entries : List InstallationEntry)
  | legacy (entries : List InstallationEntryV1)
  | other

/-- The entries in use and the blob in the flash. -/
structure InstallationWorld where
  entries : List InstallationEntry
  flash : Option InstallationBlob

/-- `INSTALLATION_MAP_MAX_ENTRIES`. -/
def maxEntries : Nat := 64

/-! ## Searches -/

/-- The identifier of an entry. -/
def resourceId (entry : InstallationEntry) : List UInt8 :=
  if entry.globalCode ≠ [] then entry.globalCode else entry.localCode

/-- `installation_map_find_by_resource_id`: the position and the entry. -/
def installationMapFindByResourceId
    (entries : List InstallationEntry) (id : List UInt8) :
    Option (Nat × InstallationEntry) :=
  if id = [] then none else Slots.find? resourceId id entries

/-- `installation_map_find`: the position of the entry. -/
def installationMapFind
    (entries : List InstallationEntry) (nodeId : UInt32) (kind : UInt8)
    (channelId : UInt16) (localCode : List UInt8) : Option Nat :=
  entries.findIdx? fun entry =>
    entry.nodeId = nodeId ∧ entry.kind = kind ∧
    entry.channelId = channelId ∧
    (localCode = [] ∨ entry.localCode = localCode)

/-- What `set_handler` and `resource_actuate_handler` make of an identifier:
the node and the channel they command, or nothing for `RESOURCE_NOT_FOUND`. -/
def commandTarget (entries : List InstallationEntry) (id : List UInt8) :
    Option (UInt32 × UInt16) :=
  match installationMapFindByResourceId entries id with
  | none => none
  | some (_, entry) =>
      if entry.kind ≠ 1 then none else some (entry.nodeId, entry.channelId)

/-! ## Changes -/

def installationMapSave
    (world : InstallationWorld) (outcome : NvsOutcome) :
    InstallationWorld :=
  { world with
    flash := nvsWrite outcome world.flash (some (.current world.entries)) }

/-- The arguments of `installation_map_upsert`. -/
structure UpsertArguments where
  nodeId : UInt32
  kind : UInt8
  channelId : UInt16
  localCode : List UInt8
  globalCode : List UInt8
  aliasText : List UInt8
  room : List UInt8
  group : List UInt8
  sortOrder : Int16
  visibility : List UInt8
  notes : List UInt8

/-- Without any text but the local code the entry is removed. -/
def UpsertArguments.removes (arguments : UpsertArguments) : Bool :=
  arguments.globalCode = [] ∧ arguments.aliasText = [] ∧ arguments.room = [] ∧
  arguments.group = [] ∧ arguments.visibility = [] ∧
  arguments.notes = [] ∧ arguments.sortOrder = 0

/-- The entry that an update leaves; each text is cut to its field. -/
def UpsertArguments.entry (arguments : UpsertArguments) :
    InstallationEntry where
  nodeId := arguments.nodeId
  kind := arguments.kind
  channelId := arguments.channelId
  localCode := arguments.localCode.take 11
  globalCode := arguments.globalCode.take 23
  aliasText := arguments.aliasText.take 39
  room := arguments.room.take 19
  group := arguments.group.take 19
  visibility := arguments.visibility.take 11
  notes := arguments.notes.take 47
  sortOrder := arguments.sortOrder

/-- The entry that an update works on. -/
def UpsertArguments.target?
    (entries : List InstallationEntry) (arguments : UpsertArguments) :
    Option Nat :=
  installationMapFind entries arguments.nodeId arguments.kind
    arguments.channelId arguments.localCode

def installationMapUpsert
    (world : InstallationWorld) (arguments : UpsertArguments)
    (outcome : NvsOutcome) : InstallationWorld × Bool :=
  if arguments.removes then
    match arguments.target? world.entries with
    | none => (world, true)
    | some index =>
        (installationMapSave
          { world with entries := world.entries.eraseIdx index } outcome,
          outcome.succeeds)
  else
    match arguments.target? world.entries with
    | none =>
        if world.entries.length ≥ maxEntries then (world, false)
        else
          (installationMapSave
            { world with entries := world.entries ++ [arguments.entry] }
            outcome,
            outcome.succeeds)
    | some index =>
        -- The fields that were searched for are those of the arguments.
        (installationMapSave
          { world with entries := world.entries.set index arguments.entry }
          outcome,
          outcome.succeeds)

/-- An entry moved to another node. -/
def moveEntry (oldId newId : UInt32) (entry : InstallationEntry) :
    InstallationEntry :=
  if entry.nodeId = oldId then { entry with nodeId := newId } else entry

def installationMapReplaceNode
    (world : InstallationWorld) (oldId newId : UInt32)
    (outcome : NvsOutcome) : InstallationWorld × Bool :=
  if world.entries.any fun entry => entry.nodeId = oldId then
    (installationMapSave
      { world with entries := world.entries.map (moveEntry oldId newId) }
      outcome,
      outcome.succeeds)
  else (world, true)

/-- The text `" (Cópia)"`. -/
def copySuffix : List UInt8 :=
  [0x20, 0x28, 0x43, 0xC3, 0xB3, 0x70, 0x69, 0x61, 0x29]

/-- An entry copied to another node: without its global code, and with an
alias that says so. -/
def copyEntry (newId : UInt32) (entry : InstallationEntry) :
    InstallationEntry :=
  { entry with
    nodeId := newId
    globalCode := []
    aliasText :=
      if entry.aliasText ≠ [] then entry.aliasText.take 28 ++ copySuffix
      else entry.aliasText }

/-- The entries of a node for which there is room behind the map. -/
def copiedEntries (entries : List InstallationEntry) (oldId : UInt32) :
    List InstallationEntry :=
  (entries.filter fun entry => entry.nodeId = oldId).take
    (maxEntries - entries.length)

def installationMapCloneNode
    (world : InstallationWorld) (oldId newId : UInt32)
    (outcome : NvsOutcome) : InstallationWorld × Bool :=
  if copiedEntries world.entries oldId ≠ [] then
    (installationMapSave
      { world with
        entries :=
          world.entries ++
            (copiedEntries world.entries oldId).map (copyEntry newId) }
      outcome,
      outcome.succeeds)
  else (world, true)

/-- An entry of the first version, taken over. -/
def migrateEntry (entry : InstallationEntryV1) : InstallationEntry where
  nodeId := entry.nodeId
  kind := entry.kind
  channelId := entry.channelId
  localCode := entry.localCode.take 11
  globalCode := entry.globalCode.take 23
  aliasText := entry.aliasText.take 39
  room := []
  group := []
  visibility := []
  notes := []
  sortOrder := 0

/-- `installation_map_load`; `readable` says whether the blob could be
read. -/
def installationMapLoad
    (world : InstallationWorld) (readable : Bool) (outcome : NvsOutcome) :
    InstallationWorld × Bool :=
  if readable then
    match world.flash with
    | none => ({ world with entries := [] }, false)
    | some (.current entries) =>
        if entries.length ≤ maxEntries then
          ({ world with entries := entries }, true)
        else ({ world with entries := [] }, false)
    | some (.legacy entries) =>
        (installationMapSave
          { world with
            entries := (entries.take maxEntries).map migrateEntry }
          outcome,
          true)
    | some .other => ({ world with entries := [] }, false)
  else ({ world with entries := [] }, false)

/-! ## Requests -/

/-- The fields of a request to `installation_map_save_handler`, with its
numbers read. -/
structure SaveRequest where
  nodeId : UInt32
  channelId : UInt16
  kindText : List UInt8
  localCode : List UInt8
  globalCode : List UInt8
  globalId : List UInt8
  aliasText : List UInt8
  room : List UInt8
  group : List UInt8
  visibility : List UInt8
  notes : List UInt8
  sortOrder : Int16

/-- The kind that a request names. -/
def kindOfText (text : List UInt8) : Option UInt8 :=
  if text = CText.bytes "output" ∨ text = CText.bytes "1" then some 1
  else if text = CText.bytes "input" ∨ text = CText.bytes "0" then some 0
  else none

/-- What `installation_map_save_handler` passes on, if it does.  Each text
lies in a buffer of the size of its field. -/
def SaveRequest.arguments? (request : SaveRequest) : Option UpsertArguments :=
  match kindOfText request.kindText with
  | none => none
  | some kind =>
      if request.nodeId = 0 ∨ request.channelId = 0 then none
      else
        some
          { nodeId := request.nodeId
            kind := kind
            channelId := request.channelId
            localCode := request.localCode.take 11
            globalCode :=
              if request.globalCode = [] then request.globalId.take 23
              else request.globalCode.take 23
            aliasText := request.aliasText.take 39
            room := request.room.take 19
            group := request.group.take 19
            sortOrder := request.sortOrder
            visibility := request.visibility.take 11
            notes := request.notes.take 47 }

/-- The entries of the templates. -/
inductive TemplateChannel where
  | relay1
  | relay2
  | sensor

/-- What `nodes_template_apply_handler` passes on for one entry of a
template. -/
def TemplateChannel.arguments (nodeId : UInt32) :
    TemplateChannel → UpsertArguments
  | .relay1 =>
      { nodeId := nodeId, kind := 1, channelId := 0
        localCode := CText.bytes "Q0", globalCode := []
        -- `"Relé 1"`
        aliasText := [0x52, 0x65, 0x6C, 0xC3, 0xA9, 0x20, 0x31]
        room := [], group := [], sortOrder := 0, visibility := []
        notes := [] }
  | .relay2 =>
      { nodeId := nodeId, kind := 1, channelId := 1
        localCode := CText.bytes "Q1", globalCode := []
        -- `"Relé 2"`
        aliasText := [0x52, 0x65, 0x6C, 0xC3, 0xA9, 0x20, 0x32]
        room := [], group := [], sortOrder := 0, visibility := []
        notes := [] }
  | .sensor =>
      { nodeId := nodeId, kind := 0, channelId := 0
        localCode := CText.bytes "I0", globalCode := []
        aliasText := CText.bytes "Sensor Principal"
        room := [], group := [], sortOrder := 0, visibility := []
        notes := [] }

/-- One function that changes the map.  The handler of the templates makes
an update for each entry of the template and saves the map once more. -/
inductive InstallationAction where
  | load (readable : Bool) (outcome : NvsOutcome)
  | saveHandler (request : SaveRequest) (outcome : NvsOutcome)
  | template
      (nodeId : UInt32) (channel : TemplateChannel) (outcome : NvsOutcome)
  | save (outcome : NvsOutcome)
  | replaceNode (oldId newId : UInt32) (outcome : NvsOutcome)
  | cloneNode (oldId newId : UInt32) (outcome : NvsOutcome)

/-- One step of the map, with the result of the function. -/
def installationStep (world : InstallationWorld) :
    InstallationAction → InstallationWorld × Bool
  | .load readable outcome => installationMapLoad world readable outcome
  | .saveHandler request outcome =>
      match request.arguments? with
      | none => (world, false)
      | some arguments => installationMapUpsert world arguments outcome
  | .template nodeId channel outcome =>
      if nodeId = 0 then (world, false)
      else installationMapUpsert world (channel.arguments nodeId) outcome
  | .save outcome => (installationMapSave world outcome, outcome.succeeds)
  | .replaceNode oldId newId outcome =>
      installationMapReplaceNode world oldId newId outcome
  | .cloneNode oldId newId outcome =>
      installationMapCloneNode world oldId newId outcome

/-- The calls of `nodes_template_apply_handler` for a template, or nothing
when it knows no such template. -/
def nodesTemplateApplyHandler
    (nodeId : UInt32) (template : List UInt8) (outcome : NvsOutcome) :
    List InstallationAction :=
  if template = CText.bytes "relay-node" then
    [.template nodeId .relay1 outcome, .template nodeId .relay2 outcome,
      .save outcome]
  else if template = CText.bytes "sensor-node" then
    [.template nodeId .sensor outcome, .save outcome]
  else []

end Endap.Installation
