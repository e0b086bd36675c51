import Endap.Cluster.Manager
import Endap.Library.Layout
import Endap.State.Nvs
import Mathlib.Algebra.GroupWithZero.Nat

/-!
# Records of the node registry

The registry keeps an entry for every node that the gateway has heard of.  The
entries of nodes that were admitted, or that carry a profile or a template,
are kept in non-volatile storage.  The record is the array of these entries,
moved together, with the fields that describe the present reset and with a
checksum over the entries in use.

A record of the first version is told from the present one by its size and is
translated entry by entry.
-/

namespace Endap.Registry

open Endap.Cluster
open Endap.Library
open Endap.State

/-! ## Entries -/

/-- `NODE_REGISTRY_MAX_NODES`. -/
def registryMaxNodes : Nat := 10

/-- `NODE_REGISTRY_PROFILE_LEN` and `NODE_REGISTRY_TEMPLATE_LEN`. -/
abbrev registryTextLen : Nat := 24

instance registryTextLen_neZero : NeZero registryTextLen :=
  ⟨Nat.succ_ne_zero 23⟩

/-- The array of a text. -/
abbrev RegistryText := Fin registryTextLen → UInt8

/-- `NODE_REGISTRY_STATE_DISCOVERED`. -/
def stateDiscovered : UInt8 := 0

/-- `NODE_REGISTRY_STATE_ADOPTED`. -/
def stateAdopted : UInt8 := 1

/-- `NODE_REGISTRY_STATE_CONFIGURED`. -/
def stateConfigured : UInt8 := 2

/-- `NODE_REGISTRY_STATE_ACTIVE`. -/
def stateActive : UInt8 := 3

/-- `NODE_REGISTRY_TRANSPORT_NONE`. -/
def transportNone : UInt8 := 0

/-- `NODE_REGISTRY_TRANSPORT_RS485_CLUSTER`. -/
def transportRs485Cluster : UInt8 := 3

/-- `NODE_REGISTRY_OFFLINE_NONE`. -/
def offlineNone : UInt8 := 0

/-- `NODE_REGISTRY_OFFLINE_HEARTBEAT_TIMEOUT`. -/
def offlineHeartbeatTimeout : UInt8 := 1

/-- `NODE_REGISTRY_OFFLINE_MISSING_ADDRESS`. -/
def offlineMissingAddress : UInt8 := 2

/-- `NODE_REGISTRY_OFFLINE_LINK_DEGRADED`. -/
def offlineLinkDegraded : UInt8 := 3

/-- The value of a `cluster_node_state_t`. -/
def clusterStateCode : ClusterNodeState → UInt8
  | .online => 0
  | .suspect => 1
  | .offline => 2

/-- `node_registry_entry_t`. -/
structure RegistryEntry where
  nodeId : UInt32
  lastIpAddr : UInt32
  ageMs : UInt32
  lastSeenMs : UInt32
  health : UInt8
  clusterState : UInt8
  registryState : UInt8
  lastTransport : UInt8
  offlineReason : UInt8
  recoveryCapabilities : UInt8
  reserved0 : UInt8
  reserved1 : UInt8
  profile : RegistryText
  templateName : RegistryText

/-- An entry after `memset`. -/
def RegistryEntry.zero : RegistryEntry where
  nodeId := 0
  lastIpAddr := 0
  ageMs := 0
  lastSeenMs := 0
  health := 0
  clusterState := 0
  registryState := stateDiscovered
  lastTransport := transportNone
  offlineReason := 0
  recoveryCapabilities := 0
  reserved0 := 0
  reserved1 := 0
  profile := fun _ => 0
  templateName := fun _ => 0

/-- `node_registry_compute_offline_reason`. -/
def computeOfflineReason (entry : RegistryEntry) : UInt8 :=
  if entry.clusterState = clusterStateCode .online then offlineNone
  else if entry.clusterState = clusterStateCode .suspect then
    offlineLinkDegraded
  else if entry.lastTransport = transportRs485Cluster then
    offlineHeartbeatTimeout
  else if entry.lastIpAddr = 0 then offlineMissingAddress
  else offlineHeartbeatTimeout

/-- `node_registry_default_recovery_caps`. -/
def defaultRecoveryCaps : UInt8 := 1 ||| 2 ||| 4 ||| 8

/-- `node_registry_should_persist`. -/
def ShouldPersist (entry : RegistryEntry) : Prop :=
  entry.nodeId ≠ 0 ∧
  (entry.registryState ≠ stateDiscovered ∨ entry.profile 0 ≠ 0 ∨
  entry.templateName 0 ≠ 0)

instance (entry : RegistryEntry) : Decidable (ShouldPersist entry) :=
  inferInstanceAs (Decidable (_ ∧ _))

/-- `node_registry_reset_runtime`. -/
def resetRuntime (entry : RegistryEntry) : RegistryEntry :=
  if entry.nodeId = 0 then entry
  else
    let reset :=
      { entry with
        ageMs := 0
        lastSeenMs := 0
        health := 0
        clusterState := clusterStateCode .offline }
    { reset with
      offlineReason := computeOfflineReason reset
      recoveryCapabilities := defaultRecoveryCaps }

theorem resetRuntime_nodeId (entry : RegistryEntry) :
    (resetRuntime entry).nodeId = entry.nodeId := by
  rw [resetRuntime]
  split
  · rfl
  · rfl

/-! ## Texts -/

/-- The characters of a text in memory, before the first zero. -/
def textChars (bytes : List UInt8) : List UInt8 :=
  bytes.takeWhile fun byte => byte ≠ 0

/-- The characters that an array holds. -/
def RegistryText.chars (text : RegistryText) : List UInt8 :=
  textChars (List.ofFn text)

/-- `node_registry_copy_text`: the last byte is always zero, and so are the
bytes behind the text. -/
def registryCopyText (source : List UInt8) : RegistryText := fun index =>
  if index.val < registryTextLen - 1 then
    (textChars source)[index.val]?.getD 0
  else 0

/-! ## Layouts -/

/-- The layout of an array of characters. -/
def registryTextLayout : Layout RegistryText :=
  Layout.array registryTextLen Layout.u8

/-- The layout of `node_registry_entry_t`. -/
def registryEntryLayout : Layout RegistryEntry :=
  (Layout.u32.andThen
    (Layout.u32.andThen
      (Layout.u32.andThen
        (Layout.u32.andThen
          (Layout.u8.andThen
            (Layout.u8.andThen
              (Layout.u8.andThen
                (Layout.u8.andThen
                  (Layout.u8.andThen
                    (Layout.u8.andThen
                      (Layout.u8.andThen
                        (Layout.u8.andThen
                          (registryTextLayout.andThen
                            registryTextLayout))))))))))))).retype
    (fun (nodeId, lastIpAddr, ageMs, lastSeenMs, health, clusterState,
        registryState, lastTransport, offlineReason, recoveryCapabilities,
        reserved0, reserved1, profile, templateName) =>
      { nodeId := nodeId
        lastIpAddr := lastIpAddr
        ageMs := ageMs
        lastSeenMs := lastSeenMs
        health := health
        clusterState := clusterState
        registryState := registryState
        lastTransport := lastTransport
        offlineReason := offlineReason
        recoveryCapabilities := recoveryCapabilities
        reserved0 := reserved0
        reserved1 := reserved1
        profile := profile
        templateName := templateName })
    (fun entry =>
      (entry.nodeId, entry.lastIpAddr, entry.ageMs, entry.lastSeenMs,
        entry.health, entry.clusterState, entry.registryState,
        entry.lastTransport, entry.offlineReason,
        entry.recoveryCapabilities, entry.reserved0, entry.reserved1,
        entry.profile, entry.templateName))
    (fun _ => rfl)

/-- `node_registry_entry_v1_t`. -/
structure RegistryEntryV1 where
  nodeId : UInt32
  lastIpAddr : UInt32
  ageMs : UInt32
  health : UInt8
  clusterState : UInt8
  registryState : UInt8
  reserved : UInt8
  profile : RegistryText
  templateName : RegistryText

/-- The layout of `node_registry_entry_v1_t`. -/
def registryEntryV1Layout : Layout RegistryEntryV1 :=
  (Layout.u32.andThen
    (Layout.u32.andThen
      (Layout.u32.andThen
        (Layout.u8.andThen
          (Layout.u8.andThen
            (Layout.u8.andThen
              (Layout.u8.andThen
                (registryTextLayout.andThen registryTextLayout)))))))).retype
    (fun (nodeId, lastIpAddr, ageMs, health, clusterState, registryState,
        reserved, profile, templateName) =>
      { nodeId := nodeId
        lastIpAddr := lastIpAddr
        ageMs := ageMs
        health := health
        clusterState := clusterState
        registryState := registryState
        reserved := reserved
        profile := profile
        templateName := templateName })
    (fun entry =>
      (entry.nodeId, entry.lastIpAddr, entry.ageMs, entry.health,
        entry.clusterState, entry.registryState, entry.reserved,
        entry.profile, entry.templateName))
    (fun _ => rfl)

/-- `node_registry_blob_t` and `node_registry_blob_v1_t`. -/
structure RegistryBlob (Entry : Type) where
  magic : UInt32
  version : UInt16
  count : UInt16
  entries : Fin registryMaxNodes → Entry
  crc : UInt32

/-- The layout of a blob. -/
def registryBlobLayout {Entry : Type} (entry : Layout Entry) :
    Layout (RegistryBlob Entry) :=
  (Layout.u32.andThen
    (Layout.u16.andThen
      (Layout.u16.andThen
        ((Layout.array registryMaxNodes entry).andThen Layout.u32)))).retype
    (fun (magic, version, count, entries, crc) =>
      { magic := magic
        version := version
        count := count
        entries := entries
        crc := crc })
    (fun blob =>
      (blob.magic, blob.version, blob.count, blob.entries, blob.crc))
    (fun _ => rfl)

/-- The entries in use of a blob. -/
def RegistryBlob.listed {Entry : Type} (blob : RegistryBlob Entry) :
    List Entry :=
  (List.ofFn blob.entries).take blob.count.toNat

/-- `node_registry_crc32`. -/
def registryCrc32 (data : List UInt8) : UInt32 :=
  data.foldl (fun crc byte => (crc ^^^ byte.toUInt32) * 16777619) 2166136261

/-- The checksum over the entries in use. -/
def RegistryBlob.entriesCrc {Entry : Type} (blob : RegistryBlob Entry)
    (entry : Layout Entry) : UInt32 :=
  registryCrc32
    (((Layout.array registryMaxNodes entry).write blob.entries).take
      (blob.count.toNat * entry.size))

/-- `NODE_REGISTRY_MAGIC`. -/
def registryMagic : UInt32 := 0x4E524547

/-- `NODE_REGISTRY_VERSION`. -/
def registryVersion : UInt16 := 2

/-- `NODE_REGISTRY_VERSION_V1`. -/
def registryVersionV1 : UInt16 := 1

/-! ## Saving and loading -/

/-- The entries that `node_registry_build_blob_locked` copies. -/
def persistedEntries (entries : List RegistryEntry) : List RegistryEntry :=
  ((entries.filter fun entry => ShouldPersist entry).take
    registryMaxNodes).map resetRuntime

/-- `node_registry_build_blob_locked`. -/
def buildBlob (entries : List RegistryEntry) : RegistryBlob RegistryEntry :=
  let filled : RegistryBlob RegistryEntry :=
    { magic := registryMagic
      version := registryVersion
      count := UInt16.ofNat (persistedEntries entries).length
      entries := fun index =>
        (persistedEntries entries)[index.val]?.getD RegistryEntry.zero
      crc := 0 }
  { filled with crc := filled.entriesCrc registryEntryLayout }

/-- The bytes that `node_registry_save_blob` writes. -/
def saveBlob (entries : List RegistryEntry) : List UInt8 :=
  (registryBlobLayout registryEntryLayout).write (buildBlob entries)

/-- The checks that `node_registry_load_blob` makes on a blob of the right
size. -/
def BlobAccepted {Entry : Type} (entry : Layout Entry) (version : UInt16)
    (blob : RegistryBlob Entry) : Prop :=
  blob.magic = registryMagic ∧ blob.version = version ∧
  blob.count.toNat ≤ registryMaxNodes ∧
  blob.crc = blob.entriesCrc entry

instance {Entry : Type} (entry : Layout Entry) (version : UInt16)
    (blob : RegistryBlob Entry) :
    Decidable (BlobAccepted entry version blob) :=
  inferInstanceAs (Decidable (_ ∧ _))

/-- The entry that an entry of the first version becomes. -/
def RegistryEntryV1.migrated (entry : RegistryEntryV1) : RegistryEntry :=
  { RegistryEntry.zero with
    nodeId := entry.nodeId
    lastIpAddr := entry.lastIpAddr
    ageMs := entry.ageMs
    lastSeenMs := 0
    health := entry.health
    clusterState := entry.clusterState
    registryState := entry.registryState
    lastTransport := transportNone
    offlineReason := offlineNone
    recoveryCapabilities := defaultRecoveryCaps
    profile := registryCopyText (List.ofFn entry.profile)
    templateName := registryCopyText (List.ofFn entry.templateName) }

/-- `node_registry_load_blob`, the entries that it lists; `none` when it
returns false. -/
def loadBlob (nvs : Option (List UInt8)) : Option (List RegistryEntry) :=
  match nvs with
  | none => none
  | some bytes =>
      if bytes.length = (registryBlobLayout registryEntryLayout).size then
        let blob := (registryBlobLayout registryEntryLayout).read bytes
        if BlobAccepted registryEntryLayout registryVersion blob then
          some blob.listed
        else none
      else if bytes.length =
          (registryBlobLayout registryEntryV1Layout).size then
        let legacy := (registryBlobLayout registryEntryV1Layout).read bytes
        if BlobAccepted registryEntryV1Layout registryVersionV1 legacy then
          some (legacy.listed.map RegistryEntryV1.migrated)
        else none
      else none

/-- The static state of `node_registry.c` and the record in storage. -/
structure RegistryWorld where
  entries : List RegistryEntry
  initialized : Bool
  lastSyncMs : UInt32
  nvs : Option (List UInt8)
  fits : entries.length = registryMaxNodes

/-- A table that starts with the given entries; there are no more than fit. -/
def tableOf (loaded : List RegistryEntry) : List RegistryEntry :=
  (loaded.take registryMaxNodes).map resetRuntime ++
    List.replicate (registryMaxNodes - loaded.length) RegistryEntry.zero

theorem tableOf_length (loaded : List RegistryEntry) :
    (tableOf loaded).length = registryMaxNodes := by
  rw [tableOf, List.length_append, List.length_map, List.length_take,
    List.length_replicate]
  omega

def nodeRegistryInit (nvs : Option (List UInt8)) : RegistryWorld where
  entries := tableOf ((loadBlob nvs).getD [])
  initialized := true
  lastSyncMs := 0
  nvs := nvs
  fits := tableOf_length _

theorem nodeRegistryInit_entries (nvs : Option (List UInt8)) :
    (nodeRegistryInit nvs).entries = tableOf ((loadBlob nvs).getD []) :=
  rfl

end Endap.Registry
