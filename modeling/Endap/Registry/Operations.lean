import Endap.Registry.Records

/-!
# Operations of the node registry

Discovery adds entries for the nodes that the cluster manager tracks and for
those a frame came from.  Requests admit, configure, activate, revoke and
replace nodes; each of them writes the table to storage and takes its change
back when that fails.

A request about a node that has no entry yet creates one from what the
cluster manager knows.
-/

namespace Endap.Registry

open Endap.Cluster
open Endap.Library
open Endap.State

/-! ## Slots -/

/-- `node_registry_find_locked`: the slot and the entry it holds. -/
def findLocked (entries : List RegistryEntry) (nodeId : UInt32) :
    Option (Nat × RegistryEntry) :=
  Slots.find? RegistryEntry.nodeId nodeId entries

/-- `node_registry_allocate_locked`. -/
def allocateLocked (entries : List RegistryEntry) :
    Option (Nat × RegistryEntry) :=
  findLocked entries 0

/-- The entry of a node, or a cleared slot with its id. -/
def findOrCreate (entries : List RegistryEntry) (nodeId : UInt32) :
    Option (Nat × RegistryEntry) :=
  match findLocked entries nodeId with
  | some found => some found
  | none =>
      match allocateLocked entries with
      | none => none
      | some (index, _) =>
          some
            (index,
              { RegistryEntry.zero with
                nodeId := nodeId
                registryState := stateDiscovered })

/-- Overwrite one slot. -/
def RegistryWorld.setEntry (world : RegistryWorld) (index : Nat)
    (entry : RegistryEntry) : RegistryWorld :=
  { world with
    entries := world.entries.set index entry
    fits := by rw [List.length_set, world.fits] }

/-- `node_registry_get_state`. -/
def getState (entries : List RegistryEntry) (nodeId : UInt32) : UInt8 :=
  if nodeId = 0 then stateDiscovered
  else
    match findLocked entries nodeId with
    | none => stateDiscovered
    | some (_, entry) => entry.registryState

/-! ## Discovery -/

/-- `node_registry_transport_from_cluster`, of the value of a
`cluster_transport_type_t`. -/
def transportFromCluster (transport : UInt8) : UInt8 :=
  if transport = 1 then 1
  else if transport = 2 then 2
  else if transport = 3 then transportRs485Cluster
  else if transport = 5 then 4
  else transportNone

/-- The health that `node_registry_process` gives a node. -/
def healthOf : ClusterNodeState → UInt8
  | .online => 100
  | .suspect => 50
  | .offline => 0

/-- What the cluster manager says about a node, as a request takes it over. -/
def seeded (entry : RegistryEntry) (target : TrackedNode) : RegistryEntry :=
  let noted :=
    { entry with
      lastSeenMs := target.lastSeenMs
      clusterState := clusterStateCode target.state }
  { noted with
    offlineReason := computeOfflineReason noted
    recoveryCapabilities := defaultRecoveryCaps }

/-- What the cluster manager says about a node, as discovery takes it over. -/
def observed (entry : RegistryEntry) (target : TrackedNode) :
    RegistryEntry :=
  seeded { entry with health := healthOf target.state } target

/-- One round of the loop of `node_registry_process` over the nodes. -/
def observeNode (selfNode : UInt32) (world : RegistryWorld)
    (target : TrackedNode) : RegistryWorld :=
  if target.nodeId = 0 ∨ target.nodeId = selfNode then world
  else
    match findOrCreate world.entries target.nodeId with
    | none => world
    | some (index, entry) => world.setEntry index (observed entry target)

/-- The end of `node_registry_process`: the node itself is online. -/
def observeSelf (selfNode : UInt32) (world : RegistryWorld) :
    RegistryWorld :=
  if selfNode = 0 then world
  else
    match findLocked world.entries selfNode with
    | none => world
    | some (index, entry) =>
        world.setEntry index
          { entry with
            clusterState := clusterStateCode .online
            health := 100
            offlineReason := offlineNone
            recoveryCapabilities := defaultRecoveryCaps }

/-- `NODE_REGISTRY_SYNC_MS`. -/
def registrySyncMs : UInt32 := 1000

/-- `node_registry_process`, with the time, the nodes that the cluster manager
exports and the node's own id. -/
def RegistryWorld.process (world : RegistryWorld) (nowMs : UInt32)
    (snapshot : List TrackedNode) (selfNode : UInt32) : RegistryWorld :=
  if world.initialized = false then world
  else if nowMs - world.lastSyncMs < registrySyncMs then world
  else
    let reset : RegistryWorld :=
      { world with
        entries := world.entries.map resetRuntime
        lastSyncMs := nowMs
        fits := by rw [List.length_map, world.fits] }
    observeSelf selfNode (snapshot.foldl (observeNode selfNode) reset)

/-- `node_registry_note_transport`. -/
def RegistryWorld.noteTransport (world : RegistryWorld) (nodeId : UInt32)
    (transport : UInt8) (sourceIp : UInt32) : Bool × RegistryWorld :=
  if nodeId = 0 then (false, world)
  else
    match findOrCreate world.entries nodeId with
    | none => (false, world)
    | some (index, entry) =>
        let noted :=
          { entry with
            lastIpAddr := if sourceIp ≠ 0 then sourceIp else entry.lastIpAddr
            lastTransport :=
              if transportFromCluster transport ≠ transportNone then
                transportFromCluster transport
              else entry.lastTransport }
        (true,
          world.setEntry index
            { noted with offlineReason := computeOfflineReason noted })

/-- `node_registry_seed_entry_from_cluster`; `none` when it returns false. -/
def RegistryWorld.seedEntryFromCluster (world : RegistryWorld)
    (snapshot : List TrackedNode) (nodeId : UInt32) :
    Option RegistryWorld :=
  if nodeId = 0 then none
  else
    match snapshot.find? fun node => node.nodeId = nodeId with
    | none => none
    | some target =>
        match findOrCreate world.entries nodeId with
        | none => none
        | some (index, entry) =>
            some (world.setEntry index (seeded entry target))

/-! ## Requests -/

/-- `node_registry_restore_entry`. -/
def RegistryWorld.restoreEntry (world : RegistryWorld) (nodeId : UInt32)
    (previous : RegistryEntry) : RegistryWorld :=
  if nodeId = 0 then world
  else
    match findLocked world.entries nodeId with
    | none => world
    | some (index, _) => world.setEntry index previous

/-- `node_registry_save_blob` of the present table. -/
def RegistryWorld.save (world : RegistryWorld) (outcome : NvsOutcome) :
    RegistryWorld :=
  { world with
    nvs := nvsWrite outcome world.nvs (some (saveBlob world.entries)) }

/-- The end of a request that changed the entry of a node: the table is
written, and the entry restored when that fails. -/
def RegistryWorld.commitChange (world : RegistryWorld) (nodeId : UInt32)
    (previous : RegistryEntry) (outcome : NvsOutcome) :
    Bool × RegistryWorld :=
  if outcome.succeeds then (true, world.save outcome)
  else (false, (world.save outcome).restoreEntry nodeId previous)

/-- The world in which a request finds its node: it is created from the
cluster manager when it has no entry. -/
def RegistryWorld.located (world : RegistryWorld)
    (snapshot : List TrackedNode) (nodeId : UInt32) :
    Option RegistryWorld :=
  match findLocked world.entries nodeId with
  | some _ => some world
  | none => world.seedEntryFromCluster snapshot nodeId

/-- The body that adopting, configuring and activating a node share. -/
def RegistryWorld.changeNode (world : RegistryWorld)
    (snapshot : List TrackedNode) (nodeId : UInt32)
    (allowed : RegistryEntry → Bool) (change : RegistryEntry → RegistryEntry)
    (outcome : NvsOutcome) : Bool × RegistryWorld :=
  if nodeId = 0 then (false, world)
  else
    match world.located snapshot nodeId with
    | none => (false, world)
    | some located =>
        match findLocked located.entries nodeId with
        | none => (false, located)
        | some (index, entry) =>
            if allowed entry then
              (located.setEntry index (change entry)).commitChange nodeId
                entry outcome
            else (false, located)

/-- What `node_registry_adopt` does to an entry. -/
def adopted (entry : RegistryEntry) : RegistryEntry :=
  { entry with
    registryState :=
      if entry.registryState < stateAdopted then stateAdopted
      else entry.registryState }

/-- `node_registry_adopt`. -/
def RegistryWorld.adopt (world : RegistryWorld)
    (snapshot : List TrackedNode) (nodeId : UInt32) (outcome : NvsOutcome) :
    Bool × RegistryWorld :=
  world.changeNode snapshot nodeId (fun _ => true) adopted outcome

/-- The bytes of a text of the source. -/
def literalBytes (text : String) : List UInt8 :=
  text.toList.map fun character => UInt8.ofNat character.toNat

def supportedProfiles : List (List UInt8) :=
  [literalBytes "gateway", literalBytes "field-node",
    literalBytes "relay-node", literalBytes "sensor-node",
    literalBytes "local-io-node"]

/-- `node_registry_profile_is_supported`, of the characters of a text. -/
def profileIsSupported (profile : List UInt8) : Bool :=
  decide (profile ≠ []) && decide (profile ∈ supportedProfiles)

/-- `isalnum`, in the locale of the firmware. -/
def isAlnum (byte : UInt8) : Bool :=
  (48 ≤ byte && byte ≤ 57) || (65 ≤ byte && byte ≤ 90) ||
    (97 ≤ byte && byte ≤ 122)

/-- `node_registry_template_is_valid`. -/
def templateIsValid (templateName : List UInt8) : Bool :=
  templateName.all fun byte =>
    isAlnum byte || byte = 45 || byte = 95 || byte = 46

/-- What `node_registry_configure` does to an entry. -/
def configured (profile templateName : List UInt8) (entry : RegistryEntry) :
    RegistryEntry :=
  { entry with
    profile := registryCopyText profile
    templateName := registryCopyText templateName
    registryState :=
      if stateActive ≤ entry.registryState then stateActive
      else stateConfigured }

/-- `node_registry_configure`; the texts are given by their characters, and a
missing template is an empty one. -/
def RegistryWorld.configure (world : RegistryWorld)
    (snapshot : List TrackedNode) (nodeId : UInt32)
    (profile templateName : List UInt8) (outcome : NvsOutcome) :
    Bool × RegistryWorld :=
  if profileIsSupported profile = false ∨
      templateIsValid templateName = false then
    (false, world)
  else
    world.changeNode snapshot nodeId (fun _ => true)
      (configured profile templateName) outcome

/-- `node_registry_activate`. -/
def RegistryWorld.activate (world : RegistryWorld)
    (snapshot : List TrackedNode) (nodeId : UInt32) (outcome : NvsOutcome) :
    Bool × RegistryWorld :=
  world.changeNode snapshot nodeId
    (fun entry => decide (stateAdopted ≤ entry.registryState))
    (fun entry => { entry with registryState := stateActive }) outcome

/-- What `node_registry_revoke` does to an entry; only the first byte of a
text is cleared. -/
def revoked (entry : RegistryEntry) : RegistryEntry :=
  { entry with
    registryState := stateDiscovered
    profile := Function.update entry.profile 0 0
    templateName := Function.update entry.templateName 0 0 }

/-- `node_registry_revoke`; a node without an entry is not created. -/
def RegistryWorld.revoke (world : RegistryWorld) (nodeId : UInt32)
    (outcome : NvsOutcome) : Bool × RegistryWorld :=
  if nodeId = 0 then (false, world)
  else
    match findLocked world.entries nodeId with
    | none => (false, world)
    | some (index, entry) =>
        (world.setEntry index (revoked entry)).commitChange nodeId entry outcome

/-- The entry of the new node of a replacement; a slot that was free keeps
what it holds of an earlier node. -/
def replacing (newId : UInt32) (old entry : RegistryEntry) :
    RegistryEntry :=
  { entry with
    nodeId := newId
    registryState := old.registryState
    profile := registryCopyText (List.ofFn old.profile)
    templateName := registryCopyText (List.ofFn old.templateName) }

/-- `node_registry_replace`. -/
def RegistryWorld.replace (world : RegistryWorld) (oldId newId : UInt32)
    (outcome : NvsOutcome) : Bool × RegistryWorld :=
  if oldId = 0 ∨ newId = 0 ∨ oldId = newId then (false, world)
  else
    match findLocked world.entries oldId with
    | none => (false, world)
    | some (oldIndex, old) =>
        match (findLocked world.entries newId).orElse fun _ =>
            allocateLocked world.entries with
        | none => (false, world)
        | some (newIndex, entry) =>
            ((world.setEntry newIndex (replacing newId old entry)).setEntry
              oldIndex { old with nodeId := 0 }).commitChange oldId old
              outcome

/-! ## What a request comes to -/

/-- A request on a node is refused, or changes the entry of the node in the
world where it was found. -/
theorem changeNode_cases
    (world : RegistryWorld) (snapshot : List TrackedNode) (nodeId : UInt32)
    (allowed : RegistryEntry → Bool) (change : RegistryEntry → RegistryEntry)
    (outcome : NvsOutcome) :
    world.changeNode snapshot nodeId allowed change outcome = (false, world) ∨
    nodeId ≠ 0 ∧
    ∃ located, world.located snapshot nodeId = some located ∧
    (world.changeNode snapshot nodeId allowed change outcome =
        (false, located) ∨
      ∃ index entry,
        findLocked located.entries nodeId = some (index, entry) ∧
        allowed entry = true ∧
        world.changeNode snapshot nodeId allowed change outcome =
          (located.setEntry index (change entry)).commitChange
            nodeId entry outcome) := by
  rw [RegistryWorld.changeNode]
  split
  · exact Or.inl rfl
  · next known =>
      split
      · exact Or.inl rfl
      · next located isLocated =>
          refine Or.inr ⟨known, located, isLocated, ?_⟩
          split
          · exact Or.inl rfl
          · next index entry found =>
              split
              · next permitted =>
                  exact Or.inr ⟨index, entry, found, permitted, rfl⟩
              · exact Or.inl rfl

theorem revoke_cases
    (world : RegistryWorld) (nodeId : UInt32) (outcome : NvsOutcome) :
    world.revoke nodeId outcome = (false, world) ∨
    nodeId ≠ 0 ∧
    ∃ index entry,
      findLocked world.entries nodeId = some (index, entry) ∧
      world.revoke nodeId outcome =
        (world.setEntry index (revoked entry)).commitChange nodeId
          entry outcome := by
  rw [RegistryWorld.revoke]
  split
  · exact Or.inl rfl
  · next known =>
      split
      · exact Or.inl rfl
      · next index entry found =>
          exact Or.inr ⟨known, index, entry, found, rfl⟩

/-- The slot that the new node of a replacement takes. -/
def replacementSlot (entries : List RegistryEntry) (newId : UInt32) :
    Option (Nat × RegistryEntry) :=
  (findLocked entries newId).orElse fun _ => allocateLocked entries

theorem replace_cases
    (world : RegistryWorld) (oldId newId : UInt32) (outcome : NvsOutcome) :
    world.replace oldId newId outcome = (false, world) ∨
    (oldId ≠ 0 ∧ newId ≠ 0 ∧ oldId ≠ newId) ∧
    ∃ oldIndex old newIndex entry,
      findLocked world.entries oldId = some (oldIndex, old) ∧
      replacementSlot world.entries newId = some (newIndex, entry) ∧
      world.replace oldId newId outcome =
        ((world.setEntry newIndex
          (replacing newId old entry)).setEntry oldIndex
          { old with nodeId := 0 }).commitChange oldId old
          outcome := by
  rw [RegistryWorld.replace]
  split
  · exact Or.inl rfl
  · next valid =>
      rw [not_or, not_or] at valid
      split
      · exact Or.inl rfl
      · next oldIndex old found =>
          split
          · exact Or.inl rfl
          · next newIndex entry isSlot =>
              exact
                Or.inr
                  ⟨valid, oldIndex, old, newIndex, entry, found, isSlot, rfl⟩

/-! ## Runs -/

/-- What may happen to the registry. -/
inductive RegistryAction where
  | process (nowMs : UInt32) (snapshot : List TrackedNode)
      (selfNode : UInt32)
  | noteTransport (nodeId : UInt32) (transport : UInt8) (sourceIp : UInt32)
  | adopt (snapshot : List TrackedNode) (nodeId : UInt32)
      (outcome : NvsOutcome)
  | configure (snapshot : List TrackedNode) (nodeId : UInt32)
      (profile templateName : List UInt8) (outcome : NvsOutcome)
  | activate (snapshot : List TrackedNode) (nodeId : UInt32)
      (outcome : NvsOutcome)
  | revoke (nodeId : UInt32) (outcome : NvsOutcome)
  | replace (oldId newId : UInt32) (outcome : NvsOutcome)

/-- One call; discovery returns nothing. -/
def RegistryWorld.step (world : RegistryWorld) :
    RegistryAction → RegistryWorld × Bool
  | .process nowMs snapshot selfNode =>
      (world.process nowMs snapshot selfNode, true)
  | .noteTransport nodeId transport sourceIp =>
      (world.noteTransport nodeId transport sourceIp).swap
  | .adopt snapshot nodeId outcome =>
      (world.adopt snapshot nodeId outcome).swap
  | .configure snapshot nodeId profile templateName outcome =>
      (world.configure snapshot nodeId profile templateName outcome).swap
  | .activate snapshot nodeId outcome =>
      (world.activate snapshot nodeId outcome).swap
  | .revoke nodeId outcome => (world.revoke nodeId outcome).swap
  | .replace oldId newId outcome =>
      (world.replace oldId newId outcome).swap

end Endap.Registry
