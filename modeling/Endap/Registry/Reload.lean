import Endap.Registry.Operations
import Mathlib.Data.List.TakeWhile

/-!
# The registry after a reboot

A request that succeeds leaves a record from which the next boot rebuilds the
entries that are worth keeping, and no others.  A record of the first version
gives the entries it lists, with the texts they hold.
-/

namespace Endap.Registry

open Endap.Cluster
open Endap.Library
open Endap.State

/-! ## What a reboot keeps -/

/-- The fields of an entry that outlive a reboot. -/
structure Durable where
  nodeId : UInt32
  lastIpAddr : UInt32
  lastTransport : UInt8
  registryState : UInt8
  profile : RegistryText
  templateName : RegistryText

/-- The lasting part of an entry. -/
def RegistryEntry.durable (entry : RegistryEntry) : Durable where
  nodeId := entry.nodeId
  lastIpAddr := entry.lastIpAddr
  lastTransport := entry.lastTransport
  registryState := entry.registryState
  profile := entry.profile
  templateName := entry.templateName

theorem resetRuntime_durable (entry : RegistryEntry) :
    (resetRuntime entry).durable = entry.durable := by
  rw [resetRuntime]
  split
  · rfl
  · rfl

/-- The entries in use of a table. -/
def inUse (entries : List RegistryEntry) : List RegistryEntry :=
  entries.filter fun entry => entry.nodeId ≠ 0

theorem inUse_tableOf
    {loaded : List RegistryEntry} (few : loaded.length ≤ registryMaxNodes)
    (known : ∀ entry ∈ loaded, entry.nodeId ≠ 0) :
    inUse (tableOf loaded) = loaded.map resetRuntime := by
  rw [inUse, tableOf, List.take_of_length_le few, List.filter_append]
  have kept :
      (loaded.map resetRuntime).filter (fun entry => entry.nodeId ≠ 0) =
        loaded.map resetRuntime := by
    rw [List.filter_eq_self]
    intro entry member
    rcases List.mem_map.mp member with ⟨source, isLoaded, rfl⟩
    rw [resetRuntime_nodeId]
    exact decide_eq_true (known source isLoaded)
  have free :
      (List.replicate (registryMaxNodes - loaded.length)
          RegistryEntry.zero).filter (fun entry => entry.nodeId ≠ 0) =
        [] := by
    rw [List.filter_eq_nil_iff]
    intro entry member
    rw [List.eq_of_mem_replicate member]
    decide
  rw [kept, free, List.append_nil]

/-! ## Saved tables -/

theorem persistedEntries_length (entries : List RegistryEntry) :
    (persistedEntries entries).length ≤ registryMaxNodes := by
  rw [persistedEntries, List.length_map]
  exact List.length_take_le _ _

theorem persistedEntries_known
    {entries : List RegistryEntry} {entry : RegistryEntry}
    (member : entry ∈ persistedEntries entries) : entry.nodeId ≠ 0 := by
  rcases List.mem_map.mp member with ⟨source, taken, rfl⟩
  rw [resetRuntime_nodeId]
  have kept := (List.mem_filter.mp (List.mem_of_mem_take taken)).2
  exact (of_decide_eq_true kept).1

theorem buildBlob_count (entries : List RegistryEntry) :
    (buildBlob entries).count.toNat = (persistedEntries entries).length :=
  UInt16.toNat_ofNat_of_lt'
    (Nat.lt_of_le_of_lt (persistedEntries_length entries) (by decide))

theorem buildBlob_listed (entries : List RegistryEntry) :
    (buildBlob entries).listed = persistedEntries entries := by
  rw [RegistryBlob.listed, buildBlob_count]
  exact Layout.take_ofFn_getD _ _ (persistedEntries_length entries)

theorem buildBlob_accepted (entries : List RegistryEntry) :
    BlobAccepted registryEntryLayout registryVersion (buildBlob entries) := by
  refine ⟨rfl, rfl, ?_, rfl⟩
  rw [buildBlob_count]
  exact persistedEntries_length entries

theorem loadBlob_saveBlob (entries : List RegistryEntry) :
    loadBlob (some (saveBlob entries)) = some (persistedEntries entries) := by
  have size :
      (saveBlob entries).length =
        (registryBlobLayout registryEntryLayout).size :=
    (registryBlobLayout registryEntryLayout).write_length _
  have read :
      (registryBlobLayout registryEntryLayout).read (saveBlob entries) =
        buildBlob entries := by
    have whole :=
      (registryBlobLayout registryEntryLayout).read_write (buildBlob entries) []
    rw [List.append_nil] at whole
    exact whole
  simp only [loadBlob, size, if_true, read,
    if_pos (buildBlob_accepted entries), buildBlob_listed]

theorem init_saveBlob
    {entries : List RegistryEntry}
    (fits : entries.length ≤ registryMaxNodes) :
    (inUse (nodeRegistryInit (some (saveBlob entries))).entries).map
        RegistryEntry.durable =
      (entries.filter fun entry => ShouldPersist entry).map
        RegistryEntry.durable := by
  have all :
      (entries.filter fun entry => ShouldPersist entry).length ≤
        registryMaxNodes :=
    Nat.le_trans (List.length_filter_le _ _) fits
  have loaded :
      (nodeRegistryInit (some (saveBlob entries))).entries =
        tableOf (persistedEntries entries) := by
    rw [nodeRegistryInit_entries, loadBlob_saveBlob, Option.getD_some]
  rw [loaded,
    inUse_tableOf (persistedEntries_length entries)
      (fun _ member => persistedEntries_known member),
    persistedEntries, List.take_of_length_le all, List.map_map,
    List.map_map]
  apply List.map_congr_left
  intro entry _
  simp only [Function.comp_apply, resetRuntime_durable]

/-! ## Requests that succeed -/

/-- The calls that write the record. -/
def RegistryAction.IsRequest : RegistryAction → Prop
  | .process .. => False
  | .noteTransport .. => False
  | .adopt .. => True
  | .configure .. => True
  | .activate .. => True
  | .revoke .. => True
  | .replace .. => True

/-- The record in storage is that of the table. -/
def RegistryWorld.Saved (world : RegistryWorld) : Prop :=
  world.nvs = some (saveBlob world.entries)

variable {world : RegistryWorld}

theorem commitChange_saved
    {nodeId : UInt32} {previous : RegistryEntry}
    {outcome : NvsOutcome}
    (success : (world.commitChange nodeId previous outcome).1 = true) :
    (world.commitChange nodeId previous outcome).2.Saved := by
  rw [RegistryWorld.commitChange] at success ⊢
  split at success
  · next succeeds =>
      rw [if_pos succeeds]
      exact nvsWrite_of_succeeds succeeds _ _
  · cases success

theorem changeNode_saved
    {snapshot : List TrackedNode} {nodeId : UInt32}
    {allowed : RegistryEntry → Bool} {change : RegistryEntry → RegistryEntry}
    {outcome : NvsOutcome}
    (success :
      (world.changeNode snapshot nodeId allowed change outcome).1 = true) :
    (world.changeNode snapshot nodeId allowed change outcome).2.Saved := by
  rcases changeNode_cases world snapshot nodeId allowed change outcome with
    refused | ⟨-, located, -, refused | ⟨index, entry, -, -, changed⟩⟩
  · rw [refused] at success
    cases success
  · rw [refused] at success
    cases success
  · rw [changed] at success ⊢
    exact commitChange_saved success

theorem step_saved
    {action : RegistryAction}
    (request : action.IsRequest) (success : (world.step action).2 = true) :
    (world.step action).1.Saved := by
  cases action with
  | adopt snapshot nodeId outcome => exact changeNode_saved success
  | configure snapshot nodeId profile templateName outcome =>
      simp only [RegistryWorld.step, RegistryWorld.configure] at success ⊢
      split at success
      · cases success
      · next valid =>
          rw [if_neg valid]
          exact changeNode_saved success
  | activate snapshot nodeId outcome => exact changeNode_saved success
  | revoke nodeId outcome =>
      simp only [RegistryWorld.step] at success ⊢
      rcases revoke_cases world nodeId outcome with
        refused | ⟨-, index, entry, -, changed⟩
      · rw [refused] at success
        cases success
      · rw [changed] at success ⊢
        exact commitChange_saved success
  | replace oldId newId outcome =>
      simp only [RegistryWorld.step] at success ⊢
      rcases replace_cases world oldId newId outcome with
        refused | ⟨-, oldIndex, old, newIndex, entry, -, -, changed⟩
      · rw [refused] at success
        cases success
      · rw [changed] at success ⊢
        exact commitChange_saved success
  | _ => exact request.elim

/-! ## Records of the first version -/

/-- The entries that a record of the first version lists. -/
def listedV1 (bytes : List UInt8) : List RegistryEntryV1 :=
  ((registryBlobLayout registryEntryV1Layout).read bytes).listed

/-- The array holds the end of its text. -/
def RegistryText.Terminated (text : RegistryText) : Prop :=
  ∃ index, text index = 0

/-- A record that the first version wrote. -/
structure WellFormedV1 (bytes : List UInt8) : Prop where
  size : bytes.length = (registryBlobLayout registryEntryV1Layout).size
  accepted :
    BlobAccepted registryEntryV1Layout registryVersionV1
      ((registryBlobLayout registryEntryV1Layout).read bytes)
  texts :
    ∀ entry ∈ listedV1 bytes,
      entry.profile.Terminated ∧ entry.templateName.Terminated

/-- What an entry of either version says of a node. -/
structure NodeRecord where
  nodeId : UInt32
  lastIpAddr : UInt32
  registryState : UInt8
  profile : List UInt8
  templateName : List UInt8
deriving DecidableEq

/-- What an entry says of its node. -/
def RegistryEntry.record (entry : RegistryEntry) : NodeRecord where
  nodeId := entry.nodeId
  lastIpAddr := entry.lastIpAddr
  registryState := entry.registryState
  profile := entry.profile.chars
  templateName := entry.templateName.chars

/-- What an entry of the first version says of its node. -/
def RegistryEntryV1.record (entry : RegistryEntryV1) : NodeRecord where
  nodeId := entry.nodeId
  lastIpAddr := entry.lastIpAddr
  registryState := entry.registryState
  profile := entry.profile.chars
  templateName := entry.templateName.chars

theorem ofFn_registryCopyText (source : List UInt8) :
    List.ofFn (registryCopyText source) =
      (textChars source).take 23 ++
        0 :: List.replicate (23 - (textChars source).length) 0 := by
  apply List.ext_getElem?
  intro index
  rw [List.getElem?_ofFn, List.getElem?_append, List.length_take]
  simp only [registryCopyText]
  by_cases inText : index < min 23 (textChars source).length
  · have early : index < registryTextLen - 1 := by
      show index < 23
      omega
    have inside : index < registryTextLen := Nat.lt_of_lt_pred early
    have inChars : index < (textChars source).length := by omega
    have taken : index < 23 := early
    rw [dif_pos inside, if_pos early, if_pos inText, List.getElem?_take,
      if_pos taken, List.getElem?_eq_getElem inChars]
    rfl
  · rw [if_neg inText]
    by_cases inside : index < 24
    · have zero :
          (if index < registryTextLen - 1 then
              (textChars source)[index]?.getD 0
            else 0) =
            0 := by
        split
        · next early =>
            have early : index < 23 := early
            rw [List.getElem?_eq_none (by omega)]
            rfl
        · rfl
      rw [dif_pos inside, zero, List.getElem?_cons, List.getElem?_replicate]
      split
      · rfl
      · rw [if_pos (by omega)]
    · rw [dif_neg inside, List.getElem?_cons, List.getElem?_replicate,
        if_neg (by omega), if_neg (by omega)]

theorem chars_registryCopyText
    {text : RegistryText} (terminated : text.Terminated) :
    (registryCopyText (List.ofFn text)).chars = text.chars := by
  have short : text.chars.length ≤ 23 := by
    rcases terminated with ⟨index, isZero⟩
    by_contra long
    have prefixed : text.chars <+: List.ofFn text := List.takeWhile_prefix _
    have inside : index.val < text.chars.length := by
      have bound : index.val < 24 := index.isLt
      omega
    have same : text.chars[index.val] = text index := by
      rw [prefixed.getElem inside, List.getElem_ofFn]
    have member : text.chars[index.val] ∈ text.chars := List.getElem_mem inside
    have nonzero := List.mem_takeWhile_imp member
    rw [same, isZero] at nonzero
    simp at nonzero
  have all :
      ∀ byte ∈ text.chars, (fun byte => decide (byte ≠ 0)) byte = true := by
    intro byte member
    exact @List.mem_takeWhile_imp _ (fun byte => decide (byte ≠ 0)) _ _ member
  rw [RegistryText.chars, textChars, ofFn_registryCopyText]
  show List.takeWhile _ (text.chars.take _ ++ _) = _
  rw [List.take_of_length_le short, List.takeWhile_append_of_pos all]
  simp

theorem resetRuntime_record (entry : RegistryEntry) :
    (resetRuntime entry).record = entry.record := by
  rw [resetRuntime]
  split
  · rfl
  · rfl

theorem migrated_record
    {entry : RegistryEntryV1}
    (texts : entry.profile.Terminated ∧ entry.templateName.Terminated) :
    (resetRuntime entry.migrated).record = entry.record := by
  rw [resetRuntime_record]
  simp only [RegistryEntry.record, RegistryEntryV1.record,
    RegistryEntryV1.migrated, chars_registryCopyText texts.1,
    chars_registryCopyText texts.2]

/-- A boot from a record of the first version fills the table with the entries
it lists; the rest of the table is free. -/
theorem init_v1
    {bytes : List UInt8} (wellFormed : WellFormedV1 bytes) :
    (nodeRegistryInit (some bytes)).entries.map RegistryEntry.record =
      (listedV1 bytes).map RegistryEntryV1.record ++
        List.replicate (registryMaxNodes - (listedV1 bytes).length)
          RegistryEntry.zero.record := by
  have differ :
      ¬ (registryBlobLayout registryEntryV1Layout).size =
        (registryBlobLayout registryEntryLayout).size := by
    decide
  have loaded :
      loadBlob (some bytes) =
        some ((listedV1 bytes).map RegistryEntryV1.migrated) := by
    simp only [loadBlob, wellFormed.size, if_neg differ, if_true,
      if_pos wellFormed.accepted]
    rfl
  have few : (listedV1 bytes).length ≤ registryMaxNodes := by
    rw [listedV1, RegistryBlob.listed, List.length_take, List.length_ofFn]
    exact Nat.min_le_right _ _
  rw [nodeRegistryInit_entries, loaded, Option.getD_some, tableOf,
    List.take_of_length_le (by rwa [List.length_map]), List.map_append,
    List.length_map, List.map_replicate, List.map_map, List.map_map]
  congr 1
  apply List.map_congr_left
  intro entry member
  exact migrated_record (wellFormed.texts entry member)

/--
After a request that succeeds a reboot finds exactly the entries that are not
plainly discovered, with their address, transport, state and texts.  After a
record of the first version it finds the entries that the record lists.
-/
theorem registry_survives_reboot :
    (∀ (world : RegistryWorld) (action : RegistryAction),
      action.IsRequest → (world.step action).2 = true →
      (inUse (nodeRegistryInit (world.step action).1.nvs).entries).map
          RegistryEntry.durable =
        ((world.step action).1.entries.filter fun entry =>
          ShouldPersist entry).map RegistryEntry.durable) ∧
      ∀ bytes, WellFormedV1 bytes →
      (nodeRegistryInit (some bytes)).entries.map RegistryEntry.record =
        (listedV1 bytes).map RegistryEntryV1.record ++
          List.replicate (registryMaxNodes - (listedV1 bytes).length)
            RegistryEntry.zero.record := by
  constructor
  · intro world action request success
    have saved := step_saved request success
    rw [RegistryWorld.Saved] at saved
    rw [saved]
    exact init_saveBlob (Nat.le_of_eq (world.step action).1.fits)
  · intro bytes wellFormed
    exact init_v1 wellFormed

theorem registryCopyText_terminated (source : List UInt8) :
    (registryCopyText source).Terminated :=
  ⟨Fin.last 23, if_neg (Nat.lt_irrefl 23)⟩

def heardOfTwo : RegistryWorld :=
  (((nodeRegistryInit none).noteTransport 5 1 77).2.noteTransport 6 1 88).2

def pumpV1 : RegistryEntryV1 where
  nodeId := 5
  lastIpAddr := 77
  ageMs := 1200
  health := 90
  clusterState := 0
  registryState := stateActive
  reserved := 0
  profile := registryCopyText [112, 117, 109, 112]
  templateName := registryCopyText []

def plainV1 : RegistryEntryV1 where
  nodeId := 6
  lastIpAddr := 88
  ageMs := 0
  health := 0
  clusterState := 2
  registryState := stateAdopted
  reserved := 0
  profile := registryCopyText []
  templateName := registryCopyText []

def RegistryBlob.withCrc {Entry : Type} (blob : RegistryBlob Entry)
    (entry : Layout Entry) : RegistryBlob Entry :=
  { blob with crc := blob.entriesCrc entry }

theorem RegistryBlob.withCrc_accepted {Entry : Type}
    {blob : RegistryBlob Entry} {entry : Layout Entry} {version : UInt16}
    (magic : blob.magic = registryMagic) (ofVersion : blob.version = version)
    (few : blob.count.toNat ≤ registryMaxNodes) :
    BlobAccepted entry version (blob.withCrc entry) :=
  ⟨magic, ofVersion, few, rfl⟩

def twoNodesV1 : RegistryBlob RegistryEntryV1 :=
  RegistryBlob.withCrc
    { magic := registryMagic
      version := registryVersionV1
      count := 2
      entries := fun index => if index.val = 0 then pumpV1 else plainV1
      crc := 0 }
    registryEntryV1Layout

def twoNodesBytes : List UInt8 :=
  (registryBlobLayout registryEntryV1Layout).write twoNodesV1

theorem twoNodesBytes_read :
    (registryBlobLayout registryEntryV1Layout).read twoNodesBytes =
      twoNodesV1 := by
  have whole :=
    (registryBlobLayout registryEntryV1Layout).read_write twoNodesV1 []
  rwa [List.append_nil] at whole

theorem twoNodesBytes_listed : listedV1 twoNodesBytes = [pumpV1, plainV1] := by
  rw [listedV1, twoNodesBytes_read]
  rfl

theorem twoNodesBytes_wellFormed : WellFormedV1 twoNodesBytes where
  size := (registryBlobLayout registryEntryV1Layout).write_length _
  accepted := by
    rw [twoNodesBytes_read]
    exact RegistryBlob.withCrc_accepted rfl rfl (by decide)
  texts := by
    rw [twoNodesBytes_listed]
    intro entry member
    rcases List.mem_pair.mp member with rfl | rfl
    · exact ⟨registryCopyText_terminated _, registryCopyText_terminated _⟩
    · exact ⟨registryCopyText_terminated _, registryCopyText_terminated _⟩

/-- The admission of node 5 is there after a reboot and node 6, of which the
gateway only heard, is gone; both entries of the old record are there. -/
theorem admitted_survives :
    (heardOfTwo.step (.adopt [] 5 .committed)).1.entries.map
          (fun entry => entry.nodeId) =
        [5, 6] ++ List.replicate 8 0 ∧
      (inUse
          (nodeRegistryInit
            (heardOfTwo.step (.adopt [] 5 .committed)).1.nvs).entries).map
          (fun entry =>
            (entry.nodeId, entry.lastIpAddr, entry.lastTransport,
              entry.registryState)) =
        [(5, 77, 1, stateAdopted)] ∧
      (nodeRegistryInit (some twoNodesBytes)).entries.map RegistryEntry.record =
        [{ nodeId := 5
           lastIpAddr := 77
           registryState := stateActive
           profile := [112, 117, 109, 112]
           templateName := [] },
         { nodeId := 6
           lastIpAddr := 88
           registryState := stateAdopted
           profile := []
           templateName := [] }] ++
          List.replicate 8 RegistryEntry.zero.record := by
  have same :=
    registry_survives_reboot.1 heardOfTwo (.adopt [] 5 .committed) trivial
      (by decide +kernel)
  have parts :=
    congrArg
      (List.map fun durable =>
        (durable.nodeId, durable.lastIpAddr, durable.lastTransport,
          durable.registryState))
      same
  rw [List.map_map, List.map_map] at parts
  have old := registry_survives_reboot.2 twoNodesBytes twoNodesBytes_wellFormed
  rw [twoNodesBytes_listed] at old
  refine ⟨by decide +kernel, parts.trans ?_, old.trans ?_⟩
  · decide +kernel
  · decide +kernel

end Endap.Registry
