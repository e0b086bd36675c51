import Endap.Automation.Storage
import Endap.Device.NetworkStorage
import Endap.Failsafe.Storage
import Endap.Io.BindingStorage
import Endap.Library.Digest
import Endap.Pve.Storage
import Endap.State.SnapshotBytes

/-!
# Records damaged in the flash

Five components keep a stamped record: the fail-safe policies, the automation
rules, the network profile, the bindings of either side and the process
variables.  Two of them stamp with the reflected CRC-32, the others with a
hash that multiplies by a prime; both see every change of one byte.

A record that was written and lost one byte is refused by its load, which
leaves everything as it was; the process variables, which have a record each,
all go back to their defaults when one of the records is refused.

The checksum of the snapshot does not cover its header.  A damaged header is
told by its number of entries, which must fit the length of the record; that
length has sixteen bits only, and so a number of entries that is too large by
a multiple of 8192 passes.
-/

namespace Endap.State

open Endap.Library

/-! ## The checksums -/

theorem detects_fnv :
    Detects fun data : List UInt8 =>
      data.foldl
        (fun (crc : UInt32) byte => (crc ^^^ byte.toUInt32) * 16777619)
        2166136261 :=
  (@faithful_multiply 16777619 899433627 rfl).detects 2166136261

theorem detects_failsafeCrc32 : Detects Failsafe.failsafeCrc32 := detects_fnv

theorem detects_automationCrc32 : Detects Automation.automationCrc32 :=
  detects_fnv

theorem detects_snapshotCrc32 : Detects snapshotCrc32 := detects_fnv

theorem detects_pveCrc32 : Detects Pve.pveCrc32 := detects_fnv

theorem detects_deviceProfileCrc32 : Detects Device.deviceProfileCrc32 :=
  Layout.detects_crc32

theorem detects_ioBindingCrc32 : Detects Io.ioBindingCrc32 :=
  Layout.detects_crc32

/-! ## The loads -/

variable {changed : List UInt8} {Medium : Type}

/-- `failsafe_load` of a damaged record of any table. -/
theorem failsafeLoad_damaged
    {table : Failsafe.FailsafeTable}
    (damaged : Damaged (Failsafe.failsafeSave table) changed)
    (failsafe : Failsafe.FailsafeTable) :
    Failsafe.failsafeLoad failsafe (some changed) = (false, failsafe) := by
  rcases Layout.not_intact_of_damaged_stamp detects_failsafeCrc32 damaged
    with ⟨size, broken⟩
  have refused :
      ¬ Failsafe.BlobAccepted Failsafe.failsafePolicyLayout
          Failsafe.failsafeVersion changed :=
    fun accepted => broken accepted.2.2.2
  simp only [Failsafe.failsafeLoad, if_pos size, Failsafe.loadBlob,
    if_neg refused]

/-- `automation_load` of a damaged record of any rules. -/
theorem automationLoad_damaged
    {rules : List (Automation.AutomationNode × Automation.InterlockImage)}
    (damaged : Damaged (Automation.automationRecord rules) changed)
    (outcome : NvsOutcome) {memory : Automation.BootMemory}
    (stored : memory.nvs = some changed) :
    Automation.automationLoad outcome memory = memory := by
  rcases Layout.not_intact_of_damaged_stamp detects_automationCrc32 damaged
    with ⟨size, broken⟩
  have sameSize :
      changed.length = Automation.recordSize Automation.arraysLayout :=
    size
  have refused :
      ¬ Automation.BlobAccepted Automation.arraysLayout
          Automation.automationVersion changed :=
    fun accepted => broken accepted.2.2.2
  simp only [Automation.automationLoad, stored, if_pos sameSize,
    Automation.loadBlob, if_neg refused]

theorem loadBlob_damaged
    {settings : Device.NetworkSettings}
    (damaged :
      Damaged
        (Layout.stamp Device.deviceProfileCrc32 Device.networkBlobV4
          (Device.blobOf settings))
        changed)
    (network : Device.NetworkSettings) :
    Device.loadBlob network changed = network := by
  rcases
    Layout.not_intact_of_damaged_stamp detects_deviceProfileCrc32 damaged
    with ⟨size, broken⟩
  have refused :
      ¬ Device.Genuine Device.networkBlobV4 Device.NetworkBlobV4.header
          Device.networkVersion changed :=
    fun genuine => broken genuine.2
  rw [Device.loadBlob, if_pos size, if_neg refused]

/-- `io_binding_load_inputs` and `io_binding_load_outputs` of a damaged
record of any table. -/
theorem bindingLoad_damaged
    {side : Io.Side} {entries : List Io.Binding}
    (damaged : Damaged (side.record entries) changed)
    {world : Io.BindingWorld} (stored : world.nvs side = some changed)
    (reserved : Int → Bool) (outcome : NvsOutcome) :
    world.load side reserved outcome = world := by
  rcases Layout.not_intact_of_damaged_stamp detects_ioBindingCrc32 damaged
    with ⟨size, broken⟩
  unfold Io.BindingWorld.load
  rw [stored]
  dsimp only
  rw [if_pos size, if_neg broken]

/-! ## The process variables -/

theorem readEntry_damaged
    {config : Pve.PersistedConfig}
    (damaged :
      Damaged (Layout.stamp Pve.pveCrc32 Pve.persistedLayout config) changed) :
    Pve.readEntry (some changed) = none := by
  rcases Layout.not_intact_of_damaged_stamp detects_pveCrc32 damaged with
    ⟨size, broken⟩
  rw [Pve.readEntry, if_neg fun accepted => broken accepted.2]

theorem pveLoadEntry_anyFailed
    (blobs : Fin Pve.maxPveVariables → Option (List UInt8))
    {load : Pve.PveLoad} {id : Fin Pve.maxPveVariables}
    (failed : load.anyFailed = true ∨ Pve.readEntry (blobs id) = none) :
    (Pve.pveLoadEntry blobs load id).anyFailed = true := by
  rw [Pve.pveLoadEntry]
  split
  case h_1 => rfl
  case h_2 stored read =>
    rcases failed with before | missing
    · exact before
    · rw [missing] at read
      cases read

theorem foldl_anyFailed
    (blobs : Fin Pve.maxPveVariables → Option (List UInt8))
    {id : Fin Pve.maxPveVariables} (missing : Pve.readEntry (blobs id) = none)
    {ids : List (Fin Pve.maxPveVariables)} {load : Pve.PveLoad}
    (failed : load.anyFailed = true ∨ id ∈ ids) :
    (ids.foldl (Pve.pveLoadEntry blobs) load).anyFailed = true := by
  induction ids generalizing load with
  | nil => exact failed.resolve_right List.not_mem_nil
  | cons first ids induction =>
      refine induction ?_
      rcases failed with before | member
      · exact .inl (pveLoadEntry_anyFailed blobs (.inl before))
      · rcases List.mem_cons.mp member with here | later
        · subst here
          exact .inl (pveLoadEntry_anyFailed blobs (.inr missing))
        · exact .inr later

/-- `pve_load_config` with one damaged record among any others. -/
theorem pveLoadConfig_damaged
    {config : Pve.PersistedConfig}
    (damaged :
      Damaged (Layout.stamp Pve.pveCrc32 Pve.persistedLayout config) changed)
    {blobs : Fin Pve.maxPveVariables → Option (List UInt8)}
    {id : Fin Pve.maxPveVariables} (stored : blobs id = some changed)
    (world : Pve.PveWorld) :
    (Pve.pveLoadConfig world (some blobs)).pveVariables =
      Pve.pveInitVariables := by
  have missing : Pve.readEntry (blobs id) = none := by
    rw [stored]
    exact readEntry_damaged damaged
  have failed :=
    @foldl_anyFailed blobs id missing _
      { world := world, loadedAny := false, anyFailed := false }
      (.inr (List.mem_finRange id))
  simp only [Pve.pveLoadConfig, failed, true_or, if_true]

/-! ## The snapshot -/

section

variable (store : StateStore) (padding : UInt16 → UInt16)

theorem exact_snapshotHeaderLayout : Layout.Exact snapshotHeaderLayout :=
  (Layout.Exact.u32.andThen
    (Layout.Exact.u16.andThen
      (Layout.Exact.u16.andThen Layout.Exact.u32))).retype
    fun (_, _, _, _) => rfl

theorem snapshotHeaderLayout_read_take (bytes : List UInt8)
    (long : snapshotHeaderLayout.size ≤ bytes.length) :
    snapshotHeaderLayout.read (bytes.take snapshotHeaderLayout.size) =
      snapshotHeaderLayout.read bytes := by
  rcases
    exact_snapshotHeaderLayout (bytes.take snapshotHeaderLayout.size)
      (List.length_take_of_le long) with ⟨header, isHeader⟩
  have whole := snapshotHeaderLayout.read_write header
  conv_rhs => rw [← List.take_append_drop snapshotHeaderLayout.size bytes]
  rw [← isHeader, whole]
  have alone := whole []
  rwa [List.append_nil] at alone

theorem snapshotRecord_read :
    snapshotHeaderLayout.read (snapshotRecord store padding) =
      snapshotHeaderOf store padding := by
  have own := snapshotRecord_header store padding []
  rwa [List.append_nil] at own

theorem snapshotRecord_drop :
    (snapshotRecord store padding).drop snapshotHeaderLayout.size =
      snapshotPayload store padding := by
  have payload := snapshotRecord_payload store padding []
  rwa [List.append_nil, List.append_nil] at payload

theorem snapshotRecord_headerFits :
    snapshotHeaderLayout.size ≤ (snapshotRecord store padding).length := by
  rw [snapshotRecord, List.length_append, snapshotHeaderLayout.write_length]
  exact Nat.le_add_right _ _

theorem damaged_length
    (damaged : Damaged (snapshotRecord store padding) changed) :
    UInt16.ofNat changed.length = snapshotRecordLen store padding := by
  rw [← damaged.length_eq, snapshotRecord_length, UInt16.ofNat_toNat]

theorem refused_of_damaged_payload
    (damaged : Damaged (snapshotRecord store padding) changed)
    (sameHeader :
      (snapshotRecord store padding).take snapshotHeaderLayout.size =
        changed.take snapshotHeaderLayout.size)
    (inPayload :
      Damaged (snapshotPayload store padding)
        (changed.drop snapshotHeaderLayout.size))
    (len : UInt16) :
    ¬ SnapshotAccepts changed len := by
  intro accepts
  have long := snapshotRecord_headerFits store padding
  have header :
      snapshotHeaderLayout.read changed = snapshotHeaderOf store padding := by
    rw [← snapshotRecord_read, ← snapshotHeaderLayout_read_take _ long,
      sameHeader, snapshotHeaderLayout_read_take]
    rwa [← damaged.length_eq]
  have checksum := accepts.checksum
  rw [header, payloadLen_toNat, inPayload.length_eq] at checksum
  refine detects_snapshotCrc32 _ _ inPayload (Eq.symm ?_)
  rwa [← List.take_length (l := changed.drop snapshotHeaderLayout.size)]

/-- Damage in the header is seen as long as the number of entries is not
changed by it. -/
theorem refused_of_damaged_header
    (damaged : Damaged (snapshotRecord store padding) changed)
    (inHeader :
      Damaged
        ((snapshotRecord store padding).take snapshotHeaderLayout.size)
        (changed.take snapshotHeaderLayout.size))
    (samePayload :
      snapshotPayload store padding = changed.drop snapshotHeaderLayout.size)
    (sameCount :
      (snapshotHeaderLayout.read changed).count =
        (snapshotHeaderOf store padding).count)
    (len : UInt16) :
    ¬ SnapshotAccepts changed len := by
  intro accepts
  have long := snapshotRecord_headerFits store padding
  have headers :=
    exact_snapshotHeaderLayout.read_ne inHeader (List.length_take_of_le long)
  rw [snapshotHeaderLayout_read_take _ long,
    snapshotHeaderLayout_read_take _ (damaged.length_eq ▸ long),
    snapshotRecord_read] at headers
  have payload :
      changed.drop snapshotHeaderSize.toNat = snapshotPayload store padding :=
    samePayload.symm
  have checksum := accepts.checksum
  rw [sameCount, payload, payloadLen_toNat, List.take_length] at checksum
  -- All four fields of the header are those of the table after all.
  refine headers ?_
  have magic := accepts.magic
  have version := accepts.version
  revert magic version sameCount checksum
  generalize snapshotHeaderLayout.read changed = header
  rcases header with ⟨magic, version, count, crc⟩
  rintro rfl rfl rfl rfl
  rfl

/-- `snapshot_restore` of a damaged record of any table, unless the number of
entries is beyond what sixteen bits of length can cover. -/
theorem snapshotRestore_damaged
    (damaged : Damaged (snapshotRecord store padding) changed)
    (few : (snapshotHeaderLayout.read changed).count.toNat < snapshotCountLimit)
    (world : SnapshotWorld Medium) :
    world.snapshotRestore changed (UInt16.ofNat changed.length) = world := by
  rw [snapshotRestore_checks, if_neg]
  rw [damaged_length store padding damaged]
  have parts := damaged.split snapshotHeaderLayout.size
  rw [snapshotRecord_drop] at parts
  rcases parts with ⟨inHeader, samePayload⟩ | ⟨sameHeader, inPayload⟩
  · intro accepts
    refine
      refused_of_damaged_header store padding damaged inHeader samePayload ?_
        _ accepts
    have extent := accepts.extent few
    rw [snapshotRecordLen_toNat, ← snapshotHeaderOf_count store padding]
      at extent
    refine UInt16.toNat_inj.mp ?_
    have place :
        12 + 8 * (snapshotHeaderLayout.read changed).count.toNat =
          12 + (snapshotHeaderOf store padding).count.toNat * 8 := extent
    omega
  · exact
      refused_of_damaged_payload store padding damaged sameHeader inPayload _

end

/-! ## All records -/

/--
A record that a component wrote is not loaded once any one of its bytes was
changed, whichever byte and to whatever: the fail-safe policies, the rules,
the network profile and the bindings stay as they were, the process variables
all go back to their defaults, and the state table stays as it was as long as
the changed header of the snapshot does not name 8192 entries or more.
-/
theorem damaged_records_refused
    {Medium : Type} {changed : List UInt8} (outcome : NvsOutcome) :
    (∀ table failsafe : Failsafe.FailsafeTable,
        Damaged (Failsafe.failsafeSave table) changed →
        Failsafe.failsafeLoad failsafe (some changed) = (false, failsafe)) ∧
      (∀ rules (memory : Automation.BootMemory),
        Damaged (Automation.automationRecord rules) changed →
        memory.nvs = some changed →
        Automation.automationLoad outcome memory = memory) ∧
      (∀ settings network : Device.NetworkSettings,
        Damaged
            (Layout.stamp Device.deviceProfileCrc32 Device.networkBlobV4
              (Device.blobOf settings))
            changed →
          Device.loadBlob network changed = network) ∧
      (∀ (side : Io.Side) entries (world : Io.BindingWorld) reserved,
        Damaged (side.record entries) changed →
        world.nvs side = some changed →
        world.load side reserved outcome = world) ∧
      (∀ config blobs id (world : Pve.PveWorld),
        Damaged (Layout.stamp Pve.pveCrc32 Pve.persistedLayout config)
            changed →
          blobs id = some changed →
          (Pve.pveLoadConfig world (some blobs)).pveVariables =
            Pve.pveInitVariables) ∧
      ∀ store padding (world : SnapshotWorld Medium),
        Damaged (snapshotRecord store padding) changed →
        (snapshotHeaderLayout.read changed).count.toNat <
            snapshotCountLimit →
          world.snapshotRestore changed (UInt16.ofNat changed.length) =
            world := by
  refine ⟨?_, ?_, ?_, ?_, ?_, ?_⟩
  · exact fun _ failsafe damaged => failsafeLoad_damaged damaged failsafe
  · exact fun _ _ damaged stored =>
      automationLoad_damaged damaged outcome stored
  · exact fun _ network damaged => loadBlob_damaged damaged network
  · exact fun _ _ _ reserved damaged stored =>
      bindingLoad_damaged damaged stored reserved outcome
  · exact fun _ _ _ world damaged stored =>
      pveLoadConfig_damaged damaged stored world
  · exact fun store padding world damaged few =>
      snapshotRestore_damaged store padding damaged few world

def spoiled (record : List UInt8) : List UInt8 :=
  record.modify 8 fun byte => byte + 1

theorem damaged_spoiled
    {record : List UInt8} (long : 8 < record.length) :
    Damaged record (spoiled record) := by
  refine Damaged.modify ?_ long
  intro byte same
  grind

def storedRule : Automation.AutomationNode where
  input := 10
  output := 100
  threshold := 0
  op := 0
  mode := 0
  durationMs := 0
  onTrue := 1
  onFalse := 0

def bootWithRules (nvs : List UInt8) : Automation.BootMemory where
  nodes := fun _ => .zero
  interlocks := fun _ => .zero
  runtimeNodes := fun _ => .zero
  ruleDiags := fun _ => .zero
  nodeCount := 0
  tickMs := 0
  persistedConfig := false
  nvs := some nvs

def bootWithOutputs (nvs : List UInt8) : Io.BindingWorld where
  tables := fun _ => []
  gpioRestartRequired := false
  nvs
    | .input => none
    | .output => some nvs

/-- One record of every kind, each with one byte changed, is refused. -/
theorem damaged_records_refused_spoiled :
    let policies := spoiled (Failsafe.failsafeSave (.switchOff 101 0))
    let rules := spoiled (Automation.automationRecord [(storedRule, .zero)])
    let network :=
      spoiled
        (Layout.stamp Device.deviceProfileCrc32 Device.networkBlobV4
          (Device.blobOf (Device.buildDefaults ⟨true, true, false⟩)))
    let outputs := spoiled (Io.Side.output.record [.zero, .zero])
    let config :=
      spoiled
        (Layout.stamp Pve.pveCrc32 Pve.persistedLayout
          (.ofVariable (Pve.pveInitVariables 0)))
    let table :=
      spoiled
        (snapshotRecord
          (nvsWorld (fun id => if id = 3 then 7 else 0) none).store
          fun _ => 0)
    Failsafe.failsafeLoad (.switchOff 100 1) (some policies) =
        (false, .switchOff 100 1) ∧
    Automation.automationLoad .committed (bootWithRules rules) =
      bootWithRules rules ∧
    Device.loadBlob (Device.buildDefaults ⟨true, false, false⟩) network =
      Device.buildDefaults ⟨true, false, false⟩ ∧
    (bootWithOutputs outputs).load .output (fun _ => false) .committed =
      bootWithOutputs outputs ∧
    (Pve.pveLoadConfig Pve.bootWorld (some fun _ => some config)).pveVariables =
      Pve.pveInitVariables ∧
    (nvsWorld (fun _ => 5) none).snapshotRestore table
        (UInt16.ofNat table.length) =
      nvsWorld (fun _ => 5) none := by
  intro policies rules network outputs config table
  refine ⟨?_, ?_, ?_, ?_, ?_, ?_⟩
  · have damaged := @damaged_spoiled (Failsafe.failsafeSave (.switchOff 101 0))
      (by decide +kernel)
    exact (@damaged_records_refused Unit _ .committed).1 _ _ damaged
  · have damaged :=
      @damaged_spoiled (Automation.automationRecord [(storedRule, .zero)])
        (by decide +kernel)
    exact (@damaged_records_refused Unit _ .committed).2.1 _ _ damaged rfl
  · have damaged :=
      @damaged_spoiled
        (Layout.stamp Device.deviceProfileCrc32 Device.networkBlobV4
          (Device.blobOf (Device.buildDefaults ⟨true, true, false⟩)))
        (by decide +kernel)
    exact (@damaged_records_refused Unit _ .committed).2.2.1 _ _ damaged
  · have damaged :=
      @damaged_spoiled (Io.Side.output.record [.zero, .zero])
        (by decide +kernel)
    exact
      (@damaged_records_refused Unit _ .committed).2.2.2.1 _ _ _ _ damaged rfl
  · have damaged :=
      @damaged_spoiled
        (Layout.stamp Pve.pveCrc32 Pve.persistedLayout
          (.ofVariable (Pve.pveInitVariables 0)))
        (by decide +kernel)
    exact
      (@damaged_records_refused Unit _ .committed).2.2.2.2.1 _ _ 0 _ damaged rfl
  · have damaged :=
      @damaged_spoiled
        (snapshotRecord
          (nvsWorld (fun id => if id = 3 then 7 else 0) none).store
          fun _ => 0)
        (by decide +kernel)
    exact
      (@damaged_records_refused Unit _ .committed).2.2.2.2.2 _ _ _ damaged
        (by decide +kernel)

end Endap.State
