import Endap.Io.BindingStorage

/-!
# Boots

What a boot makes of the tables, phase by phase, and what it makes of them
when all of its writes succeed.  The default inputs are then written before
the record of the inputs is read, so that every boot ends with the default
inputs; the outputs are those of the record, if it is accepted.
-/

namespace Endap.Io

open Endap.Device
open Endap.Library
open Endap.State

/-! ## The tables after each phase -/

theorem BindingWorld.ensureAnalogInputs_tables
    (world : BindingWorld) (outcome : NvsOutcome) :
    (world.ensureAnalogInputs outcome).tables =
      Function.update world.tables .input
        (withAnalogInputs (world.tables .input)) := by
  unfold BindingWorld.ensureAnalogInputs
  dsimp only
  split_ifs
  · rfl
  · rfl

theorem BindingWorld.resolveCrossConflicts_tables
    (world : BindingWorld) (outcomes : BootWrite → NvsOutcome) :
    (world.resolveCrossConflicts outcomes).tables =
      Function.update
        (Function.update world.tables .output
          (Side.resolve .output (world.tables .input) (world.tables .output)))
        .input
        (Side.resolve .input
          (Side.resolve .output (world.tables .input) (world.tables .output))
          (world.tables .input)) := by
  unfold BindingWorld.resolveCrossConflicts
  dsimp only
  split_ifs
  · rfl
  · rfl

/-! ## The defaults -/

/-- The inputs that are bound by default. -/
def defaultInputs : List Binding :=
  withAnalogInputs
    ((Side.defaultProfiles .input).map (Side.defaultEntry .input))

/-- The outputs that are bound by default. -/
def defaultOutputs : List Binding :=
  (Side.defaultProfiles .output).map (Side.defaultEntry .output)

theorem BindingWorld.applyInputDefaults_tables
    (world : BindingWorld) (outcome : NvsOutcome) :
    (world.applyInputDefaults outcome).tables =
      Function.update world.tables .input defaultInputs := by
  unfold BindingWorld.applyInputDefaults
  rw [BindingWorld.ensureAnalogInputs_tables]
  change Function.update (Function.update world.tables .input _) .input _ = _
  rw [Function.update_idem]
  rfl

/-- Both tables at their defaults. -/
def defaultTables : BindingTables
  | .input => defaultInputs
  | .output => defaultOutputs

theorem update_defaults (tables : BindingTables) :
    Function.update (Function.update tables .input defaultInputs) .output
        defaultOutputs =
      defaultTables := by
  funext side
  cases side <;> rfl

theorem ioBindingInit_tables
    (reserved : Int → Bool) (outcomes : BootWrite → NvsOutcome)
    (nvs : Side → Option (List UInt8)) :
    (ioBindingInit reserved outcomes nvs).tables =
      if migrationNeeded (ioBindingAssemble reserved outcomes nvs).tables then
        defaultTables
      else (ioBindingAssemble reserved outcomes nvs).tables := by
  unfold ioBindingInit BindingWorld.validateAndMigrate
  split_ifs
  · change
      Function.update
        (BindingWorld.applyInputDefaults _ _).tables .output defaultOutputs = _
    rw [BindingWorld.applyInputDefaults_tables, update_defaults]
  · rfl

/-! ## Records that are read back -/

theorem Side.read_record (side : Side) (entries : List Binding) :
    (bindingBlobLayout side.maxEntries bindingLayout).read
        (side.record entries) =
      side.blobOf entries :=
  Layout.read_stamp _ _ _

variable {side : Side} {entries : List Binding}

theorem Side.listed_blobOf
    (fits : entries.length ≤ side.maxEntries) :
    (side.blobOf entries).count.toNat = entries.length ∧
    (side.blobOf entries).listed = entries := by
  have small : side.maxEntries = 16 := by
    cases side <;> rfl
  have count : (side.blobOf entries).count.toNat = entries.length := by
    change (UInt16.ofNat entries.length).toNat = entries.length
    rw [UInt16.toNat_ofNat']
    exact Nat.mod_eq_of_lt (by omega)
  refine ⟨count, ?_⟩
  unfold BindingBlob.listed
  rw [count]
  exact Layout.take_ofFn_getD entries Binding.zero fits

theorem Side.loadV3_blobOf
    (reserved : Int → Bool)
    (fits : entries.length ≤ side.maxEntries) :
    side.loadV3 reserved (side.blobOf entries) =
      if side.loadable reserved entries then some entries else none := by
  obtain ⟨count, listed⟩ := Side.listed_blobOf fits
  have header :
      ¬ ((side.blobOf entries).magic ≠ side.magic ∨
      ((side.blobOf entries).version ≠ ioBindingVersion ∧
      (side.blobOf entries).version ≠ ioBindingVersionV3) ∨
      side.maxEntries < (side.blobOf entries).count.toNat) := by
    rintro (magic | version | long)
    · exact magic rfl
    · exact version.1 rfl
    · rw [count] at long
      exact absurd fits (Nat.not_le_of_lt long)
  unfold Side.loadV3
  rw [if_neg header, listed]

theorem Side.record_stamped (side : Side) (entries : List Binding) :
    (side.record entries).length =
        (bindingBlobLayout side.maxEntries bindingLayout).stampedSize ∧
    Layout.Intact ioBindingCrc32
      (bindingBlobLayout side.maxEntries bindingLayout)
      (side.record entries) :=
  ⟨Layout.stamp_length _ _ _, Layout.intact_stamp _ _ _⟩

variable {world : BindingWorld}

theorem BindingWorld.load_record
    (saved : world.nvs side = some (side.record entries))
    (fits : entries.length ≤ side.maxEntries) (reserved : Int → Bool)
    (outcome : NvsOutcome) :
    world.load side reserved outcome =
      if side.loadable reserved entries then world.withTable side entries
      else world := by
  obtain ⟨size, intact⟩ := side.record_stamped entries
  unfold BindingWorld.load
  rw [saved]
  dsimp only
  rw [if_pos size, if_pos intact, Side.read_record,
    Side.loadV3_blobOf reserved fits]
  split_ifs
  · rfl
  · rfl

/-! ## What a load puts into a table -/

/-- The table after a load from a record. -/
def Side.loaded (side : Side) (reserved : Int → Bool)
    (stored : Option (List UInt8)) (entries : List Binding) :
    List Binding :=
  match stored with
  | none => entries
  | some bytes =>
      let v3 := bindingBlobLayout side.maxEntries bindingLayout
      let v2 := bindingBlobLayout side.maxEntries bindingV2Layout
      let v1 := bindingBlobLayout side.maxEntries bindingV1Layout
      if bytes.length = v3.stampedSize then
        if Layout.Intact ioBindingCrc32 v3 bytes then
          (side.loadV3 reserved (v3.read bytes)).getD entries
        else entries
      else if bytes.length = v2.stampedSize then
        if Layout.Intact ioBindingCrc32 v2 bytes then
          (side.loadV2 reserved (v2.read bytes)).2
        else entries
      else if bytes.length = v1.stampedSize then
        if Layout.Intact ioBindingCrc32 v1 bytes then
          (side.loadV1 (v1.read bytes)).2
        else entries
      else entries

/-- A load puts the table into place and writes it at most in the present
version. -/
theorem BindingWorld.load_eq
    (world : BindingWorld) (side : Side) (reserved : Int → Bool)
    (outcome : NvsOutcome) :
    let entries := side.loaded reserved (world.nvs side) (world.tables side)
    world.load side reserved outcome = world.withTable side entries ∨
    world.load side reserved outcome =
      (world.withTable side entries).persist side outcome := by
  have unchanged : world.withTable side (world.tables side) = world := by
    unfold BindingWorld.withTable
    rw [Function.update_eq_self]
  have migrated (loaded : Bool × List Binding) :
      world.migrate side loaded outcome = world.withTable side loaded.2 ∨
      world.migrate side loaded outcome =
        (world.withTable side loaded.2).persist side outcome := by
    unfold BindingWorld.migrate
    dsimp only
    split_ifs
    · exact .inr rfl
    · exact .inl rfl
  unfold Side.loaded BindingWorld.load
  cases world.nvs side with
  | none => exact .inl unchanged.symm
  | some bytes =>
      dsimp only
      split_ifs
      · left
        cases
          side.loadV3 reserved
            ((bindingBlobLayout side.maxEntries bindingLayout).read
              bytes) with
        | none => exact unchanged.symm
        | some entries => rfl
      · exact .inl unchanged.symm
      · exact migrated _
      · exact .inl unchanged.symm
      · exact migrated _
      · exact .inl unchanged.symm
      · exact .inl unchanged.symm

theorem BindingWorld.load_tables
    (world : BindingWorld) (side : Side) (reserved : Int → Bool)
    (outcome : NvsOutcome) :
    (world.load side reserved outcome).tables =
      Function.update world.tables side
        (side.loaded reserved (world.nvs side) (world.tables side)) := by
  rcases world.load_eq side reserved outcome with same | written
  · rw [same]
    rfl
  · rw [written]
    rfl

theorem Side.loaded_record
    (fits : entries.length ≤ side.maxEntries) (reserved : Int → Bool)
    (before : List Binding) :
    side.loaded reserved (some (side.record entries)) before =
      if side.loadable reserved entries then entries else before := by
  obtain ⟨size, intact⟩ := side.record_stamped entries
  unfold Side.loaded
  dsimp only
  rw [if_pos size, if_pos intact, Side.read_record,
    Side.loadV3_blobOf reserved fits]
  split_ifs
  · rfl
  · rfl

/-! ## The default inputs -/

theorem Side.putBack_eq
    {entry : Binding}
    (gpio : (side.putBack entry).gpio = entry.gpio)
    (endpoint : (side.putBack entry).endpointIndex = entry.endpointIndex) :
    side.putBack entry = entry := by
  unfold Side.putBack at gpio endpoint ⊢
  cases found : side.findProfile entry.id with
  | none => rfl
  | some profile =>
      rw [found] at gpio endpoint
      cases entry
      dsimp only at gpio endpoint ⊢
      rw [gpio] at endpoint ⊢
      rw [endpoint]

theorem defaultTables_putBack
    {entry : Binding} (member : entry ∈ defaultTables side)
    (digital : entry.backend.toUInt32 = backendGpio) :
    side.putBack entry = entry := by
  have all :
      ((defaultTables side).all fun entry =>
        decide
          (entry.backend.toUInt32 = backendGpio →
          (side.putBack entry).gpio = entry.gpio ∧
          (side.putBack entry).endpointIndex =
            entry.endpointIndex)) = true := by
    cases side <;> decide +kernel
  obtain ⟨gpio, endpoint⟩ :=
    of_decide_eq_true (List.all_eq_true.mp all entry member) digital
  exact Side.putBack_eq gpio endpoint

theorem resolve_defaultTables (side : Side) (others : List Binding) :
    side.resolve others (defaultTables side) = defaultTables side := by
  unfold Side.resolve
  rw [List.map_congr_left (g := id), List.map_id]
  intro entry member
  split_ifs with conflicted
  · rw [Side.conflicted, Bool.and_eq_true, Bool.and_eq_true,
      decide_eq_true_eq] at conflicted
    exact defaultTables_putBack member conflicted.1.2
  · rfl

theorem withAnalogInputs_defaultInputs :
    withAnalogInputs defaultInputs = defaultInputs := by
  have bound :
      (analogSlots.all fun slot =>
        defaultInputs.any fun entry => decide (entry.id = slot.1)) =
        true := by
    decide +kernel
  have kept (slots : List (UInt16 × Int × Int))
      (listed : slots ⊆ analogSlots) :
      slots.foldl ensureAnalogSlot defaultInputs = defaultInputs := by
    induction slots with
    | nil => rfl
    | cons slot rest induction =>
        rw [List.cons_subset] at listed
        have present := List.all_eq_true.mp bound slot listed.1
        have same : ensureAnalogSlot defaultInputs slot = defaultInputs := by
          unfold ensureAnalogSlot
          split
          · rfl
          · split_ifs with unconnected found full
            · rfl
            · rfl
            · rfl
            · exfalso
              apply found
              obtain ⟨entry, member, isSlot⟩ := List.any_eq_true.mp present
              refine List.any_eq_true.mpr ⟨entry, member, ?_⟩
              rw [decide_eq_true_eq] at isSlot ⊢
              exact .inl isSlot
        rw [List.foldl_cons, same]
        exact induction listed.2
  unfold withAnalogInputs
  split_ifs
  · rfl
  · exact kept analogSlots (List.Subset.refl _)

/-! ## Boots whose writes succeed -/

/-- The tables with the default inputs. -/
def withDefaultInputs (outputs : List Binding) : BindingTables
  | .input => defaultInputs
  | .output => outputs

/-- The tables that a boot ends with when its writes succeed, by the record of
the outputs. -/
def bootTables (reserved : Int → Bool) (stored : Option (List UInt8)) :
    BindingTables :=
  let outputs :=
    Side.resolve .output defaultInputs
      (Side.loaded .output reserved stored defaultOutputs)
  if migrationNeeded (withDefaultInputs outputs) then defaultTables
  else withDefaultInputs outputs

theorem BindingWorld.withTable_self
    (same : world.tables side = entries) :
    world.withTable side entries = world := by
  unfold BindingWorld.withTable
  rw [← same, Function.update_eq_self]

theorem BindingWorld.withTable_withTable
    (world : BindingWorld) (side : Side) (first second : List Binding) :
    (world.withTable side first).withTable side second =
      world.withTable side second := by
  unfold BindingWorld.withTable
  rw [Function.update_idem]

/-- The default inputs are new to the six that they start from, and are
written. -/
theorem BindingWorld.applyInputDefaults_eq
    (world : BindingWorld) (outcome : NvsOutcome) :
    world.applyInputDefaults outcome =
      (world.withTable .input defaultInputs).persist .input outcome := by
  have longer :
      (withAnalogInputs
          ((Side.defaultProfiles .input).map
            (Side.defaultEntry .input))).length ≠
        ((Side.defaultProfiles .input).map
          (Side.defaultEntry .input)).length := by
    decide +kernel
  have placed :
      (world.withTable .input
          ((Side.defaultProfiles .input).map
            (Side.defaultEntry .input))).tables .input =
        (Side.defaultProfiles .input).map (Side.defaultEntry .input) :=
    rfl
  unfold BindingWorld.applyInputDefaults BindingWorld.ensureAnalogInputs
  dsimp only
  rw [placed, if_pos longer, BindingWorld.withTable_withTable]
  rfl

theorem BindingWorld.ensureAnalogInputs_defaults
    (defaults : world.tables .input = defaultInputs)
    (outcome : NvsOutcome) :
    world.ensureAnalogInputs outcome = world := by
  unfold BindingWorld.ensureAnalogInputs
  dsimp only
  rw [defaults, withAnalogInputs_defaultInputs, if_neg (not_not.mpr rfl),
    BindingWorld.withTable_self defaults]

theorem BindingWorld.load_defaultInputs
    (defaults : world.tables .input = defaultInputs)
    (saved : world.nvs .input = some (Side.record .input defaultInputs))
    (reserved : Int → Bool) (outcome : NvsOutcome) :
    world.load .input reserved outcome = world := by
  have fits : defaultInputs.length ≤ Side.maxEntries .input := by
    decide +kernel
  rw [BindingWorld.load_record saved fits]
  split_ifs
  · exact BindingWorld.withTable_self defaults
  · rfl

/-- The world between the defaults and the record of the outputs. -/
def BindingWorld.withDefaults (nvs : Side → Option (List UInt8)) :
    BindingWorld where
  tables := defaultTables
  gpioRestartRequired := false
  nvs := Function.update nvs .input (some (Side.record .input defaultInputs))

/-- The record of the inputs is overwritten by the default inputs before it is
read. -/
theorem ioBindingAssemble_committed
    (reserved : Int → Bool) (nvs : Side → Option (List UInt8)) :
    ioBindingAssemble reserved (fun _ => .committed) nvs =
      ((BindingWorld.withDefaults nvs).load .output reserved
        .committed).resolveCrossConflicts fun _ => .committed := by
  have defaults :
      ((BindingWorld.cold nvs).applyInputDefaults
          .committed).applyOutputDefaults =
        BindingWorld.withDefaults nvs := by
    rw [BindingWorld.applyInputDefaults_eq]
    unfold BindingWorld.applyOutputDefaults BindingWorld.persist
      BindingWorld.withTable BindingWorld.withDefaults
    dsimp only
    change
      BindingWorld.mk
        (Function.update (Function.update _ .input defaultInputs) .output
          defaultOutputs) _ _ = _
    rw [update_defaults, Function.update_self]
    rfl
  unfold ioBindingAssemble
  dsimp only
  rw [defaults,
    @BindingWorld.load_defaultInputs (BindingWorld.withDefaults nvs) rfl rfl,
    @BindingWorld.ensureAnalogInputs_defaults
      (BindingWorld.withDefaults nvs) rfl]

theorem ioBindingInit_committed
    (reserved : Int → Bool) (nvs : Side → Option (List UInt8)) :
    (ioBindingInit reserved (fun _ => .committed) nvs).tables =
      bootTables reserved (nvs .output) := by
  have outputs : (BindingWorld.withDefaults nvs).nvs .output = nvs .output :=
    rfl
  have assembled :
      (ioBindingAssemble reserved (fun _ => .committed) nvs).tables =
        withDefaultInputs
          (Side.resolve .output defaultInputs
            (Side.loaded .output reserved (nvs .output)
              defaultOutputs)) := by
    rw [ioBindingAssemble_committed,
      BindingWorld.resolveCrossConflicts_tables, BindingWorld.load_tables,
      outputs]
    funext side
    cases side with
    | input =>
        rw [Function.update_self]
        exact resolve_defaultTables .input _
    | output => rfl
  rw [ioBindingInit_tables, assembled]
  rfl

theorem bootTables_none (reserved : Int → Bool) :
    bootTables reserved none = defaultTables := by
  have outputs :
      Side.resolve .output defaultInputs
          (Side.loaded .output reserved none defaultOutputs) =
        defaultOutputs :=
    resolve_defaultTables .output defaultInputs
  unfold bootTables
  rw [outputs]
  dsimp only
  split_ifs
  · rfl
  · funext side
    cases side <;> rfl

end Endap.Io
