import Endap.Io.BindingTable
import Endap.Library.Layout
import Endap.Library.Run
import Endap.State.Nvs
import Mathlib.Data.List.Perm.Basic

/-!
# Stored bindings

Each table is kept in non-volatile storage as one stamped record, of which
there have been four versions in three layouts.  At boot the tables are filled
with the defaults, the records are laid over them, missing analog inputs are
added, outputs and inputs on one pin are put back on the pins of the profile,
and the result is compared with the defaults; if a default channel is not
where it belongs, both tables are reset.

Adding the analog inputs to the default inputs counts as a change, and a
change is written at once.  This happens before the record of the inputs is
read.
-/

namespace Endap.Io

open Endap.Device
open Endap.Library
open Endap.Library.Run
open Endap.State

/-- The static state of `io_binding.c`, and the flash. -/
structure BindingWorld where
  tables : BindingTables
  gpioRestartRequired : Bool
  nvs : Side → Option (List UInt8)

/-! ## Records -/

/-- `IO_BINDING_MAGIC_INPUTS` and `IO_BINDING_MAGIC_OUTPUTS`. -/
def Side.magic : Side → UInt32
  | .input => 0x4942494E
  | .output => ioBindingMagicOutputs

def ioBindingVersion : UInt16 := 4

def ioBindingVersionV3 : UInt16 := 3

def ioBindingVersionV2 : UInt16 := 2

def ioBindingCrc32 (data : List UInt8) : UInt32 := Layout.crc32 data

/-- The layout of a text. -/
def bindingTextLayout : Layout BindingText :=
  Layout.array ioBindingTextLen Layout.u8

/-- The layout of `io_binding_input_entry_t` and `io_binding_output_entry_t`. -/
def bindingLayout : Layout Binding :=
  (Layout.u16.andThen
    (Layout.i16.andThen
      (Layout.i16.andThen
        (Layout.i16.andThen
          (Layout.u8.andThen
            (Layout.u8.andThen
              (Layout.u16.andThen
                (bindingTextLayout.andThen bindingTextLayout)))))))).retype
    (fun (id, gpio, backendInstance, endpointIndex, backend, channelClass,
        reserved0, name, role) =>
      { id := id
        gpio := gpio
        backendInstance := backendInstance
        endpointIndex := endpointIndex
        backend := backend
        channelClass := channelClass
        reserved0 := reserved0
        name := name
        role := role })
    (fun binding =>
      (binding.id, binding.gpio, binding.backendInstance,
        binding.endpointIndex, binding.backend, binding.channelClass,
        binding.reserved0, binding.name, binding.role))
    (fun _ => rfl)

/-- `io_binding_input_entry_v2_t` and `io_binding_output_entry_v2_t`. -/
structure BindingV2 where
  id : UInt16
  gpio : Int16
  name : BindingText
  role : BindingText

/-- The layout of an entry of version 2. -/
def bindingV2Layout : Layout BindingV2 :=
  (Layout.u16.andThen
    (Layout.i16.andThen (bindingTextLayout.andThen bindingTextLayout))).retype
    (fun (id, gpio, name, role) =>
      { id := id, gpio := gpio, name := name, role := role })
    (fun binding =>
      (binding.id, binding.gpio, binding.name, binding.role))
    (fun _ => rfl)

/-- `io_binding_input_entry_v1_t` and `io_binding_output_entry_v1_t`. -/
structure BindingV1 where
  id : UInt16
  name : BindingText
  role : BindingText

/-- The layout of an entry of version 1. -/
def bindingV1Layout : Layout BindingV1 :=
  (Layout.u16.andThen
    (bindingTextLayout.andThen bindingTextLayout)).retype
    (fun (id, name, role) => { id := id, name := name, role := role })
    (fun binding => (binding.id, binding.name, binding.role))
    (fun _ => rfl)

/-- A blob of any version before its checksum. -/
structure BindingBlob (slots : Nat) (Entry : Type) where
  magic : UInt32
  version : UInt16
  count : UInt16
  entries : Fin slots → Entry

/-- The layout of a blob before the checksum. -/
def bindingBlobLayout (slots : Nat) {Entry : Type} (entry : Layout Entry) :
    Layout (BindingBlob slots Entry) :=
  (Layout.u32.andThen
    (Layout.u16.andThen (Layout.u16.andThen (Layout.array slots entry)))).retype
    (fun (magic, version, count, entries) =>
      { magic := magic
        version := version
        count := count
        entries := entries })
    (fun blob => (blob.magic, blob.version, blob.count, blob.entries))
    (fun _ => rfl)

/-- The sizes by which a load tells the layouts apart. -/
example :
    [(bindingBlobLayout 16 bindingLayout).stampedSize,
        (bindingBlobLayout 16 bindingV2Layout).stampedSize,
        (bindingBlobLayout 16 bindingV1Layout).stampedSize] =
      [972, 844, 812] := by
  decide

/-- The entries that a blob lists. -/
def BindingBlob.listed {slots : Nat} {Entry : Type}
    (blob : BindingBlob slots Entry) : List Entry :=
  (List.ofFn blob.entries).take blob.count.toNat

/-- An entry after `memset`. -/
def Binding.zero : Binding where
  id := 0
  gpio := 0
  backendInstance := 0
  endpointIndex := 0
  backend := 0
  channelClass := 0
  reserved0 := 0
  name := fun _ => 0
  role := fun _ => 0

/-- The blob of a table. -/
def Side.blobOf (side : Side) (entries : List Binding) :
    BindingBlob side.maxEntries Binding where
  magic := side.magic
  version := ioBindingVersion
  count := UInt16.ofNat entries.length
  entries := fun index => entries[index.val]?.getD Binding.zero

/-- The record of a table. -/
def Side.record (side : Side) (entries : List Binding) : List UInt8 :=
  Layout.stamp ioBindingCrc32
    (bindingBlobLayout side.maxEntries bindingLayout) (side.blobOf entries)

/-- `io_binding_persist_inputs` and `io_binding_persist_outputs`. -/
def BindingWorld.persist (world : BindingWorld) (side : Side)
    (outcome : NvsOutcome) : BindingWorld :=
  { world with
    nvs :=
      Function.update world.nvs side
        (nvsWrite outcome (world.nvs side)
          (some (side.record (world.tables side)))) }

/-- A table is replaced. -/
def BindingWorld.withTable (world : BindingWorld) (side : Side)
    (entries : List Binding) : BindingWorld :=
  { world with tables := Function.update world.tables side entries }

/-! ## Loading -/

/-- The address of an entry in a record is valid; a channel of the chip that is
not connected is. -/
def Side.storedValid (side : Side) (reserved : Int → Bool)
    (entry : Binding) : Bool :=
  if entry.backend.toUInt32 = backendGpio ∧
      entry.gpio.toInt = gpioNumNc then
    true
  else side.addressValid reserved entry.gpio.toInt entry.address

/-- Two entries of a record have the same channel, or the same address and an
endpoint. -/
def Binding.clashes (entry other : Binding) : Bool :=
  other.id = entry.id ∨
  other.address = entry.address ∧ entry.endpointIndex.toInt ≠ gpioNumNc

/-- `io_binding_input_blob_has_duplicate` and
`io_binding_output_blob_has_duplicate`. -/
def blobHasDuplicate (entries : List Binding) (entry : Binding)
    (index : Nat) : Bool :=
  entries.zipIdx.any fun (other, position) =>
    position ≠ index && entry.clashes other

/-- The loop of `io_binding_load_inputs_v3` and `io_binding_load_outputs_v3`. -/
def Side.loadable (side : Side) (reserved : Int → Bool)
    (entries : List Binding) : Bool :=
  entries.zipIdx.all fun (entry, index) =>
    (side.findProfile entry.id).isSome && side.storedValid reserved entry &&
      !blobHasDuplicate entries entry index

/-- `io_binding_load_inputs_v3` and `io_binding_load_outputs_v3`. -/
def Side.loadV3 (side : Side) (reserved : Int → Bool)
    (blob : BindingBlob side.maxEntries Binding) : Option (List Binding) :=
  if blob.magic ≠ side.magic ∨
      (blob.version ≠ ioBindingVersion ∧ blob.version ≠ ioBindingVersionV3) ∨
      side.maxEntries < blob.count.toNat then
    none
  else if side.loadable reserved blob.listed then some blob.listed
  else none

/-- The pin of an entry of version 2 is accepted; only an input may be not
connected. -/
def Side.acceptsV2 (side : Side) (reserved : Int → Bool) (gpio : Int) :
    Bool :=
  match side with
  | .input => gpio = gpioNumNc ∨ side.gpioAllowed reserved gpio = true
  | .output => side.gpioAllowed reserved gpio

/-- The loop of `io_binding_load_inputs_v2` and `io_binding_load_outputs_v2`:
the entries that were prepared, also when it gives up. -/
def Side.migrateV2 (side : Side) (reserved : Int → Bool) :
    List BindingV2 → Bool × List Binding
  | [] => (true, [])
  | stored :: rest =>
      match side.findProfile stored.id with
      | none => (false, [])
      | some profile =>
          if side.acceptsV2 reserved stored.gpio.toInt = false then
            (false, [])
          else
            let entry :=
              side.prepareEntry (List.ofFn stored.name)
                (List.ofFn stored.role) stored.gpio.toInt
                (.pin stored.gpio.toInt) profile
            let later := side.migrateV2 reserved rest
            (later.1, entry :: later.2)

/-- The loop of `io_binding_load_inputs_v1` and `io_binding_load_outputs_v1`. -/
def Side.migrateV1 (side : Side) : List BindingV1 → Bool × List Binding
  | [] => (true, [])
  | stored :: rest =>
      match side.findProfile stored.id with
      | none => (false, [])
      | some profile =>
          let entry :=
            side.prepareEntry (List.ofFn stored.name)
              (List.ofFn stored.role) profile.gpio (.pin profile.gpio)
              profile
          let later := side.migrateV1 rest
          (later.1, entry :: later.2)

/-- `io_binding_load_inputs_v2` and `io_binding_load_outputs_v2`. -/
def Side.loadV2 (side : Side) (reserved : Int → Bool)
    (blob : BindingBlob side.maxEntries BindingV2) :
    Bool × List Binding :=
  if blob.magic ≠ side.magic ∨ blob.version ≠ ioBindingVersionV2 ∨
      side.maxEntries < blob.count.toNat then
    (false, [])
  else side.migrateV2 reserved blob.listed

/-- `io_binding_load_inputs_v1` and `io_binding_load_outputs_v1`. -/
def Side.loadV1 (side : Side)
    (blob : BindingBlob side.maxEntries BindingV1) :
    Bool × List Binding :=
  if blob.magic ≠ side.magic ∨ blob.version ≠ ioBindingVersionV1 ∨
      side.maxEntries < blob.count.toNat then
    (false, [])
  else side.migrateV1 blob.listed

/-- A migrated table, written in the present version if the load went
through. -/
def BindingWorld.migrate (world : BindingWorld) (side : Side)
    (loaded : Bool × List Binding) (outcome : NvsOutcome) : BindingWorld :=
  let placed := world.withTable side loaded.2
  if loaded.1 then placed.persist side outcome else placed

/-- `io_binding_load_inputs` and `io_binding_load_outputs`. -/
def BindingWorld.load (world : BindingWorld) (side : Side)
    (reserved : Int → Bool) (outcome : NvsOutcome) : BindingWorld :=
  match world.nvs side with
  | none => world
  | some bytes =>
      let v3 := bindingBlobLayout side.maxEntries bindingLayout
      let v2 := bindingBlobLayout side.maxEntries bindingV2Layout
      let v1 := bindingBlobLayout side.maxEntries bindingV1Layout
      if bytes.length = v3.stampedSize then
        if Layout.Intact ioBindingCrc32 v3 bytes then
          match side.loadV3 reserved (v3.read bytes) with
          | none => world
          | some entries => world.withTable side entries
        else world
      else if bytes.length = v2.stampedSize then
        if Layout.Intact ioBindingCrc32 v2 bytes then
          world.migrate side (side.loadV2 reserved (v2.read bytes)) outcome
        else world
      else if bytes.length = v1.stampedSize then
        if Layout.Intact ioBindingCrc32 v1 bytes then
          world.migrate side (side.loadV1 (v1.read bytes)) outcome
        else world
      else world

/-! ## Defaults -/

/-- The binding of a channel by default. -/
def Side.defaultEntry (side : Side) (profile : ChannelProfile) : Binding :=
  side.prepareEntry (textBytes profile.name) (textBytes side.defaultRole)
    profile.gpio
    (match side, analogEndpoint profile.gpio with
      | .input, some endpoint =>
          { backend := backendAdcNative
            backendInstance := 0
            endpointIndex := endpoint }
      | _, _ => .pin profile.gpio)
    profile

/-- The loop of `io_binding_ensure_analog_inputs`. -/
def ensureAnalogSlot (entries : List Binding) (slot : UInt16 × Int × Int) :
    List Binding :=
  match Side.findProfile .input slot.1 with
  | none => entries
  | some profile =>
      if profile.gpio = gpioNumNc then entries
      else if entries.any fun entry =>
          decide
            (entry.id = slot.1 ∨
            entry.backend.toUInt32 = backendGpio ∧
            entry.gpio.toInt = slot.2.1) then
        entries
      else if Side.maxEntries .input ≤ entries.length then entries
      else
        entries ++
          [Side.prepareEntry .input (textBytes profile.name)
            (textBytes (Side.defaultRole .input)) slot.2.1
            { backend := backendAdcNative
              backendInstance := 0
              endpointIndex := slot.2.2 }
            profile]

/-- The inputs with the analog ones. -/
def withAnalogInputs (entries : List Binding) : List Binding :=
  if Side.maxEntries .input ≤ entries.length then entries
  else analogSlots.foldl ensureAnalogSlot entries

/-- `io_binding_ensure_analog_inputs`; a slot that was added makes the table
longer. -/
def BindingWorld.ensureAnalogInputs (world : BindingWorld)
    (outcome : NvsOutcome) : BindingWorld :=
  let completed := withAnalogInputs (world.tables .input)
  let placed := world.withTable .input completed
  if completed.length ≠ (world.tables .input).length then
    placed.persist .input outcome
  else placed

/-- `io_binding_apply_input_defaults`. -/
def BindingWorld.applyInputDefaults (world : BindingWorld)
    (outcome : NvsOutcome) : BindingWorld :=
  (world.withTable .input
    ((Side.defaultProfiles .input).map
      (Side.defaultEntry .input))).ensureAnalogInputs outcome

/-- `io_binding_apply_output_defaults`. -/
def BindingWorld.applyOutputDefaults (world : BindingWorld) : BindingWorld :=
  world.withTable .output
    ((Side.defaultProfiles .output).map (Side.defaultEntry .output))

/-! ## Conflicts after a load -/

/-- A channel of the chip is on a pin that the other table uses. -/
def Side.conflicted (side : Side) (others : List Binding)
    (entry : Binding) : Bool :=
  (side.findProfile entry.id).isSome &&
    entry.backend.toUInt32 = backendGpio &&
    addressInUse others (.pin entry.gpio.toInt) 0

/-- A channel that is put back on the pin of its profile. -/
def Side.putBack (side : Side) (entry : Binding) : Binding :=
  match side.findProfile entry.id with
  | none => entry
  | some profile =>
      { entry with
        gpio := Int16.ofInt profile.gpio
        endpointIndex := Int16.ofInt profile.gpio }

/-- A loop of `io_binding_resolve_cross_conflicts_after_load`. -/
def Side.resolve (side : Side) (others entries : List Binding) : List Binding :=
  entries.map fun entry =>
    if side.conflicted others entry then side.putBack entry else entry

/-- The writes of `io_binding_init`, each of which may fail. -/
inductive BootWrite where
  | defaultInputs
  | migratedInputs
  | analogInputs
  | migratedOutputs
  | resolvedInputs
  | resolvedOutputs
  | resetDefaults
  | resetInputs
  | resetOutputs

/-- `io_binding_resolve_cross_conflicts_after_load`. -/
def BindingWorld.resolveCrossConflicts (world : BindingWorld)
    (outcomes : BootWrite → NvsOutcome) : BindingWorld :=
  let outputs :=
    Side.resolve .output (world.tables .input) (world.tables .output)
  let inputs := Side.resolve .input outputs (world.tables .input)
  let resolved := (world.withTable .output outputs).withTable .input inputs
  if (world.tables .output).any
        (Side.conflicted .output (world.tables .input)) ||
      (world.tables .input).any (Side.conflicted .input outputs) then
    (resolved.persist .input (outcomes .resolvedInputs)).persist .output
      (outcomes .resolvedOutputs)
  else resolved

/-! ## Comparison with the defaults -/

/-- A default channel is missing or not where it belongs. -/
def misplaced (entries : List Binding) (profile : ChannelProfile) : Bool :=
  match entries.find? fun entry => entry.id = profile.id with
  | none => true
  | some entry =>
      entry.backend.toUInt32 ≠ backendGpio ∨
      entry.gpio ≠ Int16.ofInt profile.gpio

/-- A channel of the chip on a pin. -/
def Binding.onPin (entry : Binding) (gpio : Int) : Bool :=
  entry.backend.toUInt32 = backendGpio ∧ entry.gpio.toInt = gpio

/-- `migration_needed` of `io_binding_validate_and_migrate_nvs`. -/
def migrationNeeded (tables : BindingTables) : Bool :=
  (tables .input).length < (Side.defaultProfiles .input).length ||
    (tables .output).length < (Side.defaultProfiles .output).length ||
    (Side.defaultProfiles .input).any (misplaced (tables .input)) ||
    (Side.defaultProfiles .output).any (misplaced (tables .output)) ||
    ((tables .input).any fun entry =>
      entry.onPin 33 ||
        (tables .output).any fun other =>
          entry.onPin other.gpio.toInt && other.onPin other.gpio.toInt &&
            entry.gpio.toInt ≠ gpioNumNc) ||
    (tables .output).any fun entry => entry.onPin 26

/-- `io_binding_validate_and_migrate_nvs`. -/
def BindingWorld.validateAndMigrate (world : BindingWorld)
    (outcomes : BootWrite → NvsOutcome) : BindingWorld :=
  if migrationNeeded world.tables then
    (((world.applyInputDefaults
      (outcomes .resetDefaults)).applyOutputDefaults).persist .input
        (outcomes .resetInputs)).persist .output (outcomes .resetOutputs)
  else world

/-! ## Boot -/

/-- The world before `io_binding_init`. -/
def BindingWorld.cold (nvs : Side → Option (List UInt8)) : BindingWorld where
  tables := fun _ => []
  gpioRestartRequired := false
  nvs := nvs

/-- `io_binding_init` before the comparison with the defaults. -/
def ioBindingAssemble (reserved : Int → Bool)
    (outcomes : BootWrite → NvsOutcome)
    (nvs : Side → Option (List UInt8)) : BindingWorld :=
  let defaults :=
    ((BindingWorld.cold nvs).applyInputDefaults
      (outcomes .defaultInputs)).applyOutputDefaults
  let inputs :=
    (defaults.load .input reserved
      (outcomes .migratedInputs)).ensureAnalogInputs (outcomes .analogInputs)
  (inputs.load .output reserved
    (outcomes .migratedOutputs)).resolveCrossConflicts outcomes

def ioBindingInit (reserved : Int → Bool)
    (outcomes : BootWrite → NvsOutcome)
    (nvs : Side → Option (List UInt8)) : BindingWorld :=
  (ioBindingAssemble reserved outcomes nvs).validateAndMigrate outcomes

/-! ## Requests -/

/-- The calls that change the bindings. -/
inductive BindingRequest where
  | add (side : Side) (arguments : BindingArguments) (outcome : NvsOutcome)
  | set (side : Side) (arguments : BindingArguments) (outcome : NvsOutcome)
  | remove (side : Side) (id : UInt16) (outcome : NvsOutcome)
  | reset (side : Side) (id : UInt16) (outcome : NvsOutcome)

/-- `io_binding_add_input_ex` and `io_binding_add_output_ex`. -/
def BindingWorld.add (world : BindingWorld) (side : Side)
    (reserved : Int → Bool) (arguments : BindingArguments)
    (outcome : NvsOutcome) : BindingWorld × BindingResult :=
  match side.placeNew (world.tables side) arguments with
  | .error result => (world, result)
  | .ok placement =>
      match
        side.validateAddress reserved world.tables arguments.id
          placement.gpio placement.address with
      | .ok =>
          let entry :=
            side.prepareEntry arguments.name arguments.role placement.gpio
              placement.address placement.profile
          let placed := world.withTable side (world.tables side ++ [entry])
          ({ placed with gpioRestartRequired := true }.persist side outcome,
            .ok)
      | result => (world, result)

/-- The entry that a function which sets a binding leaves. -/
def Side.overwrite (side : Side) (entry : Binding)
    (arguments : BindingArguments) (placement : Placement) : Binding :=
  { side.prepareEntry arguments.name arguments.role placement.gpio
      placement.address placement.profile with
    id := entry.id
    reserved0 := entry.reserved0 }

/-- A binding keeps its pin and its address. -/
def Binding.samePlace (entry other : Binding) : Bool :=
  entry.gpio = other.gpio ∧ entry.backend = other.backend ∧
  entry.backendInstance = other.backendInstance ∧
  entry.endpointIndex = other.endpointIndex

/-- `io_binding_set_input_ex` and `io_binding_set_output_ex`. -/
def BindingWorld.set (world : BindingWorld) (side : Side)
    (reserved : Int → Bool) (arguments : BindingArguments)
    (outcome : NvsOutcome) : BindingWorld × BindingResult :=
  match
    (world.tables side).findIdx? fun entry => entry.id = arguments.id with
  | none => (world, .notFound)
  | some index =>
      match (world.tables side)[index]?, side.findProfile arguments.id with
      | some entry, some profile =>
          match side.placeOver entry profile arguments with
          | .error result => (world, result)
          | .ok placement =>
              match
                side.validateAddress reserved world.tables arguments.id
                  placement.gpio placement.address with
              | .ok =>
                  let changed := side.overwrite entry arguments placement
                  let placed :=
                    world.withTable side ((world.tables side).set index changed)
                  ({ placed with
                      gpioRestartRequired :=
                        world.gpioRestartRequired ||
                          !entry.samePlace changed }.persist side outcome,
                    .ok)
              | result => (world, result)
      | _, _ => (world, .notFound)

/-- `io_binding_remove_input` and `io_binding_remove_output`. -/
def BindingWorld.remove (world : BindingWorld) (side : Side) (id : UInt16)
    (outcome : NvsOutcome) : BindingWorld × BindingResult :=
  if side.isDefaultId id then (world, .protectedChannel)
  else
    match (world.tables side).findIdx? fun entry => entry.id = id with
    | none => (world, .notFound)
    | some index =>
        let removed := world.withTable side ((world.tables side).eraseIdx index)
        ({ removed with gpioRestartRequired := true }.persist side outcome, .ok)

/-- The arguments with which `io_binding_reset_input` and
`io_binding_reset_output` set a binding. -/
def Side.resetArguments (side : Side) (profile : ChannelProfile) :
    BindingArguments where
  id := profile.id
  name := textBytes profile.name
  role := textBytes side.defaultRole
  backend := backendGpio
  gpio := profile.gpio
  backendInstance := 0
  endpointIndex := profile.gpio

/-- `io_binding_reset_input` and `io_binding_reset_output`. -/
def BindingWorld.reset (world : BindingWorld) (side : Side)
    (reserved : Int → Bool) (id : UInt16) (outcome : NvsOutcome) :
    BindingWorld × BindingResult :=
  match side.findProfile id with
  | none => (world, .notFound)
  | some profile =>
      world.set side reserved (side.resetArguments profile) outcome

/-- One call. -/
def bindingStep (reserved : Int → Bool) (world : BindingWorld) :
    BindingRequest → BindingWorld × BindingResult
  | .add side arguments outcome => world.add side reserved arguments outcome
  | .set side arguments outcome => world.set side reserved arguments outcome
  | .remove side id outcome => world.remove side id outcome
  | .reset side id outcome => world.reset side reserved id outcome

/-! ## What a call does -/

/-- The outcome of the write that a call makes. -/
def BindingRequest.outcome : BindingRequest → NvsOutcome
  | .add _ _ outcome => outcome
  | .set _ _ outcome => outcome
  | .remove _ _ outcome => outcome
  | .reset _ _ outcome => outcome

/-- What a request asks to bind: the entry, the other entries of its table,
and the table with the entry in place. -/
structure BindingTarget where
  side : Side
  id : UInt16
  placement : Placement
  entry : Binding
  others : List Binding
  after : List Binding

/-- What a request that sets a binding asks for. -/
def Side.setTarget (side : Side) (tables : BindingTables)
    (arguments : BindingArguments) : Option BindingTarget :=
  match
    (tables side).findIdx? fun entry => entry.id = arguments.id with
  | none => none
  | some index =>
      match (tables side)[index]?, side.findProfile arguments.id with
      | some entry, some profile =>
          match side.placeOver entry profile arguments with
          | .error _ => none
          | .ok placement =>
              some
                { side := side
                  id := arguments.id
                  placement := placement
                  entry := side.overwrite entry arguments placement
                  others := (tables side).eraseIdx index
                  after :=
                    (tables side).set index
                      (side.overwrite entry arguments placement) }
      | _, _ => none

/-- What a request that adds a binding asks for. -/
def Side.addTarget (side : Side) (tables : BindingTables)
    (arguments : BindingArguments) : Option BindingTarget :=
  match side.placeNew (tables side) arguments with
  | .error _ => none
  | .ok placement =>
      let entry :=
        side.prepareEntry arguments.name arguments.role placement.gpio
          placement.address placement.profile
      some
        { side := side
          id := arguments.id
          placement := placement
          entry := entry
          others := tables side
          after := tables side ++ [entry] }

/-- What a request asks to bind, if it passes all checks but that of the
address. -/
def BindingRequest.target? (tables : BindingTables) :
    BindingRequest → Option BindingTarget
  | .add side arguments _ => side.addTarget tables arguments
  | .set side arguments _ => side.setTarget tables arguments
  | .remove _ _ _ => none
  | .reset side id _ =>
      (side.findProfile id).bind fun profile =>
        side.setTarget tables (side.resetArguments profile)

/-- The check of the address that a target is asked for. -/
def BindingTarget.check (target : BindingTarget) (reserved : Int → Bool)
    (tables : BindingTables) : BindingResult :=
  target.side.validateAddress reserved tables target.id
    target.placement.gpio target.placement.address

/-- A table is replaced and written. -/
def BindingWorld.write (world : BindingWorld) (side : Side)
    (entries : List Binding) (restart : Bool) (outcome : NvsOutcome) :
    BindingWorld :=
  ({ world.withTable side entries with
      gpioRestartRequired := restart }).persist side outcome

theorem BindingWorld.add_cases
    (world : BindingWorld) (side : Side) (reserved : Int → Bool)
    (arguments : BindingArguments) (outcome : NvsOutcome) :
    match side.addTarget world.tables arguments with
    | none => (world.add side reserved arguments outcome).1 = world
    | some target =>
        (target.check reserved world.tables = .ok →
        ∃ restart,
          (world.add side reserved arguments outcome).1 =
            world.write target.side target.after restart outcome) ∧
        (target.check reserved world.tables ≠ .ok →
        (world.add side reserved arguments outcome).1 = world) := by
  unfold Side.addTarget BindingWorld.add
  cases placed : side.placeNew (world.tables side) arguments with
  | error result => rfl
  | ok placement =>
      dsimp only [BindingTarget.check]
      constructor
      · intro valid
        rw [valid]
        exact ⟨true, rfl⟩
      · intro invalid
        split
        · next isOk => exact absurd isOk invalid
        · rfl

theorem BindingWorld.set_cases
    (world : BindingWorld) (side : Side) (reserved : Int → Bool)
    (arguments : BindingArguments) (outcome : NvsOutcome) :
    match side.setTarget world.tables arguments with
    | none => (world.set side reserved arguments outcome).1 = world
    | some target =>
        (target.check reserved world.tables = .ok →
        ∃ restart,
          (world.set side reserved arguments outcome).1 =
            world.write target.side target.after restart outcome) ∧
        (target.check reserved world.tables ≠ .ok →
        (world.set side reserved arguments outcome).1 = world) := by
  unfold Side.setTarget BindingWorld.set
  cases (world.tables side).findIdx? fun entry =>
      decide (entry.id = arguments.id) with
  | none => rfl
  | some index =>
      dsimp only
      cases (world.tables side)[index]? with
      | none => rfl
      | some entry =>
          cases side.findProfile arguments.id with
          | none => rfl
          | some profile =>
              dsimp only
              cases side.placeOver entry profile arguments with
              | error result => rfl
              | ok placement =>
                  dsimp only [BindingTarget.check]
                  constructor
                  · intro valid
                    rw [valid]
                    exact ⟨_, rfl⟩
                  · intro invalid
                    split
                    · next isOk => exact absurd isOk invalid
                    · rfl

variable {request : BindingRequest} {target : BindingTarget}

theorem bindingStep_of_target
    (reserved : Int → Bool) {world : BindingWorld}
    (asked : request.target? world.tables = some target) :
    (target.check reserved world.tables = .ok →
    ∃ restart,
      (bindingStep reserved world request).1 =
        world.write target.side target.after restart request.outcome) ∧
    (target.check reserved world.tables ≠ .ok →
    (bindingStep reserved world request).1 = world) := by
  cases request with
  | add side arguments outcome =>
      have cases := world.add_cases side reserved arguments outcome
      rw [show side.addTarget world.tables arguments = some target from asked]
        at cases
      exact cases
  | set side arguments outcome =>
      have cases := world.set_cases side reserved arguments outcome
      rw [show side.setTarget world.tables arguments = some target from asked]
        at cases
      exact cases
  | remove side id outcome => cases asked
  | reset side id outcome =>
      obtain ⟨profile, found, asked⟩ := Option.bind_eq_some_iff.mp asked
      have cases :=
        world.set_cases side reserved (side.resetArguments profile) outcome
      have calls :
          bindingStep reserved world (.reset side id outcome) =
            world.set side reserved (side.resetArguments profile)
              outcome := by
        change world.reset side reserved id outcome = _
        unfold BindingWorld.reset
        rw [found]
      rw [asked] at cases
      rw [calls]
      exact cases

theorem BindingWorld.remove_cases
    (world : BindingWorld) (side : Side) (id : UInt16)
    (outcome : NvsOutcome) :
    (world.remove side id outcome).1 = world ∨
    ∃ index,
      side.isDefaultId id = false ∧
      (world.tables side).findIdx? (fun entry => entry.id = id) = some index ∧
      (world.remove side id outcome).1 =
        world.write side ((world.tables side).eraseIdx index) true
          outcome := by
  by_cases isDefault : side.isDefaultId id = true
  · left
    unfold BindingWorld.remove
    rw [if_pos isDefault]
  · cases found :
        (world.tables side).findIdx? fun entry => decide (entry.id = id) with
    | none =>
        left
        unfold BindingWorld.remove
        rw [if_neg isDefault, found]
    | some index =>
        right
        refine ⟨index, Bool.eq_false_iff.mpr isDefault, rfl, ?_⟩
        unfold BindingWorld.remove
        rw [if_neg isDefault, found]
        rfl

theorem bindingStep_untargeted
    (reserved : Int → Bool) {world : BindingWorld}
    (asked : request.target? world.tables = none) :
    (bindingStep reserved world request).1 = world ∨
    ∃ side id index,
      request = .remove side id request.outcome ∧
      side.isDefaultId id = false ∧
      (world.tables side).findIdx? (fun entry => entry.id = id) = some index ∧
      (bindingStep reserved world request).1 =
        world.write side ((world.tables side).eraseIdx index) true
          request.outcome := by
  cases request with
  | add side arguments outcome =>
      have cases := world.add_cases side reserved arguments outcome
      rw [show side.addTarget world.tables arguments = none from asked] at cases
      exact .inl cases
  | set side arguments outcome =>
      have cases := world.set_cases side reserved arguments outcome
      rw [show side.setTarget world.tables arguments = none from asked] at cases
      exact .inl cases
  | remove side id outcome =>
      rcases world.remove_cases side id outcome with
        same | ⟨index, notDefault, found, removed⟩
      · exact .inl same
      · exact .inr ⟨side, id, index, rfl, notDefault, found, removed⟩
  | reset side id outcome =>
      left
      change (world.reset side reserved id outcome).1 = world
      unfold BindingWorld.reset
      cases found : side.findProfile id with
      | none => rfl
      | some profile =>
          have cases :=
            world.set_cases side reserved (side.resetArguments profile) outcome
          have untargeted :
              side.setTarget world.tables (side.resetArguments profile) =
                none := by
            have whole :
                ((side.findProfile id).bind fun profile =>
                  side.setTarget world.tables
                    (side.resetArguments profile)) = none := asked
            rw [found] at whole
            exact whole
          rw [untargeted] at cases
          exact cases

/-! ## What a target is made of -/

/-- The shape of what a request asks for. -/
structure BindingTarget.Shaped (target : BindingTarget)
    (tables : BindingTables) : Prop where
  others : target.others.Sublist (tables target.side)
  after : target.after.Perm (target.entry :: target.others)
  gpio : target.entry.gpio = Int16.ofInt target.placement.gpio
  backend : target.entry.backend = target.placement.address.backend.toUInt8
  room :
    (tables target.side).length ≤ target.side.maxEntries →
    target.after.length ≤ target.side.maxEntries

variable {tables : BindingTables}

theorem Side.addTarget_shaped
    {side : Side} {arguments : BindingArguments}
    (asked : side.addTarget tables arguments = some target) :
    target.Shaped tables := by
  unfold Side.addTarget at asked
  cases placed : side.placeNew (tables side) arguments with
  | error result =>
      rw [placed] at asked
      cases asked
  | ok placement =>
      rw [placed] at asked
      cases asked
      have free : (tables side).length < side.maxEntries := by
        unfold Side.placeNew at placed
        split at placed
        · cases placed
        · split_ifs at placed with active full
          all_goals exact Nat.lt_of_not_le full
      exact
        { others := List.Sublist.refl _
          after := List.perm_append_singleton _ _
          gpio := rfl
          backend := rfl
          room := by
            intro _
            rw [List.length_append]
            exact free }

theorem Side.setTarget_shaped
    {side : Side} {arguments : BindingArguments}
    (asked : side.setTarget tables arguments = some target) :
    target.Shaped tables := by
  unfold Side.setTarget at asked
  split at asked
  · cases asked
  · next index _ =>
      split at asked
      · next entry profile held _ =>
          split at asked
          · cases asked
          · cases asked
            have inside : index < (tables side).length :=
              (List.getElem?_eq_some_iff.mp held).1
            exact
              { others := List.eraseIdx_sublist _ _
                after := List.set_perm_cons_eraseIdx inside _
                gpio := rfl
                backend := rfl
                room := by
                  intro fits
                  rw [List.length_set]
                  exact fits }
      · cases asked

theorem BindingRequest.target_shaped
    (asked : request.target? tables = some target) :
    target.Shaped tables := by
  cases request with
  | add side arguments outcome => exact Side.addTarget_shaped asked
  | set side arguments outcome => exact Side.setTarget_shaped asked
  | remove side id outcome => cases asked
  | reset side id outcome =>
      obtain ⟨_, _, asked⟩ := Option.bind_eq_some_iff.mp asked
      exact Side.setTarget_shaped asked

end Endap.Io
