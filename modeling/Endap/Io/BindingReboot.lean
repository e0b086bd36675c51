import Endap.Io.BindingBoot

/-!
# Bindings over a reboot

What a call has bound should be bound after the next boot.  The calls write
the whole table; what the boot makes of the records is decided by other code.
It begins with the default inputs, completes them, and writes them over the
record of the inputs before it reads it, so that no change of the inputs is
found again.  The outputs are found again if their record is accepted and if
the comparison with the defaults lets them pass.
-/

namespace Endap.Io

open Endap.Device
open Endap.Library
open Endap.Library.Run
open Endap.State

/-! ## What is shown of the bindings -/

/-- The fields of `io_binding_input_view_t` and `io_binding_output_view_t` that
a binding has of its own. -/
structure BindingView where
  id : UInt16
  name : BindingText
  role : BindingText
  backend : UInt8
  backendInstance : Int16
  endpointIndex : Int16
  gpio : Int16

/-- What is shown of a binding. -/
def Binding.view (binding : Binding) : BindingView where
  id := binding.id
  name := binding.name
  role := binding.role
  backend := binding.backend
  backendInstance := binding.backendInstance
  endpointIndex := binding.endpointIndex
  gpio := binding.gpio

/-- Two tables that show the same bindings. -/
def SameBindings (first second : List Binding) : Prop :=
  first.map Binding.view = second.map Binding.view

/-- The next boot finds the bindings again. -/
def SurvivesReboot (reserved : Int → Bool) (world : BindingWorld) : Prop :=
  ∀ side,
    SameBindings
      ((ioBindingInit reserved (fun _ => .committed) world.nvs).tables side)
      (world.tables side)

theorem SameBindings.refl (entries : List Binding) :
    SameBindings entries entries :=
  rfl

variable {side : Side} {entry : Binding}

theorem Side.putBack_of_view
    {other : Binding} (same : entry.view = other.view)
    (stays : side.putBack other = other) :
    side.putBack entry = entry := by
  have id : entry.id = other.id := congrArg BindingView.id same
  have gpio : entry.gpio = other.gpio := congrArg BindingView.gpio same
  have endpoint : entry.endpointIndex = other.endpointIndex :=
    congrArg BindingView.endpointIndex same
  have moved :
      (side.putBack entry).gpio = (side.putBack other).gpio ∧
      (side.putBack entry).endpointIndex =
        (side.putBack other).endpointIndex := by
    unfold Side.putBack
    rw [id]
    cases side.findProfile other.id with
    | none => exact ⟨gpio, endpoint⟩
    | some profile => exact ⟨rfl, rfl⟩
  rw [stays] at moved
  exact Side.putBack_eq (moved.1.trans gpio.symm) (moved.2.trans endpoint.symm)

/-! ## Tables that a conflict does not move -/

variable {others entries : List Binding}

theorem Side.resolve_of_same
    (same : SameBindings (side.resolve others entries) entries) :
    side.resolve others entries = entries := by
  unfold SameBindings Side.resolve at same
  rw [List.map_map, List.map_inj_left] at same
  unfold Side.resolve
  rw [List.map_congr_left (g := id), List.map_id]
  intro entry member
  have shown := same entry member
  rw [Function.comp_apply] at shown
  split_ifs at shown ⊢
  · exact
      Side.putBack_eq (congrArg BindingView.gpio shown)
        (congrArg BindingView.endpointIndex shown)
  · rfl

theorem resolve_of_sameDefaults
    (same : SameBindings entries defaultOutputs)
    (others : List Binding) :
    Side.resolve .output others entries = entries := by
  unfold Side.resolve
  rw [List.map_congr_left (g := id), List.map_id]
  intro entry member
  have listed : entry.view ∈ defaultOutputs.map Binding.view := by
    rw [← same]
    exact List.mem_map_of_mem member
  obtain ⟨output, isDefault, shown⟩ := List.mem_map.mp listed
  split_ifs with conflicted
  · rw [Side.conflicted, Bool.and_eq_true, Bool.and_eq_true,
      decide_eq_true_eq] at conflicted
    have digital : output.backend.toUInt32 = backendGpio := by
      have backend : output.backend = entry.backend :=
        congrArg BindingView.backend shown
      rw [backend]
      exact conflicted.1.2
    exact
      Side.putBack_of_view shown.symm
        (@defaultTables_putBack .output output isDefault digital)
  · rfl

/-- Outputs that are not connected are so by their profile. -/
def Unmoved (outputs : List Binding) : Prop :=
  ∀ entry ∈ outputs,
    entry.onPin gpioNumNc = true → Side.putBack .output entry = entry

theorem onPin_of_defaultInputs
    (member : entry ∈ defaultInputs) {gpio : Int}
    (on : entry.address = .pin gpio) : entry.onPin gpio = true := by
  have all :
      (defaultInputs.all fun entry =>
        decide
          (entry.address = .pin entry.endpointIndex.toInt →
          entry.onPin entry.endpointIndex.toInt = true)) = true := by
    decide +kernel
  have endpoint : entry.endpointIndex.toInt = gpio :=
    congrArg Address.endpointIndex on
  have checked := of_decide_eq_true (List.all_eq_true.mp all entry member)
  rw [endpoint] at checked
  exact checked on

variable {outputs : List Binding}

theorem resolve_of_settled
    (unmoved : Unmoved outputs)
    (settled : migrationNeeded (withDefaultInputs outputs) = false) :
    Side.resolve .output defaultInputs outputs = outputs := by
  unfold Side.resolve
  rw [List.map_congr_left (g := id), List.map_id]
  intro entry member
  split_ifs with conflicted
  · rw [Side.conflicted, Bool.and_eq_true, Bool.and_eq_true,
      decide_eq_true_eq] at conflicted
    have driven : entry.onPin entry.gpio.toInt = true :=
      decide_eq_true ⟨conflicted.1.2, rfl⟩
    by_cases connected : entry.gpio.toInt = gpioNumNc
    · rw [connected] at driven
      exact unmoved entry member driven
    · -- A default input is on the pin, which the comparison finds.
      exfalso
      obtain ⟨input, isDefault, held⟩ := List.any_eq_true.mp conflicted.2
      rw [decide_eq_true_eq] at held
      have read := onPin_of_defaultInputs isDefault held.2
      have samePin : input.gpio.toInt = entry.gpio.toInt :=
        (of_decide_eq_true read).2
      simp only [migrationNeeded, Bool.or_eq_false_iff] at settled
      apply List.any_eq_false.mp settled.1.2 input isDefault
      rw [Bool.or_eq_true]
      right
      refine List.any_eq_true.mpr ⟨entry, member, ?_⟩
      rw [read, driven, samePin]
      exact decide_eq_true connected
  · rfl

/-! ## What a boot ends with -/

theorem bootTables_input
    (reserved : Int → Bool) (stored : Option (List UInt8)) :
    bootTables reserved stored .input = defaultInputs := by
  unfold bootTables
  split_ifs
  · rfl
  · rfl

theorem migrationNeeded_defaults :
    migrationNeeded (withDefaultInputs defaultOutputs) = false := by
  decide +kernel

theorem bootTables_settled
    (reserved : Int → Bool) (stored : Option (List UInt8)) :
    migrationNeeded (withDefaultInputs (bootTables reserved stored .output)) =
      false := by
  unfold bootTables
  split_ifs with needed
  · exact migrationNeeded_defaults
  · exact Bool.eq_false_iff.mpr needed

theorem Side.putBack_idem (side : Side) (entry : Binding) :
    side.putBack (side.putBack entry) = side.putBack entry := by
  unfold Side.putBack
  cases found : side.findProfile entry.id with
  | none | some profile =>
      dsimp only
      rw [found]

theorem resolve_unmoved (outputs : List Binding) :
    Unmoved (Side.resolve .output defaultInputs outputs) := by
  have shared : addressInUse defaultInputs (.pin gpioNumNc) 0 = true := by
    decide +kernel
  intro entry member unconnected
  obtain ⟨original, _, rfl⟩ := List.mem_map.mp member
  split_ifs at unconnected ⊢ with conflicted
  · exact Side.putBack_idem .output original
  · cases found : Side.findProfile .output original.id with
    | none =>
        unfold Side.putBack
        rw [found]
    | some profile =>
        obtain ⟨digital, nowhere⟩ := of_decide_eq_true unconnected
        exfalso
        apply conflicted
        rw [Side.conflicted, found, nowhere, shared, Bool.and_true,
          Option.isSome_some, Bool.true_and]
        exact decide_eq_true digital

theorem bootTables_unmoved
    (reserved : Int → Bool) (stored : Option (List UInt8)) :
    Unmoved (bootTables reserved stored .output) := by
  unfold bootTables
  split_ifs
  · intro entry member unconnected
    exact
      @defaultTables_putBack .output entry member
        (of_decide_eq_true unconnected).1
  · exact resolve_unmoved _

theorem Unmoved.of_same
    (unmoved : Unmoved others)
    (same : SameBindings others outputs) : Unmoved outputs := by
  intro entry member unconnected
  have listed : entry.view ∈ others.map Binding.view := by
    rw [same]
    exact List.mem_map_of_mem member
  obtain ⟨other, isOther, shown⟩ := List.mem_map.mp listed
  have backend : other.backend = entry.backend :=
    congrArg BindingView.backend shown
  have gpio : other.gpio = entry.gpio := congrArg BindingView.gpio shown
  have alike : other.onPin gpioNumNc = entry.onPin gpioNumNc := by
    unfold Binding.onPin
    rw [backend, gpio]
  exact
    Side.putBack_of_view shown.symm
      (unmoved other isOther (alike.trans unconnected))

/-! ## Lengths -/

theorem BindingBlob.listed_length_le
    {slots : Nat} {Entry : Type} (blob : BindingBlob slots Entry) :
    blob.listed.length ≤ slots := by
  unfold BindingBlob.listed
  rw [List.length_take, List.length_ofFn]
  exact Nat.min_le_right _ _

theorem Side.migrateV2_length_le
    (side : Side) (reserved : Int → Bool) (stored : List BindingV2) :
    (side.migrateV2 reserved stored).2.length ≤ stored.length := by
  induction stored with
  | nil => exact Nat.le_refl _
  | cons first rest induction =>
      unfold Side.migrateV2
      split
      · exact Nat.zero_le _
      · split_ifs
        · exact Nat.zero_le _
        · exact Nat.succ_le_succ induction

theorem Side.migrateV1_length_le
    (side : Side) (stored : List BindingV1) :
    (side.migrateV1 stored).2.length ≤ stored.length := by
  induction stored with
  | nil => exact Nat.le_refl _
  | cons first rest induction =>
      unfold Side.migrateV1
      split
      · exact Nat.zero_le _
      · exact Nat.succ_le_succ induction

theorem Side.loaded_length_le
    (fits : entries.length ≤ side.maxEntries) (reserved : Int → Bool)
    (stored : Option (List UInt8)) :
    (side.loaded reserved stored entries).length ≤ side.maxEntries := by
  unfold Side.loaded
  split
  · exact fits
  · dsimp only
    split_ifs
    · unfold Side.loadV3
      split_ifs
      · exact fits
      · exact BindingBlob.listed_length_le _
      · exact fits
    · exact fits
    · unfold Side.loadV2
      split_ifs
      · exact Nat.zero_le _
      · exact
          (side.migrateV2_length_le reserved _).trans
            (BindingBlob.listed_length_le _)
    · exact fits
    · unfold Side.loadV1
      split_ifs
      · exact Nat.zero_le _
      · exact
          (side.migrateV1_length_le _).trans (BindingBlob.listed_length_le _)
    · exact fits
    · exact fits

theorem defaultOutputs_length :
    defaultOutputs.length ≤ Side.maxEntries .output := by
  decide +kernel

theorem bootTables_length_le
    (reserved : Int → Bool) (stored : Option (List UInt8)) :
    (bootTables reserved stored .output).length ≤
      Side.maxEntries .output := by
  unfold bootTables
  split_ifs
  · exact defaultOutputs_length
  · change (Side.resolve .output _ _).length ≤ _
    rw [Side.resolve, List.length_map]
    exact Side.loaded_length_le defaultOutputs_length reserved stored

/-! ## Records of outputs -/

/-- A boot finds the outputs of a record again if the record is accepted and
the comparison with the defaults lets them pass, or if they are the default
outputs. -/
theorem bootTables_record_iff
    (fits : outputs.length ≤ Side.maxEntries .output)
    (unmoved : Unmoved outputs) (reserved : Int → Bool) :
    SameBindings
        (bootTables reserved (some (Side.record .output outputs)) .output)
        outputs ↔
    Side.loadable .output reserved outputs = true ∧
        migrationNeeded (withDefaultInputs outputs) = false ∨
      SameBindings outputs defaultOutputs := by
  unfold bootTables
  rw [Side.loaded_record fits]
  by_cases loadable : Side.loadable .output reserved outputs = true
  · rw [if_pos loadable]
    constructor
    · intro found
      split_ifs at found with needed
      · exact .inr found.symm
      · have same := Side.resolve_of_same found
        rw [same, Bool.not_eq_true] at needed
        exact .inl ⟨loadable, needed⟩
    · rintro (⟨_, settled⟩ | isDefault)
      · rw [resolve_of_settled unmoved settled, settled]
        rfl
      · rw [resolve_of_sameDefaults isDefault]
        split_ifs
        · exact isDefault.symm
        · rfl
  · have refused :
        Side.resolve .output defaultInputs defaultOutputs =
          defaultOutputs :=
      resolve_defaultTables .output defaultInputs
    rw [if_neg loadable, refused, migrationNeeded_defaults]
    constructor
    · intro found
      exact .inr found.symm
    · rintro (⟨isLoadable, _⟩ | isDefault)
      · exact absurd isLoadable loadable
      · exact isDefault.symm

/-! ## Calls whose writes succeed -/

/-- A call whose write succeeds. -/
def BindingRequest.committed : BindingRequest → BindingRequest
  | .add side arguments _ => .add side arguments .committed
  | .set side arguments _ => .set side arguments .committed
  | .remove side id _ => .remove side id .committed
  | .reset side id _ => .reset side id .committed

/-- One call whose write succeeds. -/
def savingStep (reserved : Int → Bool) (world : BindingWorld)
    (request : BindingRequest) : BindingWorld × BindingResult :=
  bindingStep reserved world request.committed

/-- The table with the target in place, if its address passes the check. -/
def BindingTarget.accepted? (target : BindingTarget)
    (reserved : Int → Bool) (tables : BindingTables) :
    Option (Side × List Binding) :=
  if target.check reserved tables = .ok then
    some (target.side, target.after)
  else none

/-- The table that a request asks to write, if it passes all checks. -/
def BindingRequest.written? (reserved : Int → Bool)
    (tables : BindingTables) :
    BindingRequest → Option (Side × List Binding)
  | .remove side id _ =>
      if side.isDefaultId id then none
      else
        ((tables side).findIdx? fun entry => entry.id = id).map
          fun index => (side, (tables side).eraseIdx index)
  | request =>
      (request.target? tables).bind fun target =>
        target.accepted? reserved tables

/-- What a call leaves when it writes a table. -/
def BindingWorld.Wrote (world after : BindingWorld) :
    Option (Side × List Binding) → Prop
  | none => after = world
  | some (side, entries) =>
      ∃ restart, after = world.write side entries restart .committed

variable {request : BindingRequest}

theorem bindingStep_wrote
    (reserved : Int → Bool) (world : BindingWorld)
    (saved : request.outcome = .committed)
    (binds : ∀ side id outcome, request ≠ .remove side id outcome) :
    world.Wrote (bindingStep reserved world request).1
      ((request.target? world.tables).bind fun target =>
        target.accepted? reserved world.tables) := by
  cases asked : request.target? world.tables with
  | none =>
      obtain same | ⟨side, id, _, isRemove, _⟩ :=
        bindingStep_untargeted reserved asked
      · exact same
      · exact absurd isRemove (binds side id _)
  | some target =>
      obtain ⟨accepted, refused⟩ := bindingStep_of_target reserved asked
      rw [Option.bind_some, BindingTarget.accepted?]
      split_ifs with passed
      · obtain ⟨restart, written⟩ := accepted passed
        rw [saved] at written
        exact ⟨restart, written⟩
      · exact refused passed

theorem savingStep_wrote
    (reserved : Int → Bool) (world : BindingWorld)
    (request : BindingRequest) :
    world.Wrote (savingStep reserved world request).1
      (request.written? reserved world.tables) := by
  cases request with
  | remove side id outcome =>
      change
        world.Wrote (world.remove side id .committed).1
          (if side.isDefaultId id then none
          else
            ((world.tables side).findIdx? fun entry => entry.id = id).map
              fun index => (side, (world.tables side).eraseIdx index))
      unfold BindingWorld.remove
      split_ifs
      · rfl
      · cases (world.tables side).findIdx? fun entry =>
            decide (entry.id = id) with
        | none => rfl
        | some index => exact ⟨true, rfl⟩
  | _ =>
      exact bindingStep_wrote reserved world rfl (by rintro _ _ _ ⟨⟩)

variable {reserved : Int → Bool} {tables : BindingTables}

theorem BindingRequest.written_cases
    (wrote : request.written? reserved tables = some (side, entries)) :
    (∃ target : BindingTarget,
      target.Shaped tables ∧ target.check reserved tables = .ok ∧
      target.side = side ∧ target.after = entries) ∨
      ∃ index, entries = (tables side).eraseIdx index := by
  have placed
      (bound :
        ((request.target? tables).bind fun target =>
          target.accepted? reserved tables) = some (side, entries)) :
      ∃ target : BindingTarget,
        target.Shaped tables ∧ target.check reserved tables = .ok ∧
        target.side = side ∧ target.after = entries := by
    obtain ⟨target, asked, accepted⟩ := Option.bind_eq_some_iff.mp bound
    unfold BindingTarget.accepted? at accepted
    split_ifs at accepted with passed
    cases accepted
    exact ⟨target, BindingRequest.target_shaped asked, passed, rfl, rfl⟩
  cases request with
  | remove side id outcome =>
      right
      unfold BindingRequest.written? at wrote
      dsimp only at wrote
      split_ifs at wrote
      obtain ⟨index, _, same⟩ := Option.map_eq_some_iff.mp wrote
      cases same
      exact ⟨index, rfl⟩
  | _ => exact .inl (placed wrote)

theorem BindingRequest.written_length_le
    (wrote : request.written? reserved tables = some (side, entries))
    (fits : (tables side).length ≤ side.maxEntries) :
    entries.length ≤ side.maxEntries := by
  obtain ⟨target, shaped, _, rfl, rfl⟩ | ⟨index, rfl⟩ :=
    BindingRequest.written_cases wrote
  · exact shaped.room fits
  · exact (List.eraseIdx_sublist _ _).length_le.trans fits

theorem BindingTarget.not_onPin_nc
    {target : BindingTarget}
    (shaped : target.Shaped tables)
    (passed : target.check reserved tables = .ok) :
    ¬ target.entry.onPin gpioNumNc = true := by
  intro unconnected
  obtain ⟨digital, nowhere⟩ := of_decide_eq_true unconnected
  rw [shaped.backend] at digital
  rw [shaped.gpio] at nowhere
  obtain ⟨_, listed⟩ | isMcp | ⟨isAdc, _⟩ :=
    Side.addressValid_cases (Side.addressValid_of_ok passed)
  · rw [toInt_ofInt_of_option listed] at nowhere
    rw [nowhere] at listed
    have absent : gpioNumNc ∉ target.side.gpioOptions := by
      cases target.side <;> decide
    exact absent listed
  · rw [isMcp] at digital
    exact absurd digital (by decide)
  · rw [isAdc] at digital
    exact absurd digital (by decide)

theorem BindingRequest.written_unmoved
    (wrote : request.written? reserved tables = some (.output, entries))
    (unmoved : Unmoved (tables .output)) : Unmoved entries := by
  obtain ⟨target, shaped, passed, isOutput, rfl⟩ | ⟨index, rfl⟩ :=
    BindingRequest.written_cases wrote
  · intro entry member unconnected
    rcases List.mem_cons.mp (shaped.after.mem_iff.mp member) with
      rfl | isOther
    · exact absurd unconnected (BindingTarget.not_onPin_nc shaped passed)
    · have old := shaped.others.mem isOther
      rw [isOutput] at old
      exact unmoved entry old unconnected
  · intro entry member unconnected
    exact unmoved entry ((List.eraseIdx_sublist _ _).mem member) unconnected

/-! ## One call -/

theorem survivesReboot_iff
    (reserved : Int → Bool) (world : BindingWorld) :
    SurvivesReboot reserved world ↔
    SameBindings defaultInputs (world.tables .input) ∧
    SameBindings (bootTables reserved (world.nvs .output) .output)
      (world.tables .output) := by
  unfold SurvivesReboot
  rw [ioBindingInit_committed]
  constructor
  · intro survives
    have inputs := survives .input
    rw [bootTables_input] at inputs
    exact ⟨inputs, survives .output⟩
  · rintro ⟨inputs, outputs⟩ side
    cases side with
    | input =>
        rw [bootTables_input]
        exact inputs
    | output => exact outputs

/-- A table that is found again when it is written: inputs that show no change,
outputs that are accepted and pass the comparison, and the default outputs. -/
def FoundAgain (reserved : Int → Bool) (tables : BindingTables)
    (side : Side) (entries : List Binding) : Prop :=
  match side with
  | .input => SameBindings (tables .input) entries
  | .output =>
      Side.loadable .output reserved entries = true ∧
          migrationNeeded (withDefaultInputs entries) = false ∨
        SameBindings entries defaultOutputs

/-- What a request asks to write is found again. -/
def KeepsBindings (reserved : Int → Bool) (tables : BindingTables)
    (request : BindingRequest) : Prop :=
  ∀ side entries,
    request.written? reserved tables = some (side, entries) →
    FoundAgain reserved tables side entries

variable {world : BindingWorld}

/-- From a state that survives a reboot, a call leaves one exactly if what it
writes is found again. -/
theorem savingStep_survives_iff
    (survives : SurvivesReboot reserved world)
    (request : BindingRequest) :
    SurvivesReboot reserved (savingStep reserved world request).1 ↔
    KeepsBindings reserved world.tables request := by
  obtain ⟨inputs, outputs⟩ := (survivesReboot_iff reserved world).mp survives
  have wrote := savingStep_wrote reserved world request
  cases written : request.written? reserved world.tables with
  | none =>
      rw [written] at wrote
      change (savingStep reserved world request).1 = world at wrote
      rw [wrote]
      refine iff_of_true survives ?_
      intro side entries asked
      rw [written] at asked
      cases asked
  | some place =>
      obtain ⟨side, entries⟩ := place
      rw [written] at wrote
      obtain ⟨restart, wrote⟩ := wrote
      have kept :
          KeepsBindings reserved world.tables request ↔
          FoundAgain reserved world.tables side entries := by
        constructor
        · intro keeps
          exact keeps side entries written
        · intro found other others asked
          rw [written] at asked
          cases asked
          exact found
      rw [kept, wrote, survivesReboot_iff]
      cases side with
      | input =>
          change
            SameBindings defaultInputs entries ∧
                SameBindings
                  (bootTables reserved (world.nvs .output) .output)
                  (world.tables .output) ↔
              SameBindings (world.tables .input) entries
          rw [and_iff_left outputs]
          exact ⟨inputs.symm.trans, inputs.trans⟩
      | output =>
          have room : (world.tables .output).length ≤
              Side.maxEntries .output := by
            have lengths := congrArg List.length outputs
            rw [List.length_map, List.length_map] at lengths
            rw [← lengths]
            exact bootTables_length_le reserved _
          change
            SameBindings defaultInputs (world.tables .input) ∧
            SameBindings
              (bootTables reserved (some (Side.record .output entries)) .output)
              entries ↔ _
          rw [and_iff_right inputs]
          exact
            bootTables_record_iff
              (BindingRequest.written_length_le written room)
              (BindingRequest.written_unmoved written
                ((bootTables_unmoved reserved _).of_same outputs))
              reserved

/-! ## The state after a boot -/

theorem Side.resolve_of_no_conflict
    (free : entries.any (side.conflicted others) = false) :
    side.resolve others entries = entries := by
  unfold Side.resolve
  rw [List.map_congr_left (g := id), List.map_id]
  intro entry member
  rw [if_neg (List.any_eq_false.mp free entry member)]
  rfl

/-- The record of the outputs is as it was, or that of the outputs. -/
def RecordFollows (before : Option (List UInt8)) (world : BindingWorld) :
    Prop :=
  world.nvs .output = before ∨
  world.nvs .output = some (Side.record .output (world.tables .output))

theorem BindingWorld.load_recordFollows
    (world : BindingWorld) (reserved : Int → Bool) :
    RecordFollows (world.nvs .output)
      (world.load .output reserved .committed) := by
  rcases world.load_eq .output reserved .committed with same | written
  · rw [same]
    exact .inl rfl
  · rw [written]
    exact .inr rfl

theorem BindingWorld.resolveCrossConflicts_recordFollows
    {before : Option (List UInt8)}
    (follows : RecordFollows before world) :
    RecordFollows before
      (world.resolveCrossConflicts fun _ => .committed) := by
  unfold BindingWorld.resolveCrossConflicts
  dsimp only
  split_ifs with conflicts
  · exact .inr rfl
  · rw [Bool.not_eq_true, Bool.or_eq_false_iff] at conflicts
    have same := Side.resolve_of_no_conflict conflicts.1
    rcases follows with old | written
    · exact .inl old
    · right
      change
        world.nvs .output =
          some
            (Side.record .output
              (Side.resolve .output (world.tables .input)
                (world.tables .output)))
      rw [same]
      exact written

theorem ioBindingInit_recordFollows
    (reserved : Int → Bool) (nvs : Side → Option (List UInt8)) :
    RecordFollows (nvs .output)
      (ioBindingInit reserved (fun _ => .committed) nvs) := by
  unfold ioBindingInit BindingWorld.validateAndMigrate
  split_ifs
  · exact .inr rfl
  · rw [ioBindingAssemble_committed]
    exact
      BindingWorld.resolveCrossConflicts_recordFollows
        (BindingWorld.load_recordFollows _ reserved)

/-- A boot leaves the record of the outputs as it was, or ends with outputs
that the next one accepts. -/
def BootKeepsOutputs (reserved : Int → Bool)
    (nvs : Side → Option (List UInt8)) : Prop :=
  (ioBindingInit reserved (fun _ => .committed) nvs).nvs .output =
      nvs .output ∨
    Side.loadable .output reserved
        (bootTables reserved (nvs .output) .output) = true ∨
    SameBindings (bootTables reserved (nvs .output) .output) defaultOutputs

theorem ioBindingInit_survives_iff
    (reserved : Int → Bool) (nvs : Side → Option (List UInt8)) :
    SurvivesReboot reserved (ioBindingInit reserved (fun _ => .committed) nvs) ↔
    BootKeepsOutputs reserved nvs := by
  rw [survivesReboot_iff, ioBindingInit_committed, bootTables_input,
    and_iff_right (SameBindings.refl defaultInputs)]
  have accepted :
      SameBindings
          (bootTables reserved
            (some
              (Side.record .output (bootTables reserved (nvs .output) .output)))
            .output)
          (bootTables reserved (nvs .output) .output) ↔
      Side.loadable .output reserved
          (bootTables reserved (nvs .output) .output) = true ∨
      SameBindings (bootTables reserved (nvs .output) .output)
        defaultOutputs := by
    rw [bootTables_record_iff (bootTables_length_le reserved _)
      (bootTables_unmoved reserved _) reserved,
      and_iff_left (bootTables_settled reserved _)]
  constructor
  · intro found
    rcases ioBindingInit_recordFollows reserved nvs with old | written
    · exact .inl old
    · rw [ioBindingInit_committed] at written
      rw [written] at found
      exact .inr (accepted.mp found)
  · rintro (old | passes)
    · rw [old]
      exact SameBindings.refl _
    · rcases ioBindingInit_recordFollows reserved nvs with old | written
      · rw [old]
        exact SameBindings.refl _
      · rw [ioBindingInit_committed] at written
        rw [written]
        exact accepted.mpr passes

/-- The bindings survive a reboot in every state of a run if and only if the
boot keeps the outputs and everything that the calls write is found again. -/
theorem bindings_survive_along_runs
    (reserved : Int → Bool) (nvs : Side → Option (List UInt8))
    (requests : List BindingRequest) :
    (SurvivesReboot reserved
          (ioBindingInit reserved (fun _ => .committed) nvs) ∧
        ∀ made ∈
            history (savingStep reserved)
              (ioBindingInit reserved (fun _ => .committed) nvs) requests,
          SurvivesReboot reserved made.after) ↔
      BootKeepsOutputs reserved nvs ∧
      ∀ made ∈
          history (savingStep reserved)
            (ioBindingInit reserved (fun _ => .committed) nvs) requests,
        KeepsBindings reserved made.before.tables made.action := by
  have start := ioBindingInit_survives_iff reserved nvs
  have along
      (survives :
        SurvivesReboot reserved
          (ioBindingInit reserved (fun _ => .committed) nvs)) :=
    history_invariant_iff (SurvivesReboot reserved)
      (fun world request => KeepsBindings reserved world.tables request)
      (fun _ request holds => savingStep_survives_iff holds request)
      survives requests
  constructor
  · rintro ⟨survives, later⟩
    exact ⟨start.mp survives, (along survives).mp later⟩
  · rintro ⟨keeps, later⟩
    have survives := start.mpr keeps
    exact ⟨survives, (along survives).mpr later⟩

def pin18Arguments : BindingArguments where
  id := endapInputId 6
  name := []
  role := []
  backend := backendGpio
  gpio := 18
  backendInstance := 0
  endpointIndex := 18

theorem add_pin18
    (start : world.tables = defaultTables) :
    ∃ entry,
      savingStep (fun _ => false) world
          (.add .input pin18Arguments .committed) =
        (world.write .input (defaultInputs ++ [entry]) true .committed,
          .ok) := by
  have placed :
      Side.placeNew .input (defaultTables .input) pin18Arguments =
        .ok
          { profile := { id := endapInputId 6, name := "GPIO18", gpio := 18 }
            gpio := 18
            address := .pin 18 } :=
    rfl
  have passed :
      Side.validateAddress .input (fun _ => false) defaultTables
        pin18Arguments.id 18 (.pin 18) = .ok := by
    decide +kernel
  change
    ∃ entry,
      world.add .input (fun _ => false) pin18Arguments .committed =
        (world.write .input (defaultInputs ++ [entry]) true .committed, .ok)
  unfold BindingWorld.add
  rw [start, placed]
  dsimp only
  rw [passed]
  exact ⟨_, rfl⟩

theorem longer_inputs_forgotten
    (reserved : Int → Bool)
    (inputs : world.tables .input = defaultInputs ++ [entry]) :
    ¬ SurvivesReboot reserved world := by
  intro survives
  have same := ((survivesReboot_iff _ _).mp survives).1
  have lengths := congrArg List.length same
  rw [List.length_map, List.length_map, inputs, List.length_append] at lengths
  exact absurd lengths (Nat.ne_of_lt (Nat.lt_succ_self _))

theorem add_pin18_forgotten
    (start : world.tables = defaultTables) :
    (∀ made ∈
        history (savingStep fun _ => false) world
          [.add .input pin18Arguments .committed],
        made.output = .ok) ∧
      ¬ SurvivesReboot (fun _ => false)
        (final (savingStep fun _ => false) world
          [.add .input pin18Arguments .committed]) := by
  obtain ⟨entry, added⟩ := add_pin18 start
  constructor
  · intro made member
    rw [List.mem_singleton.mp member]
    exact congrArg Prod.snd added
  · change
      ¬ SurvivesReboot _
        (savingStep (fun _ => false) world
          (.add .input pin18Arguments .committed)).1
    rw [added]
    exact longer_inputs_forgotten _ rfl

/-- On a fresh device, the call is accepted, and the next boot has forgotten
the input. -/
theorem pin18_forgotten :
    (∀ made ∈
        history (savingStep fun _ => false)
          (ioBindingInit (fun _ => false) (fun _ => .committed) fun _ => none)
          [.add .input pin18Arguments .committed],
        made.output = .ok) ∧
      ¬ SurvivesReboot (fun _ => false)
        (final (savingStep fun _ => false)
          (ioBindingInit (fun _ => false) (fun _ => .committed) fun _ => none)
          [.add .input pin18Arguments .committed]) := by
  apply add_pin18_forgotten
  rw [ioBindingInit_committed]
  exact bootTables_none _

end Endap.Io
