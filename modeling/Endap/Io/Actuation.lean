import Endap.Failsafe.Storage
import Endap.Io.Driver
import Endap.Library.Sweep

/-!
# Outputs follow the state table

After every update each output that has a pin is driven at the level that
stands for its value, or for off when another node owns it.  Between updates
this holds of every output whose flag is clear and whose ownership is the one
that the last update found.

Both need that no pin is used twice.  Two outputs on one pin overwrite each
other, and an input on the pin of an output turns it into an input at boot.
-/

namespace Endap.Io

open Endap.Cluster
open Endap.Device
open Endap.Failsafe
open Endap.Library
open Endap.State

/-! ## The output table -/

/-- The channel has a pin that can be driven. -/
def OutputChannel.HasPin (channel : OutputChannel) : Prop :=
  channel.gpio ≠ gpioNumNc ∧ 0 ≤ channel.gpio

instance (channel : OutputChannel) : Decidable channel.HasPin :=
  inferInstanceAs (Decidable (_ ∧ _))

/-- A table of outputs of the profile, each on a pin of its own. -/
structure Wired (outputTable : List OutputChannel) : Prop where
  few : outputTable.length ≤ 32
  known : ∀ channel ∈ outputTable, channel.id ∈ outputProfile
  same :
    ∀ first ∈ outputTable, ∀ second ∈ outputTable,
      first.id = second.id → first = second
  apart :
    ∀ first ∈ outputTable, ∀ second ∈ outputTable,
      first.HasPin → first.gpio = second.gpio → first = second

/-- No pin of the bindings is used twice; an input whose converter could not
be set up does not use its pin. -/
structure IoBindings.Exclusive (bindings : IoBindings)
    (reading : InputChannel → InputReading) : Prop where
  outputs :
    ∀ first ∈ ioDriverLoadOutputs bindings,
      ∀ second ∈ ioDriverLoadOutputs bindings,
        first.HasPin → first.gpio = second.gpio → first.id = second.id
  inputs :
    ∀ output ∈ ioDriverLoadOutputs bindings,
      ∀ input ∈ ioDriverLoadInputs bindings,
        output.HasPin →
        (input.backend = .adcNative → (reading input).adcReady = true) →
        input.gpio ≠ output.gpio

variable {bindings : IoBindings} {channel : OutputChannel}

theorem mem_loadOutputs
    (member : channel ∈ ioDriverLoadOutputs bindings) :
    ∃ view ∈ ioBindingExportOutputs bindings, ∃ cfg,
      deviceProfileFindOutput view.id = some cfg ∧
      channel =
        { id := cfg.id
          gpio := view.gpio
          activeLow := cfg.activeLow } := by
  rcases List.mem_filterMap.mp (List.mem_of_mem_take member) with
    ⟨view, exported, isChannel⟩
  rcases Option.map_eq_some_iff.mp isChannel with ⟨cfg, found, rfl⟩
  exact ⟨view, exported, cfg, found, rfl⟩

theorem loadOutputs_known
    (member : channel ∈ ioDriverLoadOutputs bindings) :
    channel.id ∈ outputProfile := by
  rcases mem_loadOutputs member with ⟨view, -, cfg, found, rfl⟩
  have profile := deviceProfileFindOutput_some found
  rw [profile.1]
  exact profile.2

theorem loadInputs_known
    {input : InputChannel}
    (member : input ∈ ioDriverLoadInputs bindings) :
    input.id ∈ inputProfile := by
  rcases List.mem_filterMap.mp (List.mem_of_mem_take member) with
    ⟨view, -, isChannel⟩
  rcases Option.map_eq_some_iff.mp isChannel with ⟨cfg, found, rfl⟩
  have profile := deviceProfileFindInput_some found
  show cfg.id ∈ inputProfile
  rw [profile.1]
  exact profile.2

theorem loadOutputs_same
    {first second : OutputChannel}
    (firstMember : first ∈ ioDriverLoadOutputs bindings)
    (secondMember : second ∈ ioDriverLoadOutputs bindings)
    (same : first.id = second.id) : first = second := by
  rcases mem_loadOutputs firstMember with ⟨view, exported, cfg, found, rfl⟩
  rcases mem_loadOutputs secondMember with
    ⟨other, otherExported, otherCfg, otherFound, rfl⟩
  have sameId : view.id = other.id := by
    rw [← (deviceProfileFindOutput_some found).1,
      ← (deviceProfileFindOutput_some otherFound).1]
    exact same
  have sameGpio := exportOutputs_gpio exported otherExported sameId
  rw [sameId, otherFound] at found
  have sameCfg : otherCfg = cfg := Option.some.inj found
  rw [sameGpio, sameCfg]

theorem loadOutputs_wired
    {reading : InputChannel → InputReading}
    (exclusive : bindings.Exclusive reading) :
    Wired (ioDriverLoadOutputs bindings) := by
  constructor
  · exact Nat.le_trans (List.length_take_le _ _) (by decide)
  · intro channel member
    exact loadOutputs_known member
  · intro first firstMember second secondMember same
    exact loadOutputs_same firstMember secondMember same
  · intro first firstMember second secondMember hasPin same
    exact
      loadOutputs_same firstMember secondMember
        (exclusive.outputs first firstMember second secondMember hasPin same)

/-! ## Levels -/

/-- The level of a channel's pin, as far as the table and the given ownership
go. -/
def levelFor (store : StateStore) (channel : OutputChannel) (owned : Bool) :
    Bool :=
  ioDriverOutputGpioLevel channel
    (owned && decide (store.intValues channel.id ≠ 0))

/-- The pin of a channel is driven at the level that stands for its value, or
for off when another node owns it. -/
def IoWorld.Right (world : IoWorld) (channel : OutputChannel) : Prop :=
  world.pins channel.gpio =
    { driven := true
      level := levelFor world.store channel (world.isLocal channel) }

/-- No channel of an output has its flag raised. -/
def IoWorld.Quiet (world : IoWorld) (channel : OutputChannel) : Prop :=
  ∀ index, world.outputTable[index]? = some channel →
  world.pendingMask.getLsbD index = false

/-- What holds of the driver between any two steps. -/
structure Coherent (world : IoWorld) : Prop where
  wired : Wired world.outputTable
  driven :
    ∀ channel ∈ world.outputTable, channel.HasPin →
    (world.pins channel.gpio).driven = true
  level :
    ∀ index channel, world.outputTable[index]? = some channel →
    channel.HasPin → world.Quiet channel →
    (world.pins channel.gpio).level =
      levelFor world.store channel (world.localMask.getLsbD index)

theorem Coherent.right
    {world : IoWorld} (coherent : Coherent world)
    {index : Nat}
    (found : world.outputTable[index]? = some channel)
    (hasPin : channel.HasPin) (quiet : world.Quiet channel)
    (unchanged : world.localMask.getLsbD index = world.isLocal channel) :
    world.Right channel := by
  have driven := coherent.driven channel (List.mem_of_getElem? found) hasPin
  have level := coherent.level index channel found hasPin quiet
  rw [unchanged] at level
  rw [IoWorld.Right, ← driven, ← level]

/-! ## Writes of the table -/

theorem stateOutputChanged_coherent
    {world : IoWorld} (wired : Wired world.outputTable)
    (driven :
      ∀ channel ∈ world.outputTable, channel.HasPin →
      (world.pins channel.gpio).driven = true)
    {id : UInt16}
    (level :
      ∀ index channel, world.outputTable[index]? = some channel →
      channel.id ≠ id → channel.HasPin → world.Quiet channel →
      (world.pins channel.gpio).level =
        levelFor world.store channel (world.localMask.getLsbD index)) :
    Coherent (stateOutputChanged world id) := by
  rw [stateOutputChanged]
  cases place :
      world.outputTable.findIdx? fun channel => channel.id = id with
  | none =>
      refine ⟨wired, driven, ?_⟩
      intro index channel found hasPin quiet
      have absent :=
        List.findIdx?_eq_none_iff.mp place channel (List.mem_of_getElem? found)
      exact level index channel found (of_decide_eq_false absent) hasPin quiet
  | some raised =>
      rcases List.findIdx?_eq_some_iff_getElem.mp place with
        ⟨inside, isId, -⟩
      have fits : raised < 32 := Nat.lt_of_lt_of_le inside wired.few
      have sameId : world.outputTable[raised].id = id := of_decide_eq_true isId
      refine ⟨wired, driven, ?_⟩
      intro index channel found hasPin quiet
      have differs : channel.id ≠ id := by
        intro same
        have isChannel : world.outputTable[raised] = channel :=
          wired.same _ (List.getElem_mem inside) _
            (List.mem_of_getElem? found) (sameId.trans same.symm)
        have flag :=
          quiet raised (List.getElem?_eq_some_iff.mpr ⟨inside, isChannel⟩)
        rw [BitMask.getLsbD_set _ fits] at flag
        simp at flag
      refine level index channel found differs hasPin ?_
      intro other otherFound
      have flag := quiet other otherFound
      rw [BitMask.getLsbD_set _ fits] at flag
      exact (Bool.or_eq_false_iff.mp flag).1

theorem stateSetInt_coherent
    {world : IoWorld} (coherent : Coherent world)
    (id : UInt16) (value : Int32) :
    Coherent (world.stateSetInt id value) := by
  rw [IoWorld.stateSetInt]
  split
  · refine
      @stateOutputChanged_coherent
        { world with store := State.stateSetInt world.store id value }
        coherent.wired coherent.driven id ?_
    intro index channel found differs hasPin quiet
    have level := coherent.level index channel found hasPin quiet
    rw [levelFor, stateSetInt_other world.store value differs]
    exact level
  · next unchanged =>
      have same : State.stateSetInt world.store id value = world.store := by
        rw [State.stateSetInt]
        split
        · next valid =>
            rw [if_neg]
            intro changes
            exact unchanged ⟨valid, changes⟩
        · rfl
      rw [same]
      exact coherent

/-! ## Updates -/

section

variable (world : IoWorld)

/-- The flags of one position. -/
def UpdateMasks.flags (masks : UpdateMasks) (index : Nat) : Bool × Bool :=
  (masks.owned.getLsbD index, masks.mask.getLsbD index)

/-- The flags of a position after the round of its channel. -/
def notedFlags (channel : OutputChannel) (flags : Bool × Bool) : Bool × Bool :=
  (world.isLocal channel, flags.2 || decide (world.isLocal channel ≠ flags.1))

theorem noteLocality_own
    (masks : UpdateMasks) (channel : OutputChannel) (index : Nat)
    (inside : index < 32) :
    (noteLocality world masks (channel, index)).flags index =
      notedFlags world channel (masks.flags index) := by
  rw [noteLocality, notedFlags, UpdateMasks.flags, UpdateMasks.flags]
  split
  · next same => simp [← same]
  · next differs =>
      refine Prod.ext ?_ ?_
      · dsimp only
        cases isLocal : world.isLocal channel with
        | true => simp [BitMask.getLsbD_set _ inside]
        | false => simp [BitMask.getLsbD_clear _ inside]
      · simp [BitMask.getLsbD_set _ inside, differs]

theorem noteLocality_other
    (masks : UpdateMasks) (channel : OutputChannel) (index place : Nat)
    (inside : index < 32) (differs : place ≠ index) :
    (noteLocality world masks (channel, index)).flags place =
      masks.flags place := by
  rw [noteLocality, UpdateMasks.flags, UpdateMasks.flags]
  split
  · rfl
  · refine Prod.ext ?_ ?_
    · dsimp only
      split
      · simp [BitMask.getLsbD_set _ inside, differs]
      · simp [BitMask.getLsbD_clear _ inside, differs]
    · simp [BitMask.getLsbD_set _ inside, differs]

/-- The masks after the first loop. -/
def IoWorld.masks : UpdateMasks :=
  world.outputTable.zipIdx.foldl (noteLocality world)
    { pending := world.pendingMask
      owned := world.localMask
      mask := world.pendingMask }

variable {index : Nat} {channel : OutputChannel}

/-- The first loop finds the ownership of every channel, and marks those whose
flag is raised or whose ownership is new. -/
theorem masks_flags
    {world : IoWorld} (few : world.outputTable.length ≤ 32)
    (found : world.outputTable[index]? = some channel) :
    world.masks.flags index =
      (world.isLocal channel,
        world.pendingMask.getLsbD index ||
          decide
            (world.isLocal channel ≠ world.localMask.getLsbD index)) := by
  have whole :=
    Sweep.foldl_positions (noteLocality_own world) (noteLocality_other world)
      world.outputTable (by omega : 0 + world.outputTable.length ≤ 32)
      { pending := world.pendingMask
        owned := world.localMask
        mask := world.pendingMask } found
  rw [Nat.zero_add] at whole
  exact whole

theorem applyOutput_eq
    (pins : Int → Pin)
    (known : channel.id ∈ outputProfile) :
    applyOutput world pins channel =
      if channel.HasPin then
        gpioSetLevel pins channel.gpio
          (levelFor world.store channel (world.isLocal channel))
      else pins := by
  have valid := outputProfile_validId known
  rw [applyOutput, stateGetInt, if_pos valid]
  cases isLocal : world.isLocal channel with
  | false => rfl
  | true =>
      simp only [levelFor, Bool.true_and]
      rfl

/-- A position applies the channel. -/
def applies (mask : BitVec 32) (channel : OutputChannel)
    (position : OutputChannel × Nat) : Bool :=
  decide (position.1 = channel) && mask.getLsbD position.2

variable {world}

/-- One round of the second loop gives a marked channel its level and leaves
the pins of the others. -/
theorem applyPosition_pin
    (wired : Wired world.outputTable) (mask : BitVec 32)
    {position : OutputChannel × Nat}
    (listed : position.1 ∈ world.outputTable)
    (member : channel ∈ world.outputTable)
    (hasPin : channel.HasPin) (reached : (Int → Pin) × BitVec 32) :
    (applyPosition world mask reached position).1 channel.gpio =
      if applies mask channel position then
        { driven := (reached.1 channel.gpio).driven
          level := levelFor world.store channel (world.isLocal channel) }
      else reached.1 channel.gpio := by
  rw [applyPosition, applies]
  by_cases marked : mask.getLsbD position.2 = true
  · rw [if_pos marked, marked, Bool.and_true,
      applyOutput_eq world _ (wired.known _ listed)]
    by_cases own : position.1 = channel
    · rw [own, if_pos hasPin, if_pos (decide_eq_true rfl), gpioSetLevel]
      exact Function.update_self _ _ _
    · have isOther : ¬ decide (position.1 = channel) = true := by
        simpa using own
      rw [if_neg isOther]
      split
      · refine Function.update_of_ne ?_ _ _
        intro same
        exact own (wired.apart channel member _ listed hasPin same).symm
      · rfl
  · rw [if_neg marked]
    simp [marked]

theorem applyPositions_pin
    (wired : Wired world.outputTable) (mask : BitVec 32)
    (positions : List (OutputChannel × Nat))
    (listed : ∀ position ∈ positions, position.1 ∈ world.outputTable)
    (member : channel ∈ world.outputTable)
    (hasPin : channel.HasPin) (reached : (Int → Pin) × BitVec 32) :
    (positions.foldl (applyPosition world mask) reached).1 channel.gpio =
      if positions.any (applies mask channel) then
        { driven := (reached.1 channel.gpio).driven
          level := levelFor world.store channel (world.isLocal channel) }
      else reached.1 channel.gpio := by
  induction positions generalizing reached with
  | nil => rfl
  | cons position positions induction =>
      have here :=
        applyPosition_pin wired mask (listed position (List.mem_cons_self ..))
          member hasPin reached
      have later :=
        induction
          (fun other inList => listed other (List.mem_cons_of_mem _ inList))
          (applyPosition world mask reached position)
      rw [List.foldl_cons, later, here, List.any_cons]
      cases applies mask channel position with
      | false =>
          rw [if_neg Bool.false_ne_true, Bool.false_or]
      | true =>
          rw [if_pos rfl, Bool.true_or, if_pos rfl]
          split
          · rfl
          · rfl

theorem ioDriverUpdate_eq
    (nonempty : ¬ world.outputTable.length = 0) :
    ioDriverUpdate world =
      if world.masks.mask = 0 then
        { world with
          pendingMask := world.masks.pending
          localMask := world.masks.owned }
      else
        { world with
          pendingMask :=
            (world.outputTable.zipIdx.foldl
              (applyPosition world world.masks.mask)
              (world.pins, world.masks.pending)).2
          localMask := world.masks.owned
          pins :=
            (world.outputTable.zipIdx.foldl
              (applyPosition world world.masks.mask)
              (world.pins, world.masks.pending)).1 } :=
  if_neg nonempty

theorem ioDriverUpdate_right
    (coherent : Coherent world)
    (found : world.outputTable[index]? = some channel)
    (hasPin : channel.HasPin) :
    (ioDriverUpdate world).Right channel := by
  have member := List.mem_of_getElem? found
  have nonempty : ¬ world.outputTable.length = 0 := by
    intro empty
    rw [List.length_eq_zero_iff.mp empty] at member
    cases member
  have driven := coherent.driven channel member hasPin
  -- An unmarked channel is quiet and its ownership is the old one.
  have unmarked :
      (∀ other, world.outputTable[other]? = some channel →
      world.masks.mask.getLsbD other = false) →
      world.Right channel := by
    intro clear
    have flags :
        ∀ other, world.outputTable[other]? = some channel →
        world.masks.mask.getLsbD other =
          (world.pendingMask.getLsbD other ||
            decide
              (world.isLocal channel ≠
                world.localMask.getLsbD other)) := by
      intro other otherFound
      exact congrArg Prod.snd (masks_flags coherent.wired.few otherFound)
    refine coherent.right found hasPin ?_ ?_
    · intro other otherFound
      have both := (flags other otherFound).symm.trans (clear other otherFound)
      exact (Bool.or_eq_false_iff.mp both).1
    · have both := (flags index found).symm.trans (clear index found)
      have same := (Bool.or_eq_false_iff.mp both).2
      exact (not_not.mp (of_decide_eq_false same)).symm
  rw [ioDriverUpdate_eq nonempty]
  split
  · next noMask =>
      refine unmarked ?_
      intro other _
      rw [noMask]
      exact BitVec.getLsbD_zero
  · have listed :
        ∀ position ∈ world.outputTable.zipIdx,
          position.1 ∈ world.outputTable := by
      intro position inList
      exact List.fst_mem_of_mem_zipIdx inList
    have pin :=
      applyPositions_pin coherent.wired world.masks.mask
        world.outputTable.zipIdx listed member hasPin
        (world.pins, world.masks.pending)
    by_cases marked :
        world.outputTable.zipIdx.any (applies world.masks.mask channel) = true
    · rw [if_pos marked, driven] at pin
      exact pin
    · rw [if_neg marked] at pin
      refine pin.trans (unmarked ?_)
      intro other otherFound
      by_contra isMarked
      apply marked
      rw [List.any_eq_true]
      refine
        ⟨(channel, other), List.mk_mem_zipIdx_iff_getElem?.mpr otherFound, ?_⟩
      simpa [applies] using isMarked

theorem ioDriverUpdate_frame (world : IoWorld) :
    (ioDriverUpdate world).outputTable = world.outputTable ∧
    (ioDriverUpdate world).store = world.store ∧
    (ioDriverUpdate world).io = world.io := by
  by_cases empty : world.outputTable.length = 0
  · rw [ioDriverUpdate, if_pos empty]
    exact ⟨rfl, rfl, rfl⟩
  · rw [ioDriverUpdate_eq empty]
    split
    · exact ⟨rfl, rfl, rfl⟩
    · exact ⟨rfl, rfl, rfl⟩

theorem ioDriverUpdate_localMask
    (few : world.outputTable.length ≤ 32)
    (found : world.outputTable[index]? = some channel) :
    (ioDriverUpdate world).localMask.getLsbD index =
      world.isLocal channel := by
  have nonempty : ¬ world.outputTable.length = 0 := by
    intro empty
    rw [List.length_eq_zero_iff.mp empty] at found
    simp at found
  have owned : (ioDriverUpdate world).localMask = world.masks.owned := by
    rw [ioDriverUpdate_eq nonempty]
    split
    · rfl
    · rfl
  rw [owned]
  exact congrArg Prod.fst (masks_flags few found)

theorem ioDriverUpdate_coherent (coherent : Coherent world) :
    Coherent (ioDriverUpdate world) := by
  rcases ioDriverUpdate_frame world with ⟨sameTable, sameStore, sameIo⟩
  constructor
  · rw [sameTable]
    exact coherent.wired
  · intro channel member hasPin
    rw [sameTable] at member
    rcases List.mem_iff_getElem?.mp member with ⟨index, found⟩
    have right := ioDriverUpdate_right coherent found hasPin
    exact congrArg Pin.driven right
  · intro index channel found hasPin _
    rw [sameTable] at found
    have right := ioDriverUpdate_right coherent found hasPin
    rw [ioDriverUpdate_localMask coherent.wired.few found]
    have level := congrArg Pin.level right
    rw [IoWorld.isLocal, sameIo] at level
    exact level

end

/-! ## Boot -/

section

variable {outputTable : List OutputChannel}

/-- What holds during the boot of the outputs that were set up so far. -/
def Booted (boot : IoBoot) (position : OutputChannel × Nat) : Prop :=
  position.1.HasPin →
  boot.pins position.1.gpio =
      { driven := true
        level :=
          ioDriverOutputGpioLevel position.1
            (decide (boot.shadow position.1.id ≠ 0)) } ∧
    boot.localMask.getLsbD position.2 = true

theorem shadowAssign_other
    (shadow : UInt16 → Int32) {id other : UInt16} (value : Int32)
    (different : other ≠ id) :
    ioDriverStateShadowAssign shadow id value other = shadow other := by
  rw [ioDriverStateShadowAssign]
  split
  · exact Function.update_of_ne different _ _
  · rfl

theorem shadowAssign_same
    (shadow : UInt16 → Int32) {id : UInt16} (valid : StateValidId id)
    (value : Int32) :
    ioDriverStateShadowAssign shadow id value id = value := by
  rw [ioDriverStateShadowAssign, if_pos valid]
  exact Function.update_self _ _ _

variable {position : OutputChannel × Nat}

theorem Booted.of_same
    {boot after : IoBoot}
    (booted : Booted boot position)
    (samePin :
      position.1.HasPin →
      after.pins position.1.gpio = boot.pins position.1.gpio)
    (sameValue : after.shadow position.1.id = boot.shadow position.1.id)
    (keptBit :
      boot.localMask.getLsbD position.2 = true →
      after.localMask.getLsbD position.2 = true) :
    Booted after position := by
  intro hasPin
  rcases booted hasPin with ⟨pin, bit⟩
  rw [samePin hasPin, sameValue]
  exact ⟨pin, keptBit bit⟩

theorem bootOutput_booted
    (wired : Wired outputTable) (store : StateStore) (boot : IoBoot)
    (listed : position.1 ∈ outputTable)
    (inside : position.2 < 32)
    {other : OutputChannel × Nat} (otherListed : other.1 ∈ outputTable)
    (booted : other = position ∨ Booted boot other) :
    Booted (bootOutput store boot position) other := by
  by_cases own : other.1 = position.1
  · intro hasPin
    have isPin : ¬ position.1.gpio = gpioNumNc := by
      rw [← own]
      exact hasPin.1
    have valid := outputProfile_validId (wired.known _ listed)
    have bit :
        (BitMask.set boot.localMask position.2).getLsbD other.2 = true := by
      rw [BitMask.getLsbD_set _ inside]
      rcases booted with rfl | booted
      · simp
      · simp [(booted hasPin).2]
    simp only [bootOutput, if_neg isPin, own, shadowAssign_same _ valid,
      gpioSetLevel, gpioConfig, Function.update_self, bit, and_self]
  · rcases booted with rfl | booted
    · exact absurd rfl own
    have differentId : other.1.id ≠ position.1.id := by
      intro same
      exact own (wired.same _ otherListed _ listed same)
    rw [bootOutput]
    split
    · exact
        booted.of_same (fun _ => rfl) (shadowAssign_other _ _ differentId) id
    · refine
        booted.of_same ?_ (shadowAssign_other _ _ differentId) ?_
      · intro hasPin
        have differentPin : other.1.gpio ≠ position.1.gpio := by
          intro same
          exact own (wired.apart _ otherListed _ listed hasPin same)
        simp only [gpioSetLevel, gpioConfig, Function.update_of_ne differentPin]
      · intro bit
        dsimp only
        rw [BitMask.getLsbD_set _ inside, bit, Bool.true_or]

theorem bootOutputs_booted
    (wired : Wired outputTable) (store : StateStore)
    (positions : List (OutputChannel × Nat))
    (listed :
      ∀ position ∈ positions, position.1 ∈ outputTable ∧ position.2 < 32)
    (boot : IoBoot)
    {other : OutputChannel × Nat} (otherListed : other.1 ∈ outputTable)
    (booted : other ∈ positions ∨ Booted boot other) :
    Booted (positions.foldl (bootOutput store) boot) other := by
  induction positions generalizing boot with
  | nil =>
      rcases booted with member | booted
      · cases member
      · exact booted
  | cons position positions induction =>
      have here := listed position (List.mem_cons_self ..)
      apply induction
      · intro later member
        exact listed later (List.mem_cons_of_mem _ member)
      · rcases booted with member | booted
        · rcases List.mem_cons.mp member with same | later
          · refine Or.inr ?_
            exact
              bootOutput_booted wired store boot here.1 here.2 otherListed
                (Or.inl same)
          · exact Or.inl later
        · refine Or.inr ?_
          exact
            bootOutput_booted wired store boot here.1 here.2 otherListed
              (Or.inr booted)

theorem bootInput_booted
    {boot : IoBoot} {input : InputChannel × InputReading}
    (inputKnown : input.1.id ∈ inputProfile)
    (outputKnown : position.1.id ∈ outputProfile)
    (apart :
      position.1.HasPin →
      (input.1.backend = .adcNative → input.2.adcReady = true) →
      input.1.gpio ≠ position.1.gpio)
    (booted : Booted boot position) :
    Booted (bootInput boot input) position := by
  have differentId : position.1.id ≠ input.1.id :=
    (input_ne_output inputKnown outputKnown).symm
  rw [bootInput]
  split
  · refine booted.of_same ?_ (shadowAssign_other _ _ differentId) id
    intro hasPin
    dsimp only
    split
    · next ready =>
        have differentPin := apart hasPin fun _ => ready
        exact Function.update_of_ne differentPin.symm _ _
    · rfl
  · next digital =>
      split
      · exact
          booted.of_same (fun _ => rfl) (shadowAssign_other _ _ differentId) id
      · refine booted.of_same ?_ (shadowAssign_other _ _ differentId) id
        intro hasPin
        have differentPin := apart hasPin fun isAdc => absurd isAdc digital
        exact Function.update_of_ne differentPin.symm _ _

end

theorem ioDriverBoot_booted
    {power : IoPower}
    (exclusive : bindings.Exclusive power.reading)
    {index : Nat}
    (found : (ioDriverLoadOutputs bindings)[index]? = some channel) :
    Booted (ioDriverBoot bindings power) (channel, index) := by
  have wired := loadOutputs_wired exclusive
  have member := List.mem_of_getElem? found
  have outputs :
      Booted
        ((ioDriverLoadOutputs bindings).zipIdx.foldl
          (bootOutput power.store)
          { pins := power.pins
            shadow := power.store.intValues
            failsafe := power.failsafe
            localMask := 0 })
        (channel, index) := by
    refine
      bootOutputs_booted wired power.store _ ?_ _ member
        (Or.inl (List.mk_mem_zipIdx_iff_getElem?.mpr found))
    intro position inList
    refine ⟨List.fst_mem_of_mem_zipIdx inList, ?_⟩
    have inside := List.snd_lt_of_mem_zipIdx inList
    exact Nat.lt_of_lt_of_le inside wired.few
  rw [ioDriverBoot]
  refine
    List.foldlRecOn (motive := fun boot => Booted boot (channel, index))
      ((ioDriverLoadInputs bindings).map fun input =>
        (input, power.reading input))
      bootInput outputs ?_
  intro boot booted input inList
  rcases List.mem_map.mp inList with ⟨source, listed, rfl⟩
  refine
    bootInput_booted (loadInputs_known listed) (wired.known _ member) ?_ booted
  intro hasPin takesPin
  exact exclusive.inputs channel member source listed hasPin takesPin

theorem ioDriverInit_coherent
    {power : IoPower}
    (exclusive : bindings.Exclusive power.reading) :
    Coherent (ioDriverInit bindings power) := by
  constructor
  · exact loadOutputs_wired exclusive
  · intro channel member hasPin
    rcases List.mem_iff_getElem?.mp member with ⟨index, found⟩
    have booted := ioDriverBoot_booted exclusive found hasPin
    exact congrArg Pin.driven booted.1
  · intro index channel found hasPin _
    have booted := ioDriverBoot_booted exclusive found hasPin
    have bit : (ioDriverInit bindings power).localMask.getLsbD index = true :=
      booted.2
    rw [bit, levelFor, Bool.true_and]
    exact congrArg Pin.level booted.1

/-! ## Runs -/

theorem step_coherent
    {world : IoWorld} (coherent : Coherent world) (action : IoAction) :
    Coherent (world.step action).1 := by
  cases action with
  | stateSetInt id value => exact stateSetInt_coherent coherent id value
  | ownership io =>
      exact ⟨coherent.wired, coherent.driven, coherent.level⟩
  | ioDriverUpdate => exact ioDriverUpdate_coherent coherent

theorem run_coherent
    {start : IoWorld} (coherent : Coherent start)
    (actions : List IoAction) :
    Coherent (Run.final IoWorld.step start actions) :=
  Run.final_invariant Coherent coherent
    (fun _ action reached => step_coherent reached action) actions

/--
In every run from a boot where no pin is used twice, an update drives every
output that has a pin at its right level, and at any time an output with no
flag raised, whose ownership is the one the driver noted, is at its right
level already.
-/
theorem outputs_follow_state
    {bindings : IoBindings} {power : IoPower}
    (exclusive : bindings.Exclusive power.reading)
    (actions : List IoAction)
    {index : Nat} {channel : OutputChannel}
    (found :
      (Run.final IoWorld.step (ioDriverInit bindings power)
        actions).outputTable[index]? = some channel)
    (hasPin : channel.HasPin) :
    (ioDriverUpdate
        (Run.final IoWorld.step (ioDriverInit bindings power)
          actions)).Right channel ∧
    ((Run.final IoWorld.step (ioDriverInit bindings power)
        actions).Quiet channel →
      (Run.final IoWorld.step (ioDriverInit bindings power)
          actions).localMask.getLsbD index =
        (Run.final IoWorld.step (ioDriverInit bindings power)
          actions).isLocal channel →
      (Run.final IoWorld.step (ioDriverInit bindings power)
        actions).Right channel) := by
  have coherent := run_coherent (ioDriverInit_coherent exclusive) actions
  constructor
  · exact ioDriverUpdate_right coherent found hasPin
  · intro quiet unchanged
    exact coherent.right found hasPin quiet unchanged

def storedV1 (ids : List UInt16) : IoBindingOutputBlobV1 where
  magic := ioBindingMagicOutputs
  version := ioBindingVersionV1
  count := UInt16.ofNat ids.length
  outputs := fun index =>
    { id := ids[index.val]?.getD 0, name := [], role := [] }

def bindingsV1 (ids : List UInt16) : IoBindings where
  inputEntries := ioBindingApplyInputDefaults
  outputEntries := (ioBindingLoadOutputsV1 (storedV1 ids)).2

def powerOn : IoPower where
  store := stateInit
  io := clusterIoInit 1
  pins := fun _ => { driven := false, level := false }
  failsafe := failsafeDefaults .other
  reading := fun _ => { adcReady := true, value := 0 }

/-- Output 100 of a device with outputs 100 to 105 is switched on. -/
theorem firstOutput_right :
    (ioDriverUpdate
      (Run.final IoWorld.step
        (ioDriverInit (bindingsV1 [100, 101, 102, 103, 104, 105]) powerOn)
        [.stateSetInt 100 1])).Right
      { id := 100, gpio := 22, activeLow := true } := by
  have exclusive :
      (bindingsV1 [100, 101, 102, 103, 104, 105]).Exclusive
        powerOn.reading :=
    ⟨by decide +kernel, by decide +kernel⟩
  exact
    (@outputs_follow_state _ powerOn exclusive [.stateSetInt 100 1] 0 _
      (by decide +kernel) (by decide)).1

/--
A record of the first version may list outputs 100 and 112, which have the
same pin.  Switching on the one drives the other on as well.
-/
theorem sharedPin_wrong :
    ¬ ∀ channel ∈
        (ioDriverInit
          (bindingsV1 [100, 101, 102, 103, 104, 105, 112])
          powerOn).outputTable,
      channel.HasPin →
      (ioDriverUpdate
        (Run.final IoWorld.step
          (ioDriverInit
            (bindingsV1 [100, 101, 102, 103, 104, 105, 112]) powerOn)
          [.stateSetInt 100 1])).Right channel := by
  intro all
  have wrong :=
    all { id := 112, gpio := 22, activeLow := true } (by decide +kernel)
      (by decide)
  rw [IoWorld.Right] at wrong
  revert wrong
  decide +kernel

end Endap.Io
