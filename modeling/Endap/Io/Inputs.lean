import Endap.Io.Driver
import Endap.Library.Debounce
import Endap.Pve.Variables

/-!
# The scan of the inputs

Each cycle of the control loop samples the inputs.  A pin is debounced: its
level reaches the process image and the state table when it was the same in
enough scans, eight at least.  A converter is read in every tenth scan, and
its value reaches the state table when it left the deadband three times.
-/

namespace Endap.Io

open Endap.Device
open Endap.Library
open Endap.Library.Debounce

/-! ## The table -/

def inputDebounceSamples : UInt8 := 8

def adcDeadbandCounts : Int32 := 64

def adcSettleSamples : UInt8 := 3

/-- A number of samples that `io_driver_clamp_debounce_samples` returns. -/
abbrev DebounceSamples :=
  { samples : UInt8 // inputDebounceSamples ≤ samples ∧ samples ≤ 32 }

def ioDriverClampDebounceSamples (configured : UInt8) : DebounceSamples :=
  if low : configured < inputDebounceSamples then
    ⟨inputDebounceSamples, by decide⟩
  else if high : configured > 32 then ⟨32, by decide⟩
  else ⟨configured, UInt8.not_lt.mp low, UInt8.not_lt.mp high⟩

/-- `input_channel_t`, without the fields of the diagnosis. -/
structure ScannedInput where
  id : UInt16
  gpio : Int
  activeLow : Bool
  debounceSamples : DebounceSamples
  lastSample : UInt8
  stableValue : UInt8
  stableCount : UInt8
  rawEdges : UInt32
  stableEdges : UInt32
  backend : ChannelBackend
  endpointIndex : Int
  lastAdcRaw : Int32
  adcSettleCount : UInt8

/-- The profile of an input with the view and the endpoint of its binding. -/
structure BoundInput where
  cfg : DeviceInputProfile
  view : IoBindingInputView
  endpointIndex : Int

/-- The entry of the table that `io_driver_load_profile` makes of an input. -/
def BoundInput.loaded (bound : BoundInput) : ScannedInput where
  id := bound.cfg.id
  gpio := bound.view.gpio
  activeLow := bound.cfg.activeLow
  debounceSamples := ioDriverClampDebounceSamples bound.cfg.debounceSamples
  lastSample := 0
  stableValue := 0
  stableCount := 0
  rawEdges := 0
  stableEdges := 0
  backend := bound.view.backend
  endpointIndex := bound.endpointIndex
  lastAdcRaw := 0
  adcSettleCount := 0

/-! ## Readings -/

/-- What the pins and the converter give in one scan: the level of a pin, the
channel of a pin, and the value of a channel.  No channel and no value is
given by a converter that was not initialized. -/
structure InputReadings where
  gpioGetLevel : Int → Int
  adcOneshotIoToChannel : Int → Option Int
  adcOneshotRead : Int → Option Int32

/-- A call that the driver makes for an input. -/
inductive InputCall where
  | ioImageSetInput (id : UInt16) (value : Int32)
  | stateSetInt (id : UInt16) (value : Int32)
  | httpServerNotifyStateChange
  | pveUpdate (var : Fin Pve.maxPveVariables) (rawValue : Int32)

/-- The level of an input, with its polarity. -/
def ScannedInput.logical (channel : ScannedInput)
    (readings : InputReadings) : UInt8 :=
  let level := readings.gpioGetLevel channel.gpio
  if channel.activeLow then (if level = 0 then 1 else 0)
  else (if level ≠ 0 then 1 else 0)

/-- The variable that a converter's pin feeds. -/
def pveCalls (gpio : Int) (rawValue : Int32) : List InputCall :=
  if gpio = 34 then [.pveUpdate ⟨0, by decide⟩ rawValue]
  else if gpio = 35 then [.pveUpdate ⟨1, by decide⟩ rawValue]
  else []

/-! ## Boot -/

/-- The level that `io_driver_init` takes for a pin. -/
def ScannedInput.initial (channel : ScannedInput)
    (readings : InputReadings) : UInt8 :=
  if channel.gpio = gpioNumNc then 0 else channel.logical readings

/-- One round of the loop of `io_driver_init` over the inputs, for a pin. -/
def ScannedInput.startPin (channel : ScannedInput)
    (readings : InputReadings) : ScannedInput × List InputCall :=
  let logical := channel.initial readings
  ({ channel with
      lastSample := logical
      stableValue := logical
      stableCount := channel.debounceSamples.val },
    [.ioImageSetInput channel.id logical.toUInt32.toInt32])

/-- The same for a converter; the reads of the converters are staggered. -/
def ScannedInput.startAdc (channel : ScannedInput)
    (readings : InputReadings) (analogChannelsLoaded : Nat) :
    ScannedInput × List InputCall :=
  let endpointIndex :=
    (readings.adcOneshotIoToChannel channel.gpio).getD channel.endpointIndex
  let initialRaw := (readings.adcOneshotRead endpointIndex).getD 0
  ({ channel with
      endpointIndex := endpointIndex
      lastAdcRaw := initialRaw
      stableValue := initialRaw.toUInt32.toUInt8
      stableCount := UInt8.ofNat (analogChannelsLoaded % 10) },
    .ioImageSetInput channel.id initialRaw :: pveCalls channel.gpio initialRaw)

/-- The loop of `io_driver_init` over the inputs. -/
def ioDriverInitInputs (readings : InputReadings) :
    Nat → List ScannedInput → List ScannedInput × List InputCall
  | _, [] => ([], [])
  | analogChannelsLoaded, channel :: rest =>
      let started :=
        if channel.backend = .adcNative then
          channel.startAdc readings analogChannelsLoaded
        else channel.startPin readings
      let later :=
        ioDriverInitInputs readings
          (if channel.backend = .adcNative then analogChannelsLoaded + 1
            else analogChannelsLoaded)
          rest
      (started.1 :: later.1, started.2 ++ later.2)

/-! ## The scan -/

/-- One round of `io_driver_scan_inputs`, for a converter. -/
def ScannedInput.scanAdc (channel : ScannedInput)
    (readings : InputReadings) : ScannedInput × List InputCall :=
  let stableCount := channel.stableCount + 1
  if stableCount < 10 then
    ({ channel with stableCount := stableCount }, [])
  else
    match readings.adcOneshotRead channel.endpointIndex with
    | none => ({ channel with stableCount := 0 }, [])
    | some rawVal =>
        let difference := rawVal - channel.lastAdcRaw
        let diff := if difference < 0 then -difference else difference
        let settled : ScannedInput × List InputCall :=
          if adcDeadbandCounts ≤ diff then
            let adcSettleCount := channel.adcSettleCount + 1
            if adcSettleSamples ≤ adcSettleCount then
              ({ channel with
                  stableCount := 0
                  lastAdcRaw := rawVal
                  adcSettleCount := 0 },
                [.stateSetInt channel.id rawVal])
            else
              ({ channel with
                  stableCount := 0
                  adcSettleCount := adcSettleCount }, [])
          else
            ({ channel with stableCount := 0, adcSettleCount := 0 }, [])
        (settled.1,
          settled.2 ++ .ioImageSetInput channel.id rawVal ::
            pveCalls channel.gpio rawVal)

/-- The count and the last sample of a pin after one more sample. -/
def ScannedInput.noteSample (channel : ScannedInput) (logical : UInt8) :
    ScannedInput :=
  if logical ≠ channel.lastSample then
    { channel with
      lastSample := logical
      stableCount := 1
      rawEdges := channel.rawEdges + 1 }
  else if channel.stableCount < channel.debounceSamples.val then
    { channel with stableCount := channel.stableCount + 1 }
  else channel

/-- The calls that make a level known. -/
def publishCalls (id : UInt16) (logical : UInt8) : List InputCall :=
  [.ioImageSetInput id logical.toUInt32.toInt32,
    .stateSetInt id logical.toUInt32.toInt32,
    .httpServerNotifyStateChange]

/-- One round of `io_driver_scan_inputs`, for a pin. -/
def ScannedInput.scanPin (channel : ScannedInput)
    (readings : InputReadings) : ScannedInput × List InputCall :=
  let logical := channel.logical readings
  let noted := channel.noteSample logical
  if noted.debounceSamples.val ≤ noted.stableCount ∧
      noted.stableValue ≠ logical then
    ({ noted with
        stableValue := logical
        stableEdges := noted.stableEdges + 1 },
      publishCalls channel.id logical)
  else (noted, [])

/-- One round of `io_driver_scan_inputs`. -/
def ScannedInput.scan (channel : ScannedInput)
    (readings : InputReadings) : ScannedInput × List InputCall :=
  if channel.backend = .adcNative then channel.scanAdc readings
  else channel.scanPin readings

def ioDriverScanInputs (inputTable : List ScannedInput)
    (readings : InputReadings) : List ScannedInput × List InputCall :=
  (inputTable.map fun channel => (channel.scan readings).1,
    inputTable.flatMap fun channel => (channel.scan readings).2)

/-- The table after some scans. -/
def scanned (inputTable : List ScannedInput)
    (scans : List InputReadings) : List ScannedInput :=
  scans.foldl (fun table readings => (ioDriverScanInputs table readings).1)
    inputTable

/-- One input after some scans. -/
def ScannedInput.after (channel : ScannedInput)
    (scans : List InputReadings) : ScannedInput :=
  scans.foldl (fun current readings => (current.scan readings).1) channel

/-- The stable values of one input after each of some scans. -/
def ScannedInput.stableValues :
    ScannedInput → List InputReadings → List UInt8
  | _, [] => []
  | channel, readings :: rest =>
      (channel.scan readings).1.stableValue ::
        (channel.scan readings).1.stableValues rest

/-! ## One input -/

theorem scanned_getElem?
    (inputTable : List ScannedInput) (scans : List InputReadings)
    (index : Nat) :
    (scanned inputTable scans)[index]? =
      inputTable[index]?.map fun channel => channel.after scans := by
  induction scans generalizing inputTable with
  | nil => exact (Option.map_id_fun' ▸ rfl)
  | cons readings rest induction =>
      have later := induction (ioDriverScanInputs inputTable readings).1
      rw [ioDriverScanInputs, List.getElem?_map, Option.map_map] at later
      exact later

variable {channel : ScannedInput}

theorem ioDriverInitInputs_getElem?
    (readings : InputReadings) (analogChannelsLoaded : Nat)
    {inputTable : List ScannedInput} {index : Nat}
    (isChannel : inputTable[index]? = some channel)
    (onPin : channel.backend ≠ .adcNative) :
    (ioDriverInitInputs readings analogChannelsLoaded inputTable).1[index]? =
      some (channel.startPin readings).1 := by
  induction inputTable generalizing index analogChannelsLoaded with
  | nil => cases isChannel
  | cons first rest induction =>
      cases index with
      | zero =>
          cases isChannel
          simp only [ioDriverInitInputs, if_neg onPin, List.getElem?_cons_zero]
      | succ index => exact induction _ isChannel

/-! ## Debouncing -/

/-- The debouncer of a pin. -/
def ScannedInput.debouncer (channel : ScannedInput) : Debouncer UInt8 where
  last := channel.lastSample
  count := channel.stableCount.toNat
  stable := channel.stableValue

theorem debouncer_stable (channel : ScannedInput) :
    channel.debouncer.stable = channel.stableValue :=
  rfl

/-- The samples that a pin needs. -/
def ScannedInput.required (channel : ScannedInput) : Nat :=
  channel.debounceSamples.val.toNat

theorem ScannedInput.required_bounds (channel : ScannedInput) :
    8 ≤ channel.required ∧ channel.required ≤ 32 :=
  ⟨UInt8.le_iff_toNat_le.mp channel.debounceSamples.property.1,
    UInt8.le_iff_toNat_le.mp channel.debounceSamples.property.2⟩

theorem ScannedInput.required_pos (channel : ScannedInput) :
    0 < channel.required :=
  Nat.lt_of_lt_of_le (by decide) channel.required_bounds.1

theorem ScannedInput.counting_iff (channel : ScannedInput) :
    channel.stableCount < channel.debounceSamples.val ↔
    channel.debouncer.count < channel.required :=
  UInt8.lt_iff_toNat_lt

theorem noteSample_debouncer
    (channel : ScannedInput) (logical : UInt8) :
    (channel.noteSample logical).debouncer =
      { channel.debouncer.sample channel.required logical with
        stable := channel.stableValue } := by
  have bound := channel.required_bounds.2
  have counting := channel.counting_iff
  rw [ScannedInput.noteSample, Debouncer.sample]
  split
  · next different =>
      rw [if_pos (show logical ≠ channel.debouncer.last from different)]
      rfl
  · next same =>
      rw [if_neg (show ¬ logical ≠ channel.debouncer.last from same)]
      rw [ne_eq, Decidable.not_not] at same
      split
      · next few =>
          have below := counting.mp few
          have next :
              (channel.stableCount + 1).toNat =
                channel.debouncer.count + 1 := by
            rw [UInt8.toNat_add]
            exact Nat.mod_eq_of_lt (by
              change channel.debouncer.count + 1 < 256
              omega)
          rw [if_pos below, same]
          simp only [ScannedInput.debouncer, next]
      · next many =>
          rw [if_neg (fun few => many (counting.mpr few)), same]
          rfl

theorem noteSample_kept
    (channel : ScannedInput) (logical : UInt8) :
    channel.noteSample logical =
      { channel with
        lastSample := logical
        stableCount := (channel.noteSample logical).stableCount
        rawEdges :=
          channel.rawEdges +
            if logical = channel.lastSample then 0 else 1 } := by
  rw [ScannedInput.noteSample]
  split
  · rfl
  · next same =>
      rw [ne_eq, Decidable.not_not] at same
      simp only [same, if_true, UInt32.add_zero]
      split
      · rfl
      · rfl

theorem publishes_iff
    (channel : ScannedInput) (logical : UInt8) :
    (channel.debounceSamples.val ≤ (channel.noteSample logical).stableCount ∧
        channel.stableValue ≠ logical) ↔
      (channel.debouncer.sample channel.required logical).stable ≠
        channel.stableValue := by
  have counted :
      (channel.noteSample logical).stableCount.toNat =
        (channel.debouncer.sample channel.required logical).count :=
    congrArg Debouncer.count (noteSample_debouncer channel logical)
  rw [UInt8.le_iff_toNat_le, counted]
  change
    _ ↔
    (if channel.required ≤
        (channel.debouncer.sample channel.required logical).count then logical
      else channel.stableValue) ≠ channel.stableValue
  split
  · next enough =>
      exact ⟨fun both => both.2.symm, fun other => ⟨enough, other.symm⟩⟩
  · next few =>
      exact ⟨fun both => absurd both.1 few, fun other => absurd rfl other⟩

theorem scanPin_spec
    (channel : ScannedInput) (readings : InputReadings) :
    let next :=
      channel.debouncer.sample channel.required (channel.logical readings)
    channel.scanPin readings =
      ({ channel with
          lastSample := next.last
          stableCount :=
            (channel.noteSample (channel.logical readings)).stableCount
          stableValue := next.stable
          rawEdges :=
            channel.rawEdges +
              if next.last = channel.lastSample then 0 else 1
          stableEdges :=
            channel.stableEdges +
              if next.stable = channel.stableValue then 0 else 1 },
        if next.stable = channel.stableValue then []
        else publishCalls channel.id (channel.logical readings)) := by
  intro next
  have publishes := publishes_iff channel (channel.logical readings)
  have kept := noteSample_kept channel (channel.logical readings)
  rw [ScannedInput.scanPin]
  have debounce := congrArg ScannedInput.debounceSamples kept
  have stable := congrArg ScannedInput.stableValue kept
  dsimp only at debounce stable
  rw [debounce, stable]
  split
  · next published =>
      have changed := publishes.mp published
      have adopted : next.stable = channel.logical readings :=
        (Debouncer.sample_stable _ _ _).resolve_right changed
      rw [kept, if_neg changed, if_neg changed, adopted]
      rfl
  · next silent =>
      have same : next.stable = channel.stableValue :=
        Decidable.not_not.mp (mt publishes.mpr silent)
      rw [kept, if_pos same, if_pos same, same, UInt32.add_zero]
      rfl

theorem scanPin_debouncer
    (channel : ScannedInput) (readings : InputReadings) :
    (channel.scanPin readings).1.debouncer =
      channel.debouncer.sample channel.required
        (channel.logical readings) := by
  have noted := noteSample_debouncer channel (channel.logical readings)
  have counted := congrArg Debouncer.count noted
  rw [scanPin_spec]
  simp only [ScannedInput.debouncer] at counted ⊢
  rw [counted]

/-! ## Runs -/

theorem scan_pin
    (onPin : channel.backend ≠ .adcNative)
    (readings : InputReadings) :
    channel.scan readings = channel.scanPin readings :=
  if_neg onPin

/-- What some scans leave of a pin. -/
structure PinRun (channel reached : ScannedInput) (samples : List UInt8) :
    Prop where
  id : reached.id = channel.id
  backend : reached.backend = channel.backend
  logical : reached.logical = channel.logical
  required : reached.required = channel.required
  debouncer :
    reached.debouncer = channel.debouncer.samples channel.required samples
  rawEdges :
    reached.rawEdges =
      channel.rawEdges + UInt32.ofNat (edges channel.lastSample samples)
  stableEdges :
    reached.stableEdges =
      channel.stableEdges +
        UInt32.ofNat
          (edges channel.stableValue
            (channel.debouncer.adopted channel.required samples))

theorem ofNat_edge {Level : Type*} [DecidableEq Level]
    (first second : Level) (rest : List Level) :
    UInt32.ofNat (edges first (second :: rest)) =
      (if second = first then 0 else 1) +
        UInt32.ofNat (edges second rest) := by
  rw [edges, UInt32.ofNat_add]
  split
  · rfl
  · rfl

theorem ofNat_edges_one {Level : Type*} [DecidableEq Level]
    (first second : Level) :
    UInt32.ofNat (edges first [second]) =
      if second = first then 0 else 1 := by
  rw [ofNat_edge]
  exact UInt32.add_zero _

theorem scan_pinRun
    (onPin : channel.backend ≠ .adcNative)
    (readings : InputReadings) :
    PinRun channel (channel.scan readings).1 [channel.logical readings] := by
  have filtered := scanPin_debouncer channel readings
  have spec := congrArg Prod.fst (scanPin_spec channel readings)
  rw [← scan_pin onPin] at spec filtered
  refine ⟨?_, ?_, ?_, ?_, filtered, ?_, ?_⟩
  · rw [spec]
  · rw [spec]
  · rw [spec]
    rfl
  · rw [spec]
    rfl
  · rw [spec, ofNat_edges_one]
    rfl
  · rw [spec, Debouncer.adopted, Debouncer.adopted, ofNat_edges_one]

theorem PinRun.cons
    {next reached : ScannedInput} {level : UInt8}
    {samples : List UInt8} (first : PinRun channel next [level])
    (later : PinRun next reached samples) :
    PinRun channel reached (level :: samples) := by
  have last : next.lastSample = level := congrArg Debouncer.last first.debouncer
  have stable :
      next.stableValue =
        (channel.debouncer.sample channel.required level).stable :=
    congrArg Debouncer.stable first.debouncer
  refine ⟨?_, ?_, ?_, ?_, ?_, ?_, ?_⟩
  · exact later.id.trans first.id
  · exact later.backend.trans first.backend
  · exact later.logical.trans first.logical
  · exact later.required.trans first.required
  · rw [later.debouncer, first.required, first.debouncer]
    rfl
  · rw [later.rawEdges, first.rawEdges, last, ofNat_edges_one, ofNat_edge,
      UInt32.add_assoc]
  · rw [later.stableEdges, first.stableEdges, stable, first.required,
      first.debouncer, Debouncer.adopted, Debouncer.adopted, Debouncer.adopted,
      ofNat_edges_one, ofNat_edge, UInt32.add_assoc]
    rfl

theorem after_pinRun
    (onPin : channel.backend ≠ .adcNative)
    (scans : List InputReadings) :
    PinRun channel (channel.after scans) (scans.map channel.logical) := by
  induction scans generalizing channel with
  | nil =>
      exact
        ⟨rfl, rfl, rfl, rfl, rfl, (UInt32.add_zero _).symm,
          (UInt32.add_zero _).symm⟩
  | cons readings rest induction =>
      have first := scan_pinRun onPin readings
      have stays : (channel.scan readings).1.backend ≠ .adcNative := by
        rw [first.backend]
        exact onPin
      have later := induction stays
      rw [first.logical] at later
      exact first.cons later

theorem stableValues_adopted
    (onPin : channel.backend ≠ .adcNative)
    (scans : List InputReadings) :
    channel.stableValues scans =
      channel.debouncer.adopted channel.required
        (scans.map channel.logical) := by
  induction scans generalizing channel with
  | nil => rfl
  | cons readings rest induction =>
      have first := scan_pinRun onPin readings
      have stays : (channel.scan readings).1.backend ≠ .adcNative := by
        rw [first.backend]
        exact onPin
      have later := induction stays
      have filtered :
          (channel.scan readings).1.debouncer =
            channel.debouncer.sample channel.required
              (channel.logical readings) :=
        first.debouncer
      rw [first.logical, first.required, filtered] at later
      rw [ScannedInput.stableValues, List.map_cons, Debouncer.adopted, later]
      exact congrArg (· :: _) (congrArg Debouncer.stable filtered)

theorem scan_calls
    (onPin : channel.backend ≠ .adcNative)
    (readings : InputReadings) :
    (channel.scan readings).2 =
      if (channel.debouncer.sample channel.required
          (channel.logical readings)).stable = channel.stableValue then []
      else publishCalls channel.id (channel.logical readings) := by
  rw [scan_pin onPin]
  exact congrArg Prod.snd (scanPin_spec channel readings)

/-! ## From the boot on -/

/-- An input that was bound to a pin, as `io_driver_init` leaves it. -/
def BoundInput.started (bound : BoundInput) (boot : InputReadings) :
    ScannedInput :=
  (bound.loaded.startPin boot).1

/-- The samples of an input, with the level at boot as a block of its own. -/
def BoundInput.samples (bound : BoundInput) (boot : InputReadings)
    (scans : List InputReadings) : List UInt8 :=
  List.replicate bound.loaded.required (bound.loaded.initial boot) ++
    scans.map bound.loaded.logical

theorem started_debouncer (bound : BoundInput) (boot : InputReadings) :
    (bound.started boot).debouncer =
      settled bound.loaded.required (bound.loaded.initial boot) :=
  rfl

variable {bound : BoundInput}

theorem after_tracks
    (onPin : bound.view.backend ≠ .adcNative)
    (boot : InputReadings) (scans : List InputReadings) :
    ((bound.started boot).after scans).debouncer.Tracks bound.loaded.required
      (bound.samples boot scans) := by
  have positive := bound.loaded.required_pos
  have reached := @after_pinRun (bound.started boot) onPin scans
  rw [reached.debouncer]
  exact (tracks_settled positive _).samples positive _

theorem scanned_started
    (inputs : List BoundInput) {index : Nat}
    (isBound : inputs[index]? = some bound)
    (onPin : bound.view.backend ≠ .adcNative) (boot : InputReadings)
    (scans : List InputReadings) :
    (scanned (ioDriverInitInputs boot 0 (inputs.map BoundInput.loaded)).1
        scans)[index]? =
      some ((bound.started boot).after scans) := by
  have isLoaded :
      (inputs.map BoundInput.loaded)[index]? = some bound.loaded := by
    rw [List.getElem?_map, isBound]
    rfl
  rw [scanned_getElem?, ioDriverInitInputs_getElem? boot 0 isLoaded onPin]
  rfl

theorem started_pinRun
    (onPin : bound.view.backend ≠ .adcNative)
    (boot : InputReadings) (scans : List InputReadings) :
    PinRun (bound.started boot) ((bound.started boot).after scans)
      (scans.map bound.loaded.logical) :=
  @after_pinRun (bound.started boot) onPin scans

theorem started_backend
    (onPin : bound.view.backend ≠ .adcNative)
    (boot : InputReadings) (scans : List InputReadings) :
    ((bound.started boot).after scans).backend ≠ .adcNative := by
  rw [(started_pinRun onPin boot scans).backend]
  exact onPin

theorem started_logical
    (onPin : bound.view.backend ≠ .adcNative)
    (boot : InputReadings) (scans : List InputReadings) :
    ((bound.started boot).after scans).logical = bound.loaded.logical :=
  (started_pinRun onPin boot scans).logical

theorem started_required
    (onPin : bound.view.backend ≠ .adcNative)
    (boot : InputReadings) (scans : List InputReadings) :
    ((bound.started boot).after scans).required =
      bound.loaded.required :=
  (started_pinRun onPin boot scans).required

theorem started_calls
    (onPin : bound.view.backend ≠ .adcNative)
    (boot : InputReadings) (scans : List InputReadings)
    (readings : InputReadings) :
    (((bound.started boot).after scans).scan readings).2 =
      if List.replicate bound.loaded.required
              (bound.loaded.logical readings) <:+
            bound.samples boot scans ++ [bound.loaded.logical readings] ∧
          ((bound.started boot).after scans).stableValue ≠
            bound.loaded.logical readings then
        publishCalls bound.cfg.id (bound.loaded.logical readings)
      else [] := by
  have reached := started_pinRun onPin boot scans
  have adopts :=
    (after_tracks onPin boot scans).adopts_iff bound.loaded.required_pos
      (bound.loaded.logical readings)
  rw [debouncer_stable] at adopts
  rw [scan_calls (started_backend onPin boot scans), reached.id,
    started_logical onPin, started_required onPin]
  by_cases completes :
      List.replicate bound.loaded.required
            (bound.loaded.logical readings) <:+
          bound.samples boot scans ++ [bound.loaded.logical readings] ∧
      ((bound.started boot).after scans).stableValue ≠
        bound.loaded.logical readings
  · rw [if_pos completes, if_neg (adopts.mpr completes)]
    rfl
  · rw [if_neg completes,
      if_pos (Decidable.not_not.mp (mt adopts.mp completes))]

theorem pulse_calls
    (onPin : channel.backend ≠ .adcNative)
    {level : UInt8} {pulse : List InputReadings} {readings : InputReadings}
    (different : level ≠ channel.lastSample)
    (isPulse : ∀ sample ∈ pulse ++ [readings], channel.logical sample = level)
    (short : (pulse ++ [readings]).length < channel.required) :
    ((channel.after pulse).scan readings).2 = [] := by
  have reached := after_pinRun onPin pulse
  have stays : (channel.after pulse).backend ≠ .adcNative := by
    rw [reached.backend]
    exact onPin
  have samples :
      ∀ some : List InputReadings,
        (∀ sample ∈ some, channel.logical sample = level) →
        some.map channel.logical = List.replicate some.length level :=
    fun some equal =>
      List.eq_replicate_iff.mpr
        ⟨List.length_map _, fun sample member => by
          rcases List.mem_map.mp member with ⟨origin, inside, rfl⟩
          exact equal origin inside⟩
  have before : (channel.after pulse).stableValue = channel.stableValue := by
    have stable := congrArg Debouncer.stable reached.debouncer
    rw [samples pulse fun sample member =>
      isPulse sample (List.mem_append_left _ member)] at stable
    refine stable.trans (Debouncer.short_pulse different ?_)
    rw [List.length_append] at short
    exact Nat.lt_of_le_of_lt (Nat.le_add_right _ _) short
  have after :
      ((channel.after pulse).debouncer.sample channel.required
          (channel.logical readings)).stable =
        channel.stableValue := by
    have step :
        channel.debouncer.samples channel.required
            ((pulse ++ [readings]).map channel.logical) =
          (channel.after pulse).debouncer.sample channel.required
            (channel.logical readings) := by
      rw [reached.debouncer, List.map_append, Debouncer.samples,
        List.foldl_append]
      rfl
    rw [← step, samples _ isPulse]
    exact Debouncer.short_pulse different short
  rw [scan_calls stays, reached.logical, reached.required, before, if_pos after]

/--
A pin that is the input at some place of the table, after any scans.  Its
stable value is the level of its last block of equal samples that is as long
as the debounce asks for, the level at boot counted as such a block.  A scan
writes the image and the state exactly when its sample completes a block of
another level than the stable one.  While fewer equal samples than that come,
no scan writes anything.  The level is adopted no more often than the samples
change, and both counters count modulo the width of their word.
-/
theorem ioDriverScanInputs_debounced
    (inputs : List BoundInput) {index : Nat} {bound : BoundInput}
    (isBound : inputs[index]? = some bound)
    (onPin : bound.view.backend ≠ .adcNative) (boot : InputReadings)
    (scans : List InputReadings) :
    let reached := (bound.started boot).after scans
    let required := (bound.loaded.debounceSamples.val).toNat
    let initial := bound.loaded.initial boot
    let raw := edges initial (scans.map bound.loaded.logical)
    let stable := edges initial ((bound.started boot).stableValues scans)
    (scanned
          (ioDriverInitInputs boot 0 (inputs.map BoundInput.loaded)).1
          scans)[index]? =
        some reached ∧
    (∀ value,
      reached.stableValue = value ↔
      LastSteady required (bound.samples boot scans) value) ∧
    (∀ readings,
      let logical := bound.loaded.logical readings
      (reached.scan readings).2 =
        if List.replicate required logical <:+
              bound.samples boot scans ++ [logical] ∧
            reached.stableValue ≠ logical then
          publishCalls bound.cfg.id logical
        else []) ∧
    (∀ level pulse readings,
      level ≠ (scans.map bound.loaded.logical).getLastD initial →
      (∀ sample ∈ pulse ++ [readings], bound.loaded.logical sample = level) →
      (pulse ++ [readings]).length < required →
      ((reached.after pulse).scan readings).2 = []) ∧
    reached.rawEdges = UInt32.ofNat raw ∧
    reached.stableEdges = UInt32.ofNat stable ∧ stable ≤ raw := by
  have run := started_pinRun onPin boot scans
  have values :
      (bound.started boot).stableValues scans =
        (bound.started boot).debouncer.adopted bound.loaded.required
          (scans.map bound.loaded.logical) :=
    @stableValues_adopted (bound.started boot) onPin scans
  have positive := bound.loaded.required_pos
  refine
    ⟨scanned_started inputs isBound onPin boot scans, ?_,
      started_calls onPin boot scans, ?_, ?_, ?_, ?_⟩
  · exact (after_tracks onPin boot scans).stable_iff positive
  · intro level pulse readings different isPulse short
    have last :
        ((bound.started boot).after scans).lastSample =
          (scans.map bound.loaded.logical).getLastD
            (bound.loaded.initial boot) :=
      (congrArg Debouncer.last run.debouncer).trans
        (Debouncer.samples_last _ _ _)
    rw [← last] at different
    rw [← started_logical onPin boot scans] at isPulse
    have few :
        (pulse ++ [readings]).length <
          ((bound.started boot).after scans).required := by
      rw [started_required onPin boot scans]
      exact short
    exact pulse_calls (started_backend onPin boot scans) different isPulse few
  · exact run.rawEdges.trans (UInt32.zero_add _)
  · rw [run.stableEdges, values]
    exact UInt32.zero_add _
  · have fewer :=
      edges_adopted_le bound.loaded.required (bound.started boot).debouncer
        (scans.map bound.loaded.logical)
    rw [started_debouncer, settled, if_pos rfl] at fewer
    rw [values]
    exact fewer

def levelReadings (level : Int) : InputReadings where
  gpioGetLevel := fun _ => level
  adcOneshotIoToChannel := fun _ => none
  adcOneshotRead := fun _ => none

def firstInput : BoundInput where
  cfg := ⟨endapInputId 0, "GPIO16", 16, false, 5⟩
  view := { id := endapInputId 0, gpio := 16, backend := .gpio }
  endpointIndex := 0

/-- A level of one scan is counted and not adopted. -/
theorem bounce_counted :
    ([firstInput][0]? = some firstInput ∧
        firstInput.view.backend ≠ .adcNative) ∧
      ((firstInput.started (levelReadings 0)).after
          [levelReadings 1, levelReadings 0]).rawEdges = 2 ∧
      ((firstInput.started (levelReadings 0)).after
          [levelReadings 1, levelReadings 0]).stableEdges = 0 := by
  have onPin : firstInput.view.backend ≠ .adcNative := by decide
  have debounced :=
    @ioDriverScanInputs_debounced [firstInput] 0 firstInput rfl onPin
      (levelReadings 0) [levelReadings 1, levelReadings 0]
  exact ⟨⟨rfl, onPin⟩, debounced.2.2.2.2.1, debounced.2.2.2.2.2.1⟩

end Endap.Io
