import Endap.Library.CText
import Endap.State.Store
import Mathlib.Data.Fintype.Pi

/-!
# Process variables

A process variable turns the raw value of a sensor into a scaled value and
watches two limits, with hysteresis.  Every change of its alarm state is
written to a ring of 64 events, and a new alarm is published on the event bus.

The arithmetic is that of the machine: 32-bit values that wrap, a product in
64 bits, and division that rounds towards zero.
-/

namespace Endap.Pve

open Endap.Library
open Endap.State

/-! ## The data -/

abbrev maxPveVariables : Nat := 7

def pveSourceAdcNative : UInt8 := 0

def pveSourceVirtual : UInt8 := 4

/-- `pve_alarm_state_t`. -/
inductive AlarmState where
  | ok
  | high
  | low
deriving DecidableEq

structure PveRuntime where
  rawValue : Int32 := 0
  scaledValue : Int32 := 0
  alarmState : AlarmState := .ok
deriving DecidableEq

structure PveConfig where
  inputMin : Int32 := 0
  inputMax : Int32 := 0
  scaledMin : Int32 := 0
  scaledMax : Int32 := 0
  decimals : UInt8 := 0
  unit : Fin 8 → UInt8 := fun _ => 0

structure PveAlarm where
  highLimit : Int32 := 0
  lowLimit : Int32 := 0
  hysteresis : Int32 := 0
  enabled : UInt8 := 0
deriving DecidableEq

structure PveVariable where
  sourceType : UInt8 := 0
  sourceId : UInt32 := 0
  name : Fin 16 → UInt8 := fun _ => 0
  runtime : PveRuntime := {}
  config : PveConfig := {}
  alarm : PveAlarm := {}

abbrev PveVariables := Fin maxPveVariables → PveVariable

/-- `pve_variables` before the program starts. -/
def zeroVariables : PveVariables := fun _ => {}

def pveInitVariables : PveVariables
  | 0 =>
      { sourceType := pveSourceAdcNative
        sourceId := 6
        name := CText.literal 16 "AIN1"
        config :=
          { inputMin := 0, inputMax := 4095, scaledMin := 0
            scaledMax := 1000, decimals := 1
            unit := CText.literal 8 "bar" }
        alarm :=
          { highLimit := 800, lowLimit := 200, hysteresis := 50
            enabled := 0 } }
  | 1 =>
      { sourceType := pveSourceAdcNative
        sourceId := 7
        name := CText.literal 16 "AIN2"
        config :=
          { inputMin := 0, inputMax := 4095, scaledMin := 0
            scaledMax := 10000, decimals := 2
            unit := CText.literal 8 "%" }
        alarm :=
          { highLimit := 9000, lowLimit := 1000, hysteresis := 500
            enabled := 0 } }
  | 2 =>
      { sourceType := pveSourceVirtual
        sourceId := 14
        name := CText.literal 16 "TEMP_AHT"
        config :=
          { inputMin := -400, inputMax := 800, scaledMin := -400
            scaledMax := 800, decimals := 1
            unit := CText.literal 8 "C" }
        alarm :=
          { highLimit := 500, lowLimit := 0, hysteresis := 20
            enabled := 0 } }
  | 3 =>
      { sourceType := pveSourceVirtual
        sourceId := 15
        name := CText.literal 16 "HUM_AHT"
        config :=
          { inputMin := 0, inputMax := 1000, scaledMin := 0
            scaledMax := 1000, decimals := 1
            unit := CText.literal 8 "%" }
        alarm :=
          { highLimit := 800, lowLimit := 200, hysteresis := 50
            enabled := 0 } }
  | 4 =>
      { sourceType := pveSourceVirtual
        sourceId := 16
        name := CText.literal 16 "TEMP_DS"
        config :=
          { inputMin := -550, inputMax := 1250, scaledMin := -550
            scaledMax := 1250, decimals := 1
            unit := CText.literal 8 "C" }
        alarm :=
          { highLimit := 600, lowLimit := 50, hysteresis := 15
            enabled := 0 } }
  | 5 =>
      { sourceType := pveSourceVirtual
        sourceId := 17
        name := CText.literal 16 "TEMP_DHT"
        config :=
          { inputMin := -200, inputMax := 600, scaledMin := -200
            scaledMax := 600, decimals := 1
            unit := CText.literal 8 "C" }
        alarm :=
          { highLimit := 500, lowLimit := 0, hysteresis := 20
            enabled := 0 } }
  | 6 =>
      { sourceType := pveSourceVirtual
        sourceId := 18
        name := CText.literal 16 "HUM_DHT"
        config :=
          { inputMin := 0, inputMax := 1000, scaledMin := 0
            scaledMax := 1000, decimals := 1
            unit := CText.literal 8 "%" }
        alarm :=
          { highLimit := 800, lowLimit := 200, hysteresis := 50
            enabled := 0 } }

/-! ## Scaling -/

/-- The rounded interpolation of `pve_scale`. -/
def pveInterpolate
    (raw inputMin inputMax scaledMin scaledMax : Int32) : Int32 :=
  let numerator := (raw - inputMin).toInt64 * (scaledMax - scaledMin).toInt64
  let denominator := (inputMax - inputMin).toInt64
  let result :=
    if xor (numerator < 0) (denominator < 0) then
      (numerator - denominator / 2) / denominator
    else (numerator + denominator / 2) / denominator
  (scaledMin.toInt64 + result).toInt32

def pveScale (raw inputMin inputMax scaledMin scaledMax : Int32) : Int32 :=
  if inputMax = inputMin then scaledMin
  else if inputMax < inputMin then
    if raw ≥ inputMin then scaledMin
    else if raw ≤ inputMax then scaledMax
    else pveInterpolate raw inputMin inputMax scaledMin scaledMax
  else if raw ≤ inputMin then scaledMin
  else if raw ≥ inputMax then scaledMax
  else pveInterpolate raw inputMin inputMax scaledMin scaledMax

/-! ## The alarm history -/

structure PveAlarmEvent where
  timestamp : UInt32 := 0
  pveId : UInt16 := 0
  state : AlarmState := .ok
  scaledValue : Int32 := 0

def alarmHistoryMax : Nat := 64

theorem alarmHistoryMax_pos : 0 < alarmHistoryMax := Nat.zero_lt_succ _

/-- `alarm_history`, with its head and its count. -/
structure AlarmHistory where
  events : Nat → PveAlarmEvent
  head : Nat
  count : Nat
  headFits : head < alarmHistoryMax
  countFits : count ≤ alarmHistoryMax

/-- The history at the start of the program, and `pve_clear_alarm_history`. -/
def pveClearAlarmHistory : AlarmHistory where
  events := fun _ => {}
  head := 0
  count := 0
  headFits := alarmHistoryMax_pos
  countFits := Nat.zero_le _

def pveLogAlarmEvent (history : AlarmHistory) (event : PveAlarmEvent) :
    AlarmHistory where
  events := Function.update history.events history.head event
  head := (history.head + 1) % alarmHistoryMax
  count :=
    if history.count < alarmHistoryMax then history.count + 1
    else history.count
  headFits := Nat.mod_lt _ alarmHistoryMax_pos
  countFits := by
    split
    · assumption
    · exact history.countFits

/-- `pve_get_alarm_history`, the events copied. -/
def pveGetAlarmHistory (history : AlarmHistory) (maxLen : Nat) :
    List PveAlarmEvent :=
  let copyCount :=
    if history.count < maxLen then history.count else maxLen
  let startIdx :=
    (history.head + alarmHistoryMax - history.count) % alarmHistoryMax
  (List.range copyCount).map fun index =>
    history.events ((startIdx + index) % alarmHistoryMax)

/-! ## Updates -/

/-- The state next to the variables: the history, the event bus, and the
seconds that the clock is going to read. -/
structure PveWorld where
  pveVariables : PveVariables
  history : AlarmHistory
  bus : EventBus
  seconds : Nat → UInt32

/-- The alarm state that `pve_update` computes. -/
def nextAlarmState
    (alarm : PveAlarm) (state : AlarmState) (scaledValue : Int32) :
    AlarmState :=
  if alarm.enabled ≠ 0 then
    match state with
    | .high =>
        if scaledValue ≤ alarm.highLimit - alarm.hysteresis then
          if scaledValue ≤ alarm.lowLimit then .low else .ok
        else .high
    | .low =>
        if scaledValue ≥ alarm.lowLimit + alarm.hysteresis then
          if scaledValue ≥ alarm.highLimit then .high else .ok
        else .low
    | .ok =>
        if scaledValue ≥ alarm.highLimit then .high
        else if scaledValue ≤ alarm.lowLimit then .low
        else .ok
  else .ok

/-- The variable after `pve_update`. -/
def PveVariable.updated (var : PveVariable) (rawValue : Int32) :
    PveVariable :=
  let scaledValue :=
    pveScale rawValue var.config.inputMin var.config.inputMax
      var.config.scaledMin var.config.scaledMax
  { var with
    runtime :=
      { rawValue := rawValue
        scaledValue := scaledValue
        alarmState :=
          nextAlarmState var.alarm var.runtime.alarmState scaledValue } }

/-- The event that a new alarm publishes. -/
def PveVariable.published (var : PveVariable) : Option EndapEvent :=
  let event (type : EventType) : EndapEvent :=
    { type := type
      source := var.sourceId.toUInt16
      data := var.runtime.scaledValue }
  match var.runtime.alarmState with
  | .ok => none
  | .high => some (event .pveAlarmHigh)
  | .low => some (event .pveAlarmLow)

/-- `pve_update`, for one of the variables. -/
def pveUpdate (world : PveWorld) (id : Fin maxPveVariables)
    (rawValue : Int32) : PveWorld :=
  let before := world.pveVariables id
  let after := before.updated rawValue
  let written :=
    { world with
      pveVariables := Function.update world.pveVariables id after }
  if after.runtime.alarmState ≠ before.runtime.alarmState then
    { written with
      history :=
        pveLogAlarmEvent world.history
          { timestamp := world.seconds 0
            pveId := UInt16.ofNat id.val
            state := after.runtime.alarmState
            scaledValue := after.runtime.scaledValue }
      bus :=
        match after.published with
        | none => world.bus
        | some event => eventBusPublish world.bus event
      seconds := fun reading => world.seconds (reading + 1) }
  else written

/-- `pve_bindings`, state and variable. -/
def pveBindings : List (UInt16 × UInt16) :=
  [(12, 0), (13, 1), (14, 2), (15, 3), (16, 4)]

def pveGetScaledValue
    (pveVariables : PveVariables) (stateId : UInt16) (fallback : Int32) :
    Int32 :=
  (pveBindings.findSome? fun binding =>
      if binding.1 = stateId then
        if fits : binding.2.toNat < maxPveVariables then
          some (pveVariables ⟨binding.2.toNat, fits⟩).runtime.scaledValue
        else none
      else none).getD
    fallback

end Endap.Pve
