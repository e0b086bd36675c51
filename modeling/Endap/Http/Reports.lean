import Endap.Failsafe.Status
import Endap.Http.PveConfig
import Endap.Io.BindingTable
import Endap.Io.Driver
import Endap.Library.Appending

/-!
# Reports in fixed buffers

The reports of the channels, of the process variables and of their alarms are
printed into buffers of 8192, 2048 and 4096 bytes.  Every `snprintf` is given
the room that the running offset leaves, and no handler looks whether the
offset is still inside; the builders of the other reports do.

The length of a report is a sum of literals, digits and texts.  The main
theorem says that a handler stays inside its buffer exactly if that sum does.
-/

namespace Endap.Http

open Endap.Failsafe
open Endap.Io
open Endap.Library
open Endap.Library.Unchecked
open Endap.Pve
open Endap.State

/-! ## The channels -/

/-- The fields of `io_binding_input_view_t` and `io_binding_output_view_t`
that the report shows. -/
structure ChannelView where
  id : UInt16
  gpio : Int16
  backend : UInt8
  channelClass : UInt8

/-- `io_binding_export_inputs` and `io_binding_export_outputs`, with room for
16 channels.  A channel is looked up again by its identifier. -/
def exportChannels (entries : List Binding) : List ChannelView :=
  (entries.take ioBindingMaxInputs).map fun entry =>
    let first := (entries.find? fun other => other.id = entry.id).getD entry
    { id := entry.id
      gpio := first.gpio
      backend := first.backend
      channelClass := first.channelClass }

/-- What `io_map_handler` reads. -/
structure IoMapSource where
  tables : BindingTables
  store : StateStore
  outputTable : List OutputChannel
  gpioLevel : Int → Bool
  failsafe : FailsafeTable

def ioDriverGetOutputPhysicalLevel (source : IoMapSource) (id : UInt16) :
    Option Int32 :=
  (source.outputTable.find? fun channel => channel.id = id).map fun channel =>
    if channel.gpio < 0 then stateValue source.store id
    else if source.gpioLevel channel.gpio = channel.activeLow then 0
    else 1

/-- `type_str`; the class 2 is that of the analog inputs. -/
def ChannelView.typeText (input : ChannelView) : List UInt8 :=
  if input.channelClass = 2 then CText.bytes "analog_input"
  else CText.bytes "digital_input"

/-- `prof_str`. -/
def ChannelView.profileText (input : ChannelView) : List UInt8 :=
  if input.backend.toUInt32 = backendMcp then CText.bytes "mcp23x17"
  else CText.bytes "gpio"

/-- The text of an input. -/
def ioInputText (source : IoMapSource) (index : Nat) (input : ChannelView) :
    List UInt8 :=
  List.flatten
    [CText.bytes "\x7b\"channel_id\":", Lines.decimal input.id.toNat,
      CText.bytes ",\"name\":\"I", Lines.decimal (index / 8),
      CText.bytes ".", Lines.decimal (index % 8),
      CText.bytes "\",\"type\":\"", input.typeText,
      CText.bytes "\",\"gpio\":", Lines.signed input.gpio.toInt,
      CText.bytes ",\"profile\":\"", input.profileText,
      CText.bytes "\",\"state\":",
      Lines.signed (stateValue source.store input.id).toInt,
      CText.bytes ",\"implemented\":true\x7d"]

/-- `reported_val` of an output. -/
def reportedValue (source : IoMapSource) (id : UInt16) : Int32 :=
  (ioDriverGetOutputPhysicalLevel source id).getD (stateValue source.store id)

/-- The text of an output. -/
def ioOutputText (source : IoMapSource) (index : Nat) (output : ChannelView) :
    List UInt8 :=
  List.flatten
    [CText.bytes "\x7b\"channel_id\":", Lines.decimal output.id.toNat,
      CText.bytes ",\"name\":\"Q", Lines.decimal (index / 8),
      CText.bytes ".", Lines.decimal (index % 8),
      CText.bytes "\",\"type\":\"digital_output\",\"gpio\":",
      Lines.signed output.gpio.toInt,
      CText.bytes ",\"profile\":\"relay\",\"desired\":",
      Lines.signed (stateValue source.store output.id).toInt,
      CText.bytes ",\"reported\":",
      Lines.signed (reportedValue source output.id).toInt,
      CText.bytes ",\"failsafe\":",
      if failsafeIsActive source.failsafe output.id then CText.bytes "true"
      else CText.bytes "false",
      CText.bytes ",\"driver_enabled\":true,\"physical_present\":true",
      CText.bytes ",\"control_path\":\"V2\",\"last_transition\":",
      CText.bytes "\"state_set_int -> pending_mask -> gpio_set_level\"\x7d"]

/-- `mem_id`: the internal states begin at 26. -/
def memId (index : Nat) : UInt16 := UInt16.ofNat (26 + index)

/-- The text of an internal state. -/
def ioInternalText (source : IoMapSource) (index : Nat) : List UInt8 :=
  List.flatten
    [CText.bytes "\x7b\"channel_id\":", Lines.decimal (memId index).toNat,
      CText.bytes ",\"name\":\"M", Lines.decimal (index / 8),
      CText.bytes ".", Lines.decimal (index % 8),
      CText.bytes "\",\"type\":\"memory\",\"state\":",
      Lines.signed (stateValue source.store (memId index)).toInt,
      CText.bytes "\x7d"]

def ioMapHandler (source : IoMapSource) : Report where
  size := 8192
  texts :=
    [CText.bytes "\x7b\"inputs\":["] ++
      separated (ioInputText source) (exportChannels (source.tables .input)) ++
      [CText.bytes "],\"outputs\":["] ++
      separated (ioOutputText source)
        (exportChannels (source.tables .output)) ++
      [CText.bytes "],\"internals\":["] ++
      separated (fun index _ => ioInternalText source index) (List.range 32) ++
      [CText.bytes "]\x7d"]

/-! ## The process variables -/

/-- `source_str`. -/
def pveSourceText (sourceType : UInt8) : List UInt8 :=
  if sourceType = 0 then CText.bytes "ADC_NATIVE"
  else if sourceType = 1 then CText.bytes "ADC_EXTERNAL"
  else if sourceType = 2 then CText.bytes "MODBUS"
  else if sourceType = 3 then CText.bytes "ESPNOW"
  else if sourceType = 4 then CText.bytes "VIRTUAL"
  else CText.bytes "UNKNOWN"

/-- The number of an alarm state. -/
def alarmStateNumber : AlarmState → Nat
  | .ok => 0
  | .high => 1
  | .low => 2

/-- The text of a variable. -/
def pveVariableText (index : Nat) (var : PveVariable) : List UInt8 :=
  List.flatten
    [CText.bytes "\x7b\"id\":", Lines.decimal index,
      CText.bytes ",\"name\":\"", CText.text var.name,
      CText.bytes "\",\"source\":\"", pveSourceText var.sourceType,
      CText.bytes "\",\"source_id\":", Lines.decimal var.sourceId.toNat,
      CText.bytes ",\"raw\":", Lines.signed var.runtime.rawValue.toInt,
      CText.bytes ",\"scaled\":", Lines.signed var.runtime.scaledValue.toInt,
      CText.bytes ",\"scaled_value\":",
      Lines.signed var.runtime.scaledValue.toInt,
      CText.bytes ",\"decimals\":", Lines.decimal var.config.decimals.toNat,
      CText.bytes ",\"unit\":\"", CText.text var.config.unit,
      CText.bytes "\",\"input_min\":", Lines.signed var.config.inputMin.toInt,
      CText.bytes ",\"input_max\":", Lines.signed var.config.inputMax.toInt,
      CText.bytes ",\"scaled_min\":", Lines.signed var.config.scaledMin.toInt,
      CText.bytes ",\"scaled_max\":", Lines.signed var.config.scaledMax.toInt,
      CText.bytes ",\"alarm_enabled\":",
      Lines.decimal var.alarm.enabled.toNat,
      CText.bytes ",\"alarm_high\":", Lines.signed var.alarm.highLimit.toInt,
      CText.bytes ",\"alarm_low\":", Lines.signed var.alarm.lowLimit.toInt,
      CText.bytes ",\"alarm_hysteresis\":",
      Lines.signed var.alarm.hysteresis.toInt,
      CText.bytes ",\"alarm_state\":",
      Lines.decimal (alarmStateNumber var.runtime.alarmState),
      CText.bytes "\x7d"]

def pveHandler (pveVariables : PveVariables) : Report where
  size := 2048
  texts :=
    [CText.bytes "\x7b\"variables\":["] ++
      separated pveVariableText (List.ofFn pveVariables) ++
      [CText.bytes "]\x7d"]

/-! ## The alarm history -/

/-- The text of an event. -/
def alarmEventText (event : PveAlarmEvent) : List UInt8 :=
  List.flatten
    [CText.bytes "\x7b\"timestamp\":", Lines.decimal event.timestamp.toNat,
      CText.bytes ",\"pve_id\":", Lines.decimal event.pveId.toNat,
      CText.bytes ",\"state\":", Lines.decimal (alarmStateNumber event.state),
      CText.bytes ",\"scaled_value\":", Lines.signed event.scaledValue.toInt,
      CText.bytes "\x7d"]

def pveAlarmsHistoryHandler (history : AlarmHistory) : Report where
  size := 4096
  texts :=
    [CText.bytes "\x7b\"events\":["] ++
      separated (fun _ => alarmEventText) (pveGetAlarmHistory history 64) ++
      [CText.bytes "]\x7d"]

/-! ## Lengths -/

/-- The length of an input: the literals, the digits and the texts. -/
def ioInputLength (source : IoMapSource) (index : Nat) (input : ChannelView) :
    Nat :=
  86 + Lines.digitCount input.id.toNat + Lines.digitCount (index / 8) +
    Lines.digitCount (index % 8) +
    (if input.channelClass = 2 then 12 else 13) +
    Lines.signedLength input.gpio.toInt +
    (if input.backend.toUInt32 = backendMcp then 8 else 4) +
    Lines.signedLength (stateValue source.store input.id).toInt

theorem ioInputText_length
    (source : IoMapSource) (index : Nat) (input : ChannelView) :
    (ioInputText source index input).length =
      ioInputLength source index input := by
  have type :
      input.typeText.length =
        if input.channelClass = 2 then 12 else 13 := by
    rw [ChannelView.typeText]
    split <;> rfl
  have profile :
      input.profileText.length =
        if input.backend.toUInt32 = backendMcp then 8 else 4 := by
    rw [ChannelView.profileText]
    split <;> rfl
  simp only [ioInputText, List.flatten_cons, List.flatten_nil,
    List.length_append, Lines.decimal_length,
    Lines.signed_length, type, profile, ioInputLength]
  simp only [CText.bytes_length, String.reduceToList, List.length_cons,
    List.length_nil, Nat.zero_add, Nat.reduceAdd]
  omega

/-- The length of an output. -/
def ioOutputLength
    (source : IoMapSource) (index : Nat) (output : ChannelView) : Nat :=
  246 + Lines.digitCount output.id.toNat + Lines.digitCount (index / 8) +
    Lines.digitCount (index % 8) + Lines.signedLength output.gpio.toInt +
    Lines.signedLength (stateValue source.store output.id).toInt +
    Lines.signedLength (reportedValue source output.id).toInt +
    if failsafeIsActive source.failsafe output.id then 4 else 5

theorem ioOutputText_length
    (source : IoMapSource) (index : Nat) (output : ChannelView) :
    (ioOutputText source index output).length =
      ioOutputLength source index output := by
  simp only [ioOutputText, List.flatten_cons, List.flatten_nil,
    List.length_append, Lines.decimal_length,
    Lines.signed_length, ioOutputLength]
  split <;>
    simp only [CText.bytes_length, String.reduceToList, List.length_cons,
      List.length_nil, Nat.zero_add, Nat.reduceAdd] <;>
    omega

/-- The length of an internal state. -/
def ioInternalLength (source : IoMapSource) (index : Nat) : Nat :=
  52 + Lines.digitCount (memId index).toNat + Lines.digitCount (index / 8) +
    Lines.digitCount (index % 8) +
    Lines.signedLength (stateValue source.store (memId index)).toInt

theorem ioInternalText_length (source : IoMapSource) (index : Nat) :
    (ioInternalText source index).length = ioInternalLength source index := by
  simp only [ioInternalText, List.flatten_cons, List.flatten_nil,
    List.length_append, Lines.decimal_length,
    Lines.signed_length, ioInternalLength]
  simp only [CText.bytes_length, String.reduceToList, List.length_cons,
    List.length_nil, Nat.zero_add, Nat.reduceAdd]
  omega

/-- The length of the report of the channels. -/
def ioMapLength (source : IoMapSource) : Nat :=
  let inputs := exportChannels (source.tables .input)
  let outputs := exportChannels (source.tables .output)
  72 + (contentLength (ioInputLength source) inputs + (inputs.length - 1)) +
    (contentLength (ioOutputLength source) outputs + (outputs.length - 1)) +
    contentLength (fun index _ => ioInternalLength source index) (List.range 32)

theorem ioMapHandler_length (source : IoMapSource) :
    (ioMapHandler source).document.length = ioMapLength source := by
  have inputs := separated_length (ioInputText_length source)
  have outputs := separated_length (ioOutputText_length source)
  have internals :=
    @separated_length Nat _ _
      (fun index _ => ioInternalText_length source index)
  simp only [Report.document, ioMapHandler, List.flatten_append,
    List.flatten_singleton, List.length_append, inputs, outputs, internals,
    List.length_range, ioMapLength]
  simp only [CText.bytes_length, String.reduceToList, List.length_cons,
    List.length_nil, Nat.zero_add, Nat.reduceAdd]
  omega

/-- The length of a variable. -/
def pveVariableLength (index : Nat) (var : PveVariable) : Nat :=
  230 + Lines.digitCount index + (CText.text var.name).length +
    (pveSourceText var.sourceType).length +
    Lines.digitCount var.sourceId.toNat +
    Lines.signedLength var.runtime.rawValue.toInt +
    2 * Lines.signedLength var.runtime.scaledValue.toInt +
    Lines.digitCount var.config.decimals.toNat +
    (CText.text var.config.unit).length +
    Lines.signedLength var.config.inputMin.toInt +
    Lines.signedLength var.config.inputMax.toInt +
    Lines.signedLength var.config.scaledMin.toInt +
    Lines.signedLength var.config.scaledMax.toInt +
    Lines.digitCount var.alarm.enabled.toNat +
    Lines.signedLength var.alarm.highLimit.toInt +
    Lines.signedLength var.alarm.lowLimit.toInt +
    Lines.signedLength var.alarm.hysteresis.toInt +
    Lines.digitCount (alarmStateNumber var.runtime.alarmState)

theorem pveVariableText_length (index : Nat) (var : PveVariable) :
    (pveVariableText index var).length = pveVariableLength index var := by
  simp only [pveVariableText, List.flatten_cons, List.flatten_nil,
    List.length_append, Lines.decimal_length,
    Lines.signed_length, pveVariableLength]
  simp only [CText.bytes_length, String.reduceToList, List.length_cons,
    List.length_nil, Nat.zero_add, Nat.reduceAdd]
  omega

/-- The length of the report of the variables. -/
def pveLength (pveVariables : PveVariables) : Nat :=
  22 + contentLength pveVariableLength (List.ofFn pveVariables)

theorem pveHandler_length (pveVariables : PveVariables) :
    (pveHandler pveVariables).document.length = pveLength pveVariables := by
  have each := separated_length pveVariableText_length (List.ofFn pveVariables)
  have count : (List.ofFn pveVariables).length = 7 := List.length_ofFn
  rw [count] at each
  simp only [Report.document, pveHandler, List.flatten_append,
    List.flatten_singleton, List.length_append, each, pveLength]
  simp only [CText.bytes_length, String.reduceToList, List.length_cons,
    List.length_nil, Nat.zero_add, Nat.reduceAdd]
  omega

/-- The length of an event. -/
def alarmEventLength (event : PveAlarmEvent) : Nat :=
  49 + Lines.digitCount event.timestamp.toNat +
    Lines.digitCount event.pveId.toNat +
    Lines.digitCount (alarmStateNumber event.state) +
    Lines.signedLength event.scaledValue.toInt

theorem alarmEventText_length (event : PveAlarmEvent) :
    (alarmEventText event).length = alarmEventLength event := by
  simp only [alarmEventText, List.flatten_cons, List.flatten_nil,
    List.length_append, Lines.decimal_length,
    Lines.signed_length, alarmEventLength]
  simp only [CText.bytes_length, String.reduceToList, List.length_cons,
    List.length_nil, Nat.zero_add, Nat.reduceAdd]
  omega

/-- The length of the report of the alarms. -/
def pveAlarmsLength (history : AlarmHistory) : Nat :=
  13 +
    (contentLength (fun _ => alarmEventLength)
        (pveGetAlarmHistory history 64) +
      (history.count - 1))

theorem pveAlarmsHistoryHandler_length (history : AlarmHistory) :
    (pveAlarmsHistoryHandler history).document.length =
      pveAlarmsLength history := by
  have fits := history.countFits
  rw [alarmHistoryMax] at fits
  have count : (pveGetAlarmHistory history 64).length = history.count := by
    rw [pveGetAlarmHistory_eq, List.length_take, AlarmHistory.logged_length]
    omega
  have events := separated_length fun _ : Nat => alarmEventText_length
  simp only [Report.document, pveAlarmsHistoryHandler, List.flatten_append,
    List.flatten_singleton, List.length_append, events, count,
    pveAlarmsLength]
  simp only [CText.bytes_length, String.reduceToList, List.length_cons,
    List.length_nil, Nat.zero_add, Nat.reduceAdd]
  omega

/-! ## What stays inside -/

/-- Each of the three reports stays inside its buffer exactly if its literals,
digits and texts are together not longer than the buffer. -/
theorem reports_contained_iff
    (source : IoMapSource) (pveVariables : PveVariables)
    (history : AlarmHistory) (memory : Nat → UInt8) :
    ((ioMapHandler source).Contained memory ↔ ioMapLength source ≤ 8192) ∧
    ((pveHandler pveVariables).Contained memory ↔
    pveLength pveVariables ≤ 2048) ∧
    ((pveAlarmsHistoryHandler history).Contained memory ↔
    pveAlarmsLength history ≤ 4096) := by
  refine ⟨?_, ?_, ?_⟩
  · have small : 8192 < 2 ^ 32 := by decide
    rw [@Report.contained_iff (ioMapHandler source) small, ioMapHandler_length]
    rfl
  · have small : 2048 < 2 ^ 32 := by decide
    rw [@Report.contained_iff (pveHandler pveVariables) small,
      pveHandler_length]
    rfl
  · have small : 4096 < 2 ^ 32 := by decide
    rw [@Report.contained_iff (pveAlarmsHistoryHandler history) small,
      pveAlarmsHistoryHandler_length]
    rfl

def wideBody (id : String) : List UInt8 :=
  CText.bytes "id=" ++ CText.bytes id ++
    CText.bytes "&name=OUTDOOR_TEMPERA&unit=celsius" ++
    CText.bytes "&input_min=-2147483648&input_max=2147483647" ++
    CText.bytes "&scaled_min=-2147483648&scaled_max=2147483647" ++
    CText.bytes "&alarm_high=2147483647&alarm_low=-2147483648" ++
    CText.bytes "&alarm_hysteresis=2147483647"

def widened : PveSaved × PveSaved :=
  let third :=
    pveSaveConfigHandler splitRawValue .succeeds (some (wideBody "2"))
      pveStarted none
  let fourth :=
    pveSaveConfigHandler splitRawValue .succeeds (some (wideBody "3"))
      third.world third.flash
  (third, fourth)

/-- Both configurations are accepted, and the report of the variables does not
stay inside its buffer any more. -/
theorem wide_configuration_overruns :
    widened.1.answer = .ok ∧ widened.2.answer = .ok ∧
    ¬ (pveHandler widened.2.world.pveVariables).Contained fun _ => 0 := by
  refine ⟨by decide +kernel, by decide +kernel, fun contained => ?_⟩
  have small : 2048 < 2 ^ 32 := by decide
  rw [@Report.contained_iff (pveHandler widened.2.world.pveVariables) small,
    pveHandler_length] at contained
  exact absurd contained (by decide +kernel)

end Endap.Http
