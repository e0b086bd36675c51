import Endap.Http.LadderDeploy
import Endap.Http.Query
import Endap.Pve.Storage

/-!
# Configuring a process variable

The handler of the configuration checks the input range and the lengths of the
texts, assigns the name, the scaling and the unit, and checks the hysteresis
and the limits of the alarm after that.  A request that fails one of the last
two checks is rejected when most of it has already taken effect.

The main theorem says exactly which rejected requests leave the variable as it
was.
-/

namespace Endap.Http

open Endap.Library
open Endap.Pve
open Endap.State

/-! ## The request -/

/-- The fields that `pve_save_config_handler` reads for a variable.  A number
is there when its lookup succeeds; of a name or a unit the handler looks at
the result of the lookup and at what is in the buffer. -/
structure PveRequest where
  inputMin : Option Int32
  inputMax : Option Int32
  name : Lookup
  unit : Lookup
  scaledMin : Option Int32
  scaledMax : Option Int32
  decimals : Option UInt8
  alarmEnabled : Option UInt8
  alarmHigh : Option Int32
  alarmLow : Option Int32
  alarmHysteresis : Option Int32

/-- A number of the request, read into a buffer of 16 characters. -/
def numberField (rawValue : RawValue) (body : List UInt8) (key : String) :
    Option Int32 :=
  (httpBodyGetValue rawValue body key 16).value?.map atoi

/-- The fields in a body. -/
def PveRequest.ofBody (rawValue : RawValue) (body : List UInt8) :
    PveRequest where
  inputMin := numberField rawValue body "input_min"
  inputMax := numberField rawValue body "input_max"
  name := httpBodyGetValue rawValue body "name" 128
  unit := httpBodyGetValue rawValue body "unit" 64
  scaledMin := numberField rawValue body "scaled_min"
  scaledMax := numberField rawValue body "scaled_max"
  decimals :=
    (numberField rawValue body "decimals").map fun value =>
      value.toInt8.toUInt8
  alarmEnabled :=
    (numberField rawValue body "alarm_enabled").map fun value =>
      value.toInt8.toUInt8
  alarmHigh := numberField rawValue body "alarm_high"
  alarmLow := numberField rawValue body "alarm_low"
  alarmHysteresis := numberField rawValue body "alarm_hysteresis"

def PveRequest.nextInputMin (request : PveRequest) (var : PveVariable) :
    Int32 :=
  request.inputMin.getD var.config.inputMin

def PveRequest.nextInputMax (request : PveRequest) (var : PveVariable) :
    Int32 :=
  request.inputMax.getD var.config.inputMax

/-- The variable with the values that are assigned before the alarm is looked
at. -/
def PveRequest.assigned (request : PveRequest) (var : PveVariable) :
    PveVariable :=
  { var with
    name :=
      if request.name.text ≠ [] then
        CText.strncpy var.name request.name.text 15
      else var.name
    config :=
      { inputMin := request.nextInputMin var
        inputMax := request.nextInputMax var
        scaledMin := request.scaledMin.getD var.config.scaledMin
        scaledMax := request.scaledMax.getD var.config.scaledMax
        decimals := request.decimals.getD var.config.decimals
        unit :=
          if request.unit.text ≠ [] then
            CText.strncpy var.config.unit request.unit.text 7
          else var.config.unit } }

/-- The alarm that the request asks for. -/
def PveRequest.nextAlarm (request : PveRequest) (alarm : PveAlarm) :
    PveAlarm where
  highLimit := request.alarmHigh.getD alarm.highLimit
  lowLimit := request.alarmLow.getD alarm.lowLimit
  hysteresis := request.alarmHysteresis.getD alarm.hysteresis
  enabled := request.alarmEnabled.getD alarm.enabled

/-! ## The handler -/

/-- The answers of `pve_save_config_handler`. -/
inductive PveSaveAnswer where
  | ok
  | badRequest
  | missingId
  | invalidId
  | inputMinEqualsMax
  | nameTooLong
  | unitTooLong
  | invalidHysteresis
  | invalidAlarmLimits
deriving DecidableEq

def PveSaveAnswer.status : PveSaveAnswer → HttpStatus
  | .ok => .ok
  | _ => .badRequest

/-- The error that an answer names. -/
def PveSaveAnswer.error? : PveSaveAnswer → Option String
  | .ok => none
  | .badRequest => some "bad_request"
  | .missingId => some "missing_id"
  | .invalidId => some "invalid_id"
  | .inputMinEqualsMax => some "input_min_equals_max"
  | .nameTooLong => some "name_too_long"
  | .unitTooLong => some "unit_too_long"
  | .invalidHysteresis => some "invalid_hysteresis"
  | .invalidAlarmLimits => some "invalid_alarm_limits"

/-- The text of an answer. -/
def PveSaveAnswer.content (answer : PveSaveAnswer) : List UInt8 :=
  match answer.error? with
  | none => CText.bytes "\x7b\"ok\":true\x7d"
  | some error =>
      CText.bytes "\x7b\"ok\":false,\"error\":\"" ++ CText.bytes error ++
        CText.bytes "\"\x7d"

/-- The variables, the flash and the answer of a request. -/
structure PveSaved where
  world : PveWorld
  flash : PveFlash
  answer : PveSaveAnswer

/-- `pve_save_config_handler`, from the lookup of the variable on. -/
def pveSaveVariable
    (request : PveRequest) (id : Fin maxPveVariables)
    (outcome : PveSaveOutcome) (world : PveWorld) (flash : PveFlash) :
    PveSaved :=
  let var := world.pveVariables id
  let rejected (answer : PveSaveAnswer) : PveSaved :=
    { world := world, flash := flash, answer := answer }
  if request.nextInputMin var = request.nextInputMax var then
    rejected .inputMinEqualsMax
  else if request.name.found ∧ request.name.text.length ≥ 16 then
    rejected .nameTooLong
  else if request.unit.found ∧ request.unit.text.length ≥ 8 then
    rejected .unitTooLong
  else
    -- "Apply values after validations"
    let assigned := request.assigned var
    let written (after : PveVariable) : PveWorld :=
      { world with
        pveVariables := Function.update world.pveVariables id after }
    let alarm := request.nextAlarm assigned.alarm
    if alarm.hysteresis < 0 then
      { world := written assigned
        flash := flash
        answer := .invalidHysteresis }
    else if alarm.enabled ≠ 0 ∧ alarm.highLimit ≤ alarm.lowLimit then
      { world := written assigned
        flash := flash
        answer := .invalidAlarmLimits }
    else
      let updated :=
        pveUpdate (written { assigned with alarm := alarm }) id
          assigned.runtime.rawValue
      { world := updated
        flash := pveSaveConfig updated.pveVariables outcome flash
        answer := .ok }

/-- The variable that a body names. -/
def namedVariable (rawValue : RawValue) (body : List UInt8) :
    Except PveSaveAnswer (Fin maxPveVariables) :=
  match (httpBodyGetValue rawValue body "id" 16).value? with
  | none => .error .missingId
  | some idText =>
      let id := (atoi idText).toUInt32
      if fits : id.toNat < maxPveVariables then .ok ⟨id.toNat, fits⟩
      else .error .invalidId

/-- `pve_save_config_handler`; without a body where none could be read. -/
def pveSaveConfigHandler
    (rawValue : RawValue) (outcome : PveSaveOutcome)
    (body : Option (List UInt8)) (world : PveWorld) (flash : PveFlash) :
    PveSaved :=
  match body with
  | none => { world := world, flash := flash, answer := .badRequest }
  | some body =>
      match namedVariable rawValue body with
      | .error answer => { world := world, flash := flash, answer := answer }
      | .ok id =>
          pveSaveVariable (.ofBody rawValue body) id outcome world flash

/-! ## When a rejection changes nothing -/

/-- The settings of a variable are what they were. -/
structure SameSettings (before after : PveVariable) : Prop where
  name : after.name = before.name
  config : after.config = before.config
  alarm : after.alarm = before.alarm

/-- A rejected request leaves the settings of every variable as they were. -/
def RejectionHarmless (before : PveWorld) (saved : PveSaved) : Prop :=
  saved.answer.status = .badRequest →
  ∀ id, SameSettings (before.pveVariables id) (saved.world.pveVariables id)

/-- One of the checks fails that come before the assignments. -/
def PveRequest.FailsFirstChecks
    (request : PveRequest) (var : PveVariable) : Prop :=
  request.nextInputMin var = request.nextInputMax var ∨
  (request.name.found = true ∧ request.name.text.length ≥ 16) ∨
  (request.unit.found = true ∧ request.unit.text.length ≥ 8)

/-- One of the checks of the alarm fails. -/
def PveRequest.FailsAlarmChecks
    (request : PveRequest) (var : PveVariable) : Prop :=
  (request.nextAlarm var.alarm).hysteresis < 0 ∨
  ((request.nextAlarm var.alarm).enabled ≠ 0 ∧
  (request.nextAlarm var.alarm).highLimit ≤
    (request.nextAlarm var.alarm).lowLimit)

/-- A text, unless it is empty, is the one that an array of characters holds
in all but its last place. -/
def TextPresent {size : Nat} (text : List UInt8)
    (array : Fin size → UInt8) : Prop :=
  text = [] ∨
  ∀ index : Fin size,
    index.val < size - 1 → array index = text[index.val]?.getD 0

/-- Every value that the request gives for the name, the scaling and the unit
is the present one. -/
structure PveRequest.GivesPresent
    (request : PveRequest) (var : PveVariable) : Prop where
  inputMin : ∀ value, request.inputMin = some value →
  value = var.config.inputMin
  inputMax : ∀ value, request.inputMax = some value →
  value = var.config.inputMax
  scaledMin : ∀ value, request.scaledMin = some value →
  value = var.config.scaledMin
  scaledMax : ∀ value, request.scaledMax = some value →
  value = var.config.scaledMax
  decimals : ∀ value, request.decimals = some value →
  value = var.config.decimals
  name : TextPresent request.name.text var.name
  unit : TextPresent request.unit.text var.config.unit

/-- The checks of the alarm pass, or one before them fails, or there is
nothing to assign. -/
def PveRequest.Harmless (request : PveRequest) (var : PveVariable) : Prop :=
  request.FailsAlarmChecks var →
  request.FailsFirstChecks var ∨ request.GivesPresent var

/-- The same of the request in a body, for the variable that it names. -/
def HarmlessBody
    (rawValue : RawValue) (body : Option (List UInt8)) (world : PveWorld) :
    Prop :=
  ∀ text id,
    body = some text → namedVariable rawValue text = .ok id →
    (PveRequest.ofBody rawValue text).Harmless (world.pveVariables id)

/-! ## The assignments -/

theorem getD_eq_iff {Value : Type*} (given : Option Value) (old : Value) :
    given.getD old = old ↔ ∀ value, given = some value → value = old := by
  cases given <;> simp

/-- A text written over an array leaves it as it was exactly if it is
present. -/
theorem textPresent_iff
    {size : Nat} (text : List UInt8) (array : Fin size → UInt8) :
    (if text ≠ [] then CText.strncpy array text (size - 1) else array) = array ↔
    TextPresent text array := by
  rw [TextPresent]
  by_cases empty : text = []
  · simp [empty]
  · rw [if_pos empty, or_iff_right empty, funext_iff]
    refine forall_congr' fun index => ?_
    rw [CText.strncpy]
    by_cases copied : index.val < size - 1
    · simp [copied, eq_comm]
    · simp [copied]

/-- The assignments leave the settings as they were exactly if the request
gives the present values. -/
theorem sameSettings_assigned_iff
    (request : PveRequest) (var : PveVariable) :
    SameSettings var (request.assigned var) ↔ request.GivesPresent var := by
  have name := @textPresent_iff 16 request.name.text var.name
  have unit := @textPresent_iff 8 request.unit.text var.config.unit
  constructor
  · intro same
    have config := same.config
    simp only [PveRequest.assigned] at config
    exact
      { inputMin := (getD_eq_iff _ _).mp (congrArg PveConfig.inputMin config)
        inputMax := (getD_eq_iff _ _).mp (congrArg PveConfig.inputMax config)
        scaledMin := (getD_eq_iff _ _).mp (congrArg PveConfig.scaledMin config)
        scaledMax := (getD_eq_iff _ _).mp (congrArg PveConfig.scaledMax config)
        decimals := (getD_eq_iff _ _).mp (congrArg PveConfig.decimals config)
        name := name.mp same.name
        unit := unit.mp (congrArg PveConfig.unit config) }
  · intro present
    refine ⟨name.mpr present.name, ?_, rfl⟩
    simp only [PveRequest.assigned, PveRequest.nextInputMin,
      PveRequest.nextInputMax, (getD_eq_iff _ _).mpr present.inputMin,
      (getD_eq_iff _ _).mpr present.inputMax,
      (getD_eq_iff _ _).mpr present.scaledMin,
      (getD_eq_iff _ _).mpr present.scaledMax,
      (getD_eq_iff _ _).mpr present.decimals]
    rw [unit.mpr present.unit]

theorem SameSettings.refl (var : PveVariable) : SameSettings var var where
  name := rfl
  config := rfl
  alarm := rfl

/-! ## The checks -/

section

variable {request : PveRequest} {id : Fin maxPveVariables}
    {world : PveWorld}

/-- A request that fails one of the first checks is rejected with nothing
written. -/
theorem pveSaveVariable_first
    (fails : request.FailsFirstChecks (world.pveVariables id))
    (outcome : PveSaveOutcome) (flash : PveFlash) :
    (pveSaveVariable request id outcome world flash).world = world ∧
    (pveSaveVariable request id outcome world flash).answer.status =
      .badRequest := by
  rw [pveSaveVariable]
  by_cases range :
      request.nextInputMin (world.pveVariables id) =
        request.nextInputMax (world.pveVariables id)
  · simp only [if_pos range]
    exact ⟨trivial, rfl⟩
  simp only [if_neg range]
  by_cases name : request.name.found = true ∧ request.name.text.length ≥ 16
  · simp only [if_pos name]
    exact ⟨trivial, rfl⟩
  simp only [if_neg name]
  have unit := (fails.resolve_left range).resolve_left name
  simp only [if_pos unit]
  exact ⟨trivial, rfl⟩

/-- A request that fails one of the checks of the alarm is rejected with the
assignments made. -/
theorem pveSaveVariable_alarm
    (passes : ¬ request.FailsFirstChecks (world.pveVariables id))
    (fails : request.FailsAlarmChecks (world.pveVariables id))
    (outcome : PveSaveOutcome) (flash : PveFlash) :
    (pveSaveVariable request id outcome world flash).world.pveVariables =
        Function.update world.pveVariables id
          (request.assigned (world.pveVariables id)) ∧
    (pveSaveVariable request id outcome world flash).answer.status =
      .badRequest := by
  rcases not_or.mp passes with ⟨range, texts⟩
  rcases not_or.mp texts with ⟨name, unit⟩
  have alarm :
      (request.assigned (world.pveVariables id)).alarm =
        (world.pveVariables id).alarm := rfl
  rw [pveSaveVariable]
  simp only [if_neg range, if_neg name, if_neg unit, alarm]
  by_cases negative :
      (request.nextAlarm (world.pveVariables id).alarm).hysteresis < 0
  · simp only [if_pos negative]
    exact ⟨trivial, rfl⟩
  · simp only [if_neg negative, if_pos (fails.resolve_left negative)]
    exact ⟨trivial, rfl⟩

theorem pveSaveVariable_ok
    (first : ¬ request.FailsFirstChecks (world.pveVariables id))
    (last : ¬ request.FailsAlarmChecks (world.pveVariables id))
    (outcome : PveSaveOutcome) (flash : PveFlash) :
    (pveSaveVariable request id outcome world flash).answer.status = .ok := by
  rcases not_or.mp first with ⟨range, texts⟩
  rcases not_or.mp texts with ⟨name, unit⟩
  rcases not_or.mp last with ⟨negative, limits⟩
  have alarm :
      (request.assigned (world.pveVariables id)).alarm =
        (world.pveVariables id).alarm := rfl
  rw [pveSaveVariable]
  simp only [if_neg range, if_neg name, if_neg unit, alarm, if_neg negative,
    if_neg limits]
  rfl

/-- One variable written over leaves the settings of all as they were exactly
if it does so with its own. -/
theorem sameSettings_update_iff
    (settings : PveVariables) (id : Fin maxPveVariables)
    (after : PveVariable) :
    (∀ other,
        SameSettings (settings other)
          (Function.update settings id after other)) ↔
      SameSettings (settings id) after := by
  constructor
  · intro same
    simpa using same id
  · intro same other
    by_cases isId : other = id
    · rw [isId, Function.update_self]
      exact same
    · rw [Function.update_of_ne isId]
      exact .refl _

theorem rejectionHarmless_iff
    (request : PveRequest) (id : Fin maxPveVariables)
    (outcome : PveSaveOutcome) (world : PveWorld) (flash : PveFlash) :
    RejectionHarmless world (pveSaveVariable request id outcome world flash) ↔
    request.Harmless (world.pveVariables id) := by
  by_cases first : request.FailsFirstChecks (world.pveVariables id)
  · refine iff_of_true (fun _ other => ?_) fun _ => Or.inl first
    rw [(pveSaveVariable_first first outcome flash).1]
    exact .refl _
  by_cases last : request.FailsAlarmChecks (world.pveVariables id)
  · rcases pveSaveVariable_alarm first last outcome flash with
      ⟨written, status⟩
    rw [RejectionHarmless, written, sameSettings_update_iff,
      sameSettings_assigned_iff, PveRequest.Harmless]
    simp [status, first, last]
  · refine iff_of_true (fun rejected => ?_) fun fails => absurd fails last
    rw [pveSaveVariable_ok first last] at rejected
    cases rejected

end

/-- A rejected request leaves the settings of all variables as they were,
exactly if it is rejected by one of the first checks or gives only values that
are present, wherever it fails one of the checks of the alarm. -/
theorem pveSaveConfigHandler_harmless_iff
    (rawValue : RawValue) (outcome : PveSaveOutcome)
    (body : Option (List UInt8)) (world : PveWorld) (flash : PveFlash) :
    RejectionHarmless world
        (pveSaveConfigHandler rawValue outcome body world flash) ↔
    HarmlessBody rawValue body world := by
  cases body with
  | none =>
      refine iff_of_true (fun _ _ => .refl _) fun text id isText => ?_
      cases isText
  | some text =>
      rw [pveSaveConfigHandler]
      cases named : namedVariable rawValue text with
      | error answer =>
          refine iff_of_true (fun _ _ => .refl _) ?_
          intro other id isText isId
          cases isText
          cases named.symm.trans isId
      | ok id =>
          simp only [rejectionHarmless_iff]
          constructor
          · intro harmless other id' isText isId
            cases isText
            cases named.symm.trans isId
            exact harmless
          · intro harmless
            exact harmless text id rfl named

def pveStarted : PveWorld where
  pveVariables := pveInitVariables
  history := pveClearAlarmHistory
  bus := eventBusInit
  seconds := fun _ => 0

def renamingBody : List UInt8 := CText.bytes "id=0&name=X&alarm_hysteresis=-1"

/-- The request is rejected, and the variable has its new name. -/
theorem rejected_request_renames :
    (pveSaveConfigHandler splitRawValue .succeeds (some renamingBody)
          pveStarted none).answer =
        .invalidHysteresis ∧
    CText.text
        ((pveSaveConfigHandler splitRawValue .succeeds
          (some renamingBody) pveStarted none).world.pveVariables 0).name =
      CText.bytes "X" ∧
    ¬ RejectionHarmless pveStarted
      (pveSaveConfigHandler splitRawValue .succeeds (some renamingBody)
        pveStarted none) := by
  refine ⟨by decide, by decide, fun harmless => ?_⟩
  have same := (harmless (by decide) 0).name
  exact absurd (congrFun same 0) (by decide)

end Endap.Http
