import Endap.Http.JsonBuilder
import Endap.Http.OnboardingNames
import Endap.Http.Reports

/-!
# Texts of the operator in documents without escapes

Two documents show texts that an operator has given and are printed without
the builder: that of the process variables, with their names and units, and
that of the onboarding, with the name of the node.  The texts come out of
requests in which any byte can be written as an escape, and they are put
between quotes as they are.
-/

namespace Endap.Http

open Endap.Library
open Endap.Library.Unchecked
open Endap.Onboarding
open Endap.Pve
open Endap.State

/-! ## The process variables -/

/-- A string that can stand between quotes as it is. -/
structure Written (bytes : List UInt8) : Prop where
  plain : Json.Plain bytes
  isText : Utf8.IsText bytes

theorem PlainText.written {value : String} (isPlain : PlainText value = true) :
    Written (CText.bytes value) :=
  ⟨PlainText.plain isPlain, PlainText.isText isPlain⟩

/-- A text without escapes is decoded to its value exactly if its strings are
written. -/
theorem decode_written_iff (value : Json) :
    Json.decode (value.text id) = some value ↔
    ∀ bytes ∈ value.strings, Written bytes := by
  rw [Json.decode_id_iff]
  exact forall₂_congr fun _ _ =>
    ⟨fun ⟨plain, isText⟩ => ⟨plain, isText⟩,
      fun ⟨plain, isText⟩ => ⟨plain, isText⟩⟩

/-- The members of the object of a variable. -/
def variableMembers (index : Nat) (var : PveVariable) : List (String × Json) :=
  [("id", jsonInt index),
    ("name", .string (CText.text var.name)),
    ("source", .string (pveSourceText var.sourceType)),
    ("source_id", jsonInt var.sourceId.toNat),
    ("raw", jsonInt var.runtime.rawValue.toInt),
    ("scaled", jsonInt var.runtime.scaledValue.toInt),
    ("scaled_value", jsonInt var.runtime.scaledValue.toInt),
    ("decimals", jsonInt var.config.decimals.toNat),
    ("unit", .string (CText.text var.config.unit)),
    ("input_min", jsonInt var.config.inputMin.toInt),
    ("input_max", jsonInt var.config.inputMax.toInt),
    ("scaled_min", jsonInt var.config.scaledMin.toInt),
    ("scaled_max", jsonInt var.config.scaledMax.toInt),
    ("alarm_enabled", jsonInt var.alarm.enabled.toNat),
    ("alarm_high", jsonInt var.alarm.highLimit.toInt),
    ("alarm_low", jsonInt var.alarm.lowLimit.toInt),
    ("alarm_hysteresis", jsonInt var.alarm.hysteresis.toInt),
    ("alarm_state", jsonInt (alarmStateNumber var.runtime.alarmState))]

/-- A variable, at its place. -/
def variableJson (place : PveVariable × Nat) : Json :=
  jsonObject (variableMembers place.2 place.1)

/-- The members of the object of all variables. -/
def variablesMembers (pveVariables : PveVariables) : List (String × Json) :=
  [("variables", .array ((List.ofFn pveVariables).zipIdx.map variableJson))]

/-- All variables, in order. -/
def variablesJson (pveVariables : PveVariables) : Json :=
  jsonObject (variablesMembers pveVariables)

theorem variableKeys_plain :
    PlainKeys
        ["id", "name", "source", "source_id", "raw", "scaled",
          "scaled_value", "decimals", "unit", "input_min", "input_max",
          "scaled_min", "scaled_max", "alarm_enabled", "alarm_high",
          "alarm_low", "alarm_hysteresis", "alarm_state"] =
      true := by
  decide

theorem variablesKeys_plain : PlainKeys ["variables"] = true := by
  decide

theorem pveSourceText_written (sourceType : UInt8) :
    Written (pveSourceText sourceType) := by
  rw [pveSourceText]
  repeat' split
  all_goals exact PlainText.written (by decide)

theorem quoted_id (bytes : List UInt8) :
    Json.quoted id bytes = CText.bytes "\"" ++ (bytes ++ CText.bytes "\"") :=
  rfl

theorem pveVariableText_eq (place : PveVariable × Nat) :
    pveVariableText place.2 place.1 = (variableJson place).text id := by
  have object :
      (variableJson place).text id =
        CText.bytes "\x7b" ++
          (fieldsText id (variableMembers place.2 place.1) ++
            CText.bytes "\x7d") :=
    text_jsonObject Json.keepsPlain_id variableKeys_plain
  rw [object]
  simp only [pveVariableText, variableMembers, fieldsText, text_jsonInt,
    text_string, quoted_id, signed_natCast, bytes_append_append,
    List.append_assoc, String.reduceAppend, List.flatten_cons,
    List.flatten_nil, List.append_nil]

theorem separated_itemsText
    {Record : Type*} {content : Nat → Record → List UInt8}
    {json : Record × Nat → Json} {writer : Json.Writer}
    (same : ∀ place, content place.2 place.1 = (json place).text writer)
    (records : List Record) :
    (separated content records).flatten =
      Json.itemsText writer (records.zipIdx.map json) := by
  rw [← flatMap_placedItems same records, separated]
  induction records.zipIdx with
  | nil => rfl
  | cons place places induction =>
      rw [List.flatMap_cons, List.flatten_append, induction, List.flatMap_cons]
      congr 1
      split
      · simp [CText.bytes]
      · simp

theorem pveHandler_document (pveVariables : PveVariables) :
    (pveHandler pveVariables).document =
      (variablesJson pveVariables).text id := by
  have object :
      (variablesJson pveVariables).text id =
        CText.bytes "\x7b" ++
          (fieldsText id (variablesMembers pveVariables) ++
            CText.bytes "\x7d") :=
    text_jsonObject Json.keepsPlain_id variablesKeys_plain
  rw [object, Report.document, pveHandler]
  simp only [variablesMembers, fieldsText, text_array, List.flatten_append,
    List.flatten_singleton, separated_itemsText pveVariableText_eq,
    bytes_append_append, List.append_assoc, String.reduceAppend, bytes_append]

/-- The texts of a variable are written. -/
structure VariableWritten (var : PveVariable) : Prop where
  name : Written (CText.text var.name)
  unit : Written (CText.text var.config.unit)

theorem variableJson_written_iff (place : PveVariable × Nat) :
    (∀ bytes ∈ (variableJson place).strings, Written bytes) ↔
    VariableWritten place.1 := by
  rw [variableJson,
    forall_strings_plainKeys (fun _ => PlainText.written)
      (variableMembers place.2 place.1) variableKeys_plain]
  constructor
  · intro written
    simp only [variableMembers, List.forall_mem_cons, strings_string,
      List.mem_singleton, forall_eq] at written
    exact ⟨written.2.1, written.2.2.2.2.2.2.2.2.1⟩
  · rintro ⟨name, unit⟩
    simp [variableMembers, pveSourceText_written, name, unit]

/-- The report of the variables is decoded to them exactly if their texts are
written. -/
theorem pveHandler_decoded_iff (pveVariables : PveVariables) :
    Json.decode (pveHandler pveVariables).document =
        some (variablesJson pveVariables) ↔
    ∀ id, VariableWritten (pveVariables id) := by
  rw [pveHandler_document, decode_written_iff, variablesJson,
    forall_strings_plainKeys (fun _ => PlainText.written)
      (variablesMembers pveVariables) variablesKeys_plain]
  have each :
      (∀ place ∈ (List.ofFn pveVariables).zipIdx, VariableWritten place.1) ↔
      ∀ id, VariableWritten (pveVariables id) := by
    rw [← List.forall_mem_ofFn_iff,
      ← List.forall_mem_map (f := Prod.fst), List.zipIdx_map_fst]
  rw [← each]
  simp only [variablesMembers, List.mem_singleton, forall_eq,
    forall_strings_array, variableJson_written_iff]

/-! ## The onboarding -/

/-- The members of the object of the onboarding. -/
def statusMembers (config : OnboardingConfig) : List (String × Json) :=
  [("state", jsonText (endapOnboardingStateName config.state)),
    ("profile", jsonInt config.profile.toNat),
    ("gateway_id", jsonInt config.adoptedByGatewayId.toNat),
    ("timestamp", jsonInt config.adoptedTimestamp.toNat),
    ("node_name", .string config.nodeName)]

/-- The onboarding. -/
def statusJson (config : OnboardingConfig) : Json :=
  jsonObject (statusMembers config)

theorem statusKeys_plain :
    PlainKeys ["state", "profile", "gateway_id", "timestamp", "node_name"] =
      true := by
  decide

theorem endapOnboardingStateName_plain (state : UInt8) :
    PlainText (endapOnboardingStateName state) = true := by
  rw [endapOnboardingStateName]
  repeat' split
  all_goals decide

theorem onboardingStatusText_eq (config : OnboardingConfig) :
    onboardingStatusText config = (statusJson config).text id := by
  have object :
      (statusJson config).text id =
        CText.bytes "\x7b" ++
          (fieldsText id (statusMembers config) ++ CText.bytes "\x7d") :=
    text_jsonObject Json.keepsPlain_id statusKeys_plain
  rw [object]
  simp only [onboardingStatusText, statusMembers, fieldsText, text_jsonInt,
    text_jsonText, text_string, quoted_id, signed_natCast]
  -- The name of the state is kept apart from the literals around it.
  generalize CText.bytes (endapOnboardingStateName config.state) = state
  simp only [bytes_append_append, bytes_append, List.append_assoc,
    String.reduceAppend, List.flatten_cons, List.flatten_nil,
    List.append_nil]

/-- The status is decoded to the configuration exactly if the name is
written. -/
theorem onboardingStatusText_decoded_iff (config : OnboardingConfig) :
    Json.decode (onboardingStatusText config) = some (statusJson config) ↔
    Written config.nodeName := by
  have state := PlainText.written (endapOnboardingStateName_plain config.state)
  rw [onboardingStatusText_eq, decode_written_iff, statusJson,
    forall_strings_plainKeys (fun _ => PlainText.written)
      (statusMembers config) statusKeys_plain]
  simp [statusMembers, state]

/-! ## The device -/

/-- The variables with their flash, and the onboarding. -/
structure OperatorDevice where
  world : PveWorld
  flash : PveFlash
  node : OnboardingNode

/-- The requests that give texts. -/
inductive OperatorRequest where
  | saveConfig (body : Option (List UInt8)) (outcome : PveSaveOutcome)
  | claim
      (selfId : UInt32) (remoteClaim : Bool) (body : Option (List UInt8))
      (platform : ClaimPlatform)

/-- One request, and whether it is answered with success. -/
def operatorStep (rawValue : RawValue) (device : OperatorDevice) :
    OperatorRequest → OperatorDevice × Bool
  | .saveConfig body outcome =>
      let saved :=
        pveSaveConfigHandler rawValue outcome body device.world device.flash
      ({ device with world := saved.world, flash := saved.flash },
        saved.answer = .ok)
  | .claim selfId remoteClaim body platform =>
      let claimed :=
        onboardingClaimHandler rawValue selfId remoteClaim body platform
          device.node
      ({ device with node := claimed.1 }, claimed.2 = .ok)

/-- The arrays of a variable end with a zero. -/
structure VariableEnds (var : PveVariable) : Prop where
  name : var.name (Fin.last 15) = 0
  unit : var.config.unit (Fin.last 7) = 0

/-- All arrays with texts end with a zero, and the names of the node leave
room for one. -/
structure OperatorDevice.WellFormed (device : OperatorDevice) : Prop where
  ends : ∀ id, VariableEnds (device.world.pveVariables id)
  names : NamesFit device.node

/-- The texts that a request gives are those that the device holds. -/
def HoldsGiven
    (rawValue : RawValue) (device : OperatorDevice) : OperatorRequest → Prop
  | .saveConfig body _ =>
      ∀ text id,
        body = some text → namedVariable rawValue text = .ok id →
        (∀ name ≠ [],
          (PveRequest.ofBody rawValue text).name.value? = some name →
          CText.text (device.world.pveVariables id).name = name) ∧
          ∀ unit ≠ [],
            (PveRequest.ofBody rawValue text).unit.value? = some unit →
            CText.text (device.world.pveVariables id).config.unit = unit
  | .claim selfId _ body _ =>
      ∀ text,
        body = some text →
        ¬ (ClaimRequest.ofBody rawValue text).Remote selfId →
        (ClaimRequest.ofBody rawValue text).nodeName ≠ [] →
        device.node.config.nodeName =
          (ClaimRequest.ofBody rawValue text).nodeName

/-- The documents of a device are decoded to what it holds, that of the
variables if it fits its buffer. -/
structure OperatorTextShown
    (device : OperatorDevice) (memory : Nat → UInt8)
    (platform : InitPlatform) : Prop where
  report :
    pveLength device.world.pveVariables < 2048 →
    Json.decode ((pveHandler device.world.pveVariables).written memory).sent =
      some (variablesJson device.world.pveVariables)
  status :
    Json.decode (onboardingStatusHandler platform device.node).2 =
      some (statusJson (device.node.init platform).config)

/-- The names and units of the variables, if their report fits, and the name
of the node can stand between quotes as they are. -/
structure OperatorTextWritten
    (device : OperatorDevice) (platform : InitPlatform) : Prop where
  report :
    pveLength device.world.pveVariables < 2048 →
    ∀ id, VariableWritten (device.world.pveVariables id)
  nodeName : Written (device.node.init platform).config.nodeName

theorem OperatorDevice.WellFormed.shown_iff
    {device : OperatorDevice} (wellFormed : device.WellFormed)
    (memory : Nat → UInt8) (platform : InitPlatform) :
    OperatorTextShown device memory platform ↔
    OperatorTextWritten device platform := by
  have report :
      (pveLength device.world.pveVariables < 2048 →
          Json.decode
              ((pveHandler device.world.pveVariables).written memory).sent =
            some (variablesJson device.world.pveVariables)) ↔
        (pveLength device.world.pveVariables < 2048 →
        ∀ id, VariableWritten (device.world.pveVariables id)) := by
    refine imp_congr_right fun fits => ?_
    rw [← pveHandler_length] at fits
    have small : 2048 < 2 ^ 32 := by decide
    rw [@Report.sent_eq (pveHandler device.world.pveVariables) small memory
      fits]
    exact pveHandler_decoded_iff device.world.pveVariables
  have status :=
    onboardingStatusText_decoded_iff (device.node.init platform).config
  rw [← onboardingStatusHandler_sent wellFormed.names platform] at status
  exact
    ⟨fun shown => ⟨report.mp shown.report, status.mp shown.status⟩,
      fun written =>
        ⟨report.mpr written.report, status.mpr written.nodeName⟩⟩

/-! ## Requests -/

section

variable {request : PveRequest} {id : Fin maxPveVariables}
    {world : PveWorld}

/-- A request that passes all checks leaves the assigned name, scaling and
unit. -/
theorem pveSaveVariable_assigned
    (first : ¬ request.FailsFirstChecks (world.pveVariables id))
    (last : ¬ request.FailsAlarmChecks (world.pveVariables id))
    (outcome : PveSaveOutcome) (flash : PveFlash) :
    ∃ after,
      (pveSaveVariable request id outcome world flash).world.pveVariables =
          Function.update world.pveVariables id after ∧
      after.name = (request.assigned (world.pveVariables id)).name ∧
      after.config =
        (request.assigned (world.pveVariables id)).config := by
  rcases not_or.mp first with ⟨range, texts⟩
  rcases not_or.mp texts with ⟨name, unit⟩
  rcases not_or.mp last with ⟨negative, limits⟩
  have alarm :
      (request.assigned (world.pveVariables id)).alarm =
        (world.pveVariables id).alarm := rfl
  rw [pveSaveVariable]
  simp only [if_neg range, if_neg name, if_neg unit, alarm, if_neg negative,
    if_neg limits, pveUpdate_pveVariables, Function.update_self,
    Function.update_idem]
  exact ⟨_, rfl, rfl, rfl⟩

/-- A request for a variable is rejected with nothing written, or it passes the
first checks and the assigned texts are written. -/
theorem pveSaveVariable_cases
    (outcome : PveSaveOutcome) (flash : PveFlash) :
    ((pveSaveVariable request id outcome world flash).answer ≠ .ok ∧
        (pveSaveVariable request id outcome world flash).world = world) ∨
      (¬ request.FailsFirstChecks (world.pveVariables id) ∧
      ∃ after,
        (pveSaveVariable request id outcome world flash).world.pveVariables =
            Function.update world.pveVariables id after ∧
        after.name = (request.assigned (world.pveVariables id)).name ∧
        after.config =
          (request.assigned (world.pveVariables id)).config) := by
  by_cases first : request.FailsFirstChecks (world.pveVariables id)
  · rcases pveSaveVariable_first first outcome flash with ⟨same, status⟩
    refine Or.inl ⟨fun isOk => ?_, same⟩
    rw [isOk] at status
    cases status
  · refine Or.inr ⟨first, ?_⟩
    by_cases last : request.FailsAlarmChecks (world.pveVariables id)
    · exact ⟨_, (pveSaveVariable_alarm first last outcome flash).1, rfl, rfl⟩
    · exact pveSaveVariable_assigned first last outcome flash

/-- A text that is copied over all but the last character of an array leaves
the zero there. -/
theorem strncpy_last
    {size : Nat} (array : Fin (size + 1) → UInt8) (text : List UInt8) :
    CText.strncpy array text size (Fin.last size) = array (Fin.last size) := by
  rw [CText.strncpy]
  exact if_neg (Nat.lt_irrefl size)

theorem VariableEnds.assigned
    {var : PveVariable} (ends : VariableEnds var) (request : PveRequest) :
    VariableEnds (request.assigned var) where
  name := by
    rw [PveRequest.assigned]
    dsimp only
    split
    · exact (strncpy_last _ _).trans ends.name
    · exact ends.name
  unit := by
    rw [PveRequest.assigned]
    dsimp only
    split
    · exact (strncpy_last _ _).trans ends.unit
    · exact ends.unit

/-- A text without a zero that is shorter than the array is what the array
holds after the copy. -/
theorem text_assigned
    {text : List UInt8} {size : Nat} {array : Fin (size + 1) → UInt8}
    (noZero : 0 ∉ text) (short : text.length ≤ size)
    (ends : array (Fin.last size) = 0) :
    CText.text (CText.strncpy array text size) = text := by
  have nonzero : ∀ character ∈ text, character ≠ 0 := by
    rintro character member rfl
    exact noZero member
  rw [CText.text_strncpy nonzero (Nat.lt_succ_self size) ends,
    List.take_of_length_le short]

theorem assigned_name
    (checked : ¬ request.FailsFirstChecks (world.pveVariables id))
    (ends : VariableEnds (world.pveVariables id)) {name : List UInt8}
    (nonempty : name ≠ []) (found : request.name.value? = some name)
    (noZero : 0 ∉ name) :
    CText.text (request.assigned (world.pveVariables id)).name = name := by
  rcases Lookup.value?_eq_some found with ⟨isFound, rfl⟩
  have short : request.name.text.length ≤ 15 := by
    by_contra long
    exact checked (Or.inr (Or.inl ⟨isFound, Nat.lt_of_not_le long⟩))
  dsimp only [PveRequest.assigned]
  rw [if_pos nonempty]
  exact text_assigned noZero short ends.name

theorem assigned_unit
    (checked : ¬ request.FailsFirstChecks (world.pveVariables id))
    (ends : VariableEnds (world.pveVariables id)) {unit : List UInt8}
    (nonempty : unit ≠ []) (found : request.unit.value? = some unit)
    (noZero : 0 ∉ unit) :
    CText.text (request.assigned (world.pveVariables id)).config.unit =
      unit := by
  rcases Lookup.value?_eq_some found with ⟨isFound, rfl⟩
  have short : request.unit.text.length ≤ 7 := by
    by_contra long
    exact checked (Or.inr (Or.inr ⟨isFound, Nat.lt_of_not_le long⟩))
  dsimp only [PveRequest.assigned]
  rw [if_pos nonempty]
  exact text_assigned noZero short ends.unit

end

section

variable {rawValue : RawValue} {device : OperatorDevice}

theorem pveSaveConfigHandler_ends
    (ends : ∀ id, VariableEnds (device.world.pveVariables id))
    (outcome : PveSaveOutcome) (body : Option (List UInt8)) :
    ∀ id,
      VariableEnds
        ((pveSaveConfigHandler rawValue outcome body device.world
          device.flash).world.pveVariables id) := by
  cases body with
  | none => exact ends
  | some body =>
      rw [pveSaveConfigHandler]
      cases named : namedVariable rawValue body with
      | error answer => exact ends
      | ok id =>
          dsimp only
          rcases pveSaveVariable_cases outcome device.flash with
            ⟨_, same⟩ | ⟨_, after, written, name, config⟩
          · rw [same]
            exact ends
          · intro other
            rw [written]
            by_cases isId : other = id
            · have assigned :=
                (ends id).assigned (PveRequest.ofBody rawValue body)
              rw [isId, Function.update_self]
              refine ⟨?_, ?_⟩
              · rw [name]
                exact assigned.name
              · rw [config]
                exact assigned.unit
            · rw [Function.update_of_ne isId]
              exact ends other

theorem operatorStep_wellFormed
    (wellFormed : device.WellFormed) (request : OperatorRequest) :
    (operatorStep rawValue device request).1.WellFormed := by
  cases request with
  | saveConfig body outcome =>
      exact
        ⟨pveSaveConfigHandler_ends wellFormed.ends outcome body,
          wellFormed.names⟩
  | claim selfId remoteClaim body platform =>
      exact
        ⟨wellFormed.ends,
          wellFormed.names.claimHandler rawValue selfId remoteClaim body
            platform⟩

theorem operatorStep_holdsGiven
    (wellFormed : device.WellFormed) (request : OperatorRequest)
    (success : (operatorStep rawValue device request).2 = true) :
    HoldsGiven rawValue (operatorStep rawValue device request).1 request := by
  cases request with
  | claim selfId remoteClaim body platform =>
      rintro text rfl own given
      exact onboardingClaimHandler_name own given (of_decide_eq_true success)
  | saveConfig body outcome =>
      rintro text id rfl named
      have isOk := of_decide_eq_true success
      simp only [operatorStep, pveSaveConfigHandler, named] at isOk ⊢
      rcases pveSaveVariable_cases outcome device.flash with
        ⟨refused, _⟩ | ⟨checked, after, written, name, config⟩
      · exact absurd isOk refused
      · rw [written, Function.update_self, name, config]
        have ends := wellFormed.ends id
        refine ⟨fun given nonempty found => ?_, fun given nonempty found => ?_⟩
        · exact
            assigned_name checked ends nonempty found
              (zero_notMem_of_value? found)
        · exact
            assigned_unit checked ends nonempty found
              (zero_notMem_of_value? found)

/-- The device after some requests, from any well-formed one. -/
def Reached (rawValue : RawValue) (device : OperatorDevice) : Prop :=
  ∃ (start : OperatorDevice) (requests : List OperatorRequest),
    start.WellFormed ∧ Run.final (operatorStep rawValue) start requests = device

theorem Reached.wellFormed (reached : Reached rawValue device) :
    device.WellFormed := by
  rcases reached with ⟨start, requests, wellFormed, rfl⟩
  exact
    Run.final_invariant OperatorDevice.WellFormed wellFormed
      (fun _ request kept => operatorStep_wellFormed kept request) requests

/-- In every state that requests lead to: what a request with success gives is
held, and the two documents are decoded to what is held exactly if the texts
can stand between quotes as they are. -/
theorem operator_text_shown_iff
    {rawValue : RawValue} {device : OperatorDevice}
    (reached : Reached rawValue device) :
    (∀ request,
        (operatorStep rawValue device request).2 = true →
        HoldsGiven rawValue (operatorStep rawValue device request).1 request) ∧
      ∀ memory platform,
        OperatorTextShown device memory platform ↔
        OperatorTextWritten device platform :=
  ⟨operatorStep_holdsGiven reached.wellFormed, reached.wellFormed.shown_iff⟩

end

def startedDevice : OperatorDevice where
  world := pveStarted
  flash := none
  node :=
    { config :=
        { version := onboardingConfigVersion
          state := stateActive
          profile := nodeProfileGateway
          adoptedByGatewayId := 0
          adoptedTimestamp := 0
          nodeName := CText.bytes "ENDAP-Gateway" }
      initialized := true
      nvs := none
      currentNodeProfile := nodeProfileGateway }

theorem startedDevice_wellFormed : startedDevice.WellFormed := by
  have ends :
      ∀ id,
        (startedDevice.world.pveVariables id).name (Fin.last 15) = 0 ∧
        (startedDevice.world.pveVariables id).config.unit (Fin.last 7) =
          0 := by
    decide
  refine ⟨fun id => ⟨(ends id).1, (ends id).2⟩, by decide, ?_⟩
  intro stored isStored
  cases isStored

def escapingRequests : List OperatorRequest :=
  [.saveConfig (some (CText.bytes "id=0&name=a%22b")) .succeeds,
    .claim 1 true
      (some (CText.bytes "target_node_id=1&profile=0&node_name=a%5Cb"))
      { init := { loads := false, save := .committed }
        timeSec := 7
        save := .committed
        saveError := espFail }]

def escapedDevice : OperatorDevice :=
  Run.final (operatorStep splitRawValue) startedDevice escapingRequests

theorem escapedDevice_reached : Reached splitRawValue escapedDevice :=
  ⟨startedDevice, escapingRequests, startedDevice_wellFormed, rfl⟩

theorem operator_text_shown_escaped :
    (∀ request,
        (operatorStep splitRawValue escapedDevice request).2 = true →
        HoldsGiven splitRawValue
          (operatorStep splitRawValue escapedDevice request).1 request) ∧
      ∀ memory platform,
        OperatorTextShown escapedDevice memory platform ↔
        OperatorTextWritten escapedDevice platform :=
  operator_text_shown_iff escapedDevice_reached

/-- Both requests are answered with success.  The report of the variables fits
its buffer, and neither it nor the status is decoded to what is held. -/
theorem escapes_break_documents :
    (Run.history (operatorStep splitRawValue) startedDevice
          escapingRequests).map (fun made => made.output) =
        [true, true] ∧
      pveLength escapedDevice.world.pveVariables < 2048 ∧
      (∀ memory,
        Json.decode
            ((pveHandler escapedDevice.world.pveVariables).written
              memory).sent ≠
          some (variablesJson escapedDevice.world.pveVariables)) ∧
      ∀ platform,
        Json.decode (onboardingStatusHandler platform escapedDevice.node).2 ≠
          some (statusJson (escapedDevice.node.init platform).config) := by
  have wellFormed := escapedDevice_reached.wellFormed
  have fits : pveLength escapedDevice.world.pveVariables < 2048 := by
    decide +kernel
  refine ⟨by decide +kernel, fits, fun memory decoded => ?_,
    fun platform decoded => ?_⟩
  · have small : 2048 < 2 ^ 32 := by decide
    rw [← pveHandler_length] at fits
    rw [@Report.sent_eq (pveHandler escapedDevice.world.pveVariables) small
      memory fits, pveHandler_decoded_iff] at decoded
    have plain := (decoded 0).name.plain
    revert plain
    decide +kernel
  · rw [onboardingStatusHandler_sent wellFormed.names,
      onboardingStatusText_decoded_iff,
      init_of_initialized (by decide +kernel)] at decoded
    have plain := decoded.plain
    revert plain
    decide +kernel

end Endap.Http
