import Endap.Automation.Interlock
import Endap.Automation.RuleStore
import Endap.Http.JsonBuilder
import Mathlib.Algebra.Order.BigOperators.Group.List
import Mathlib.Algebra.Order.Group.Nat

/-!
# The list of rules

The handler of the list builds a document with every rule, its interlock and
its diagnostics in a buffer of 6144 bytes.  If the document does not fit, the
handler answers with an empty list.

The main theorem says for which stores the answer is the list of the stored
rules: for those whose literals, names and digits fit, which full stores never
do.
-/

namespace Endap.Http

open Endap.Automation
open Endap.Library
open Endap.Library.Checked

/-! ## Names -/

def automationEngineOperatorToCode (op : UInt8) : String :=
  match AutomationOperator.ofCode op with
  | none | some .gt => "gt"
  | some .ge => "ge"
  | some .eq => "eq"
  | some .ne => "ne"
  | some .le => "le"
  | some .lt => "lt"

def automationEngineOperatorToSymbol (op : UInt8) : String :=
  match AutomationOperator.ofCode op with
  | none | some .gt => ">"
  | some .ge => ">="
  | some .eq => "=="
  | some .ne => "!="
  | some .le => "<="
  | some .lt => "<"

def automationEngineModeToCode (mode : UInt8) : String :=
  match AutomationMode.ofCode mode with
  | none | some .follow => "follow"
  | some .pulseMs => "pulse_ms"
  | some .onDelayMs => "on_delay_ms"
  | some .offDelayMs => "off_delay_ms"
  | some .toggle => "toggle"
  | some .forceOn => "force_on"
  | some .forceOff => "force_off"

def automationEngineModeToLabel (mode : UInt8) : String :=
  match AutomationMode.ofCode mode with
  | none | some .follow => "FOLLOW"
  | some .pulseMs => "PULSE_MS"
  | some .onDelayMs => "ON_DELAY_MS"
  | some .offDelayMs => "OFF_DELAY_MS"
  | some .toggle => "TOGGLE"
  | some .forceOn => "FORCE_ON"
  | some .forceOff => "FORCE_OFF"

def automationEngineActionResultName : AutomationActionResult → String
  | .appliedLocal => "applied-local"
  | .dispatchedRemote => "dispatched-remote"
  | .dispatchFailed => "dispatch-failed"
  | .remoteOwnerOffline => "remote-owner-offline"
  | .targetUnresolved => "target-unresolved"
  | .blockedFailsafe => "blocked-failsafe"
  | .idle => "idle"

/-! ## The document -/

/-- A flag as the formats print it. -/
def flagNumber (flag : Bool) : Nat :=
  if flag then 1 else 0

/-- The conditions of an interlock that are in use. -/
def shownConditions (interlock : AutomationInterlock) :
    List AutomationCondition :=
  interlock.conditions.toList.take interlock.condCount.toNat

/-- A condition of an interlock. -/
def appendCondition
    (size : Nat) (out : List UInt8) (place : AutomationCondition × Nat) :
    Option (List UInt8) := do
  let out ← appendComma size place.2 out
  appendFormat size
    [CText.bytes "\x7b\"channel\":", Lines.decimal place.1.channel.toNat,
      CText.bytes ",\"op\":", Lines.decimal place.1.op.toNat,
      CText.bytes ",\"target_val\":", Lines.signed place.1.targetVal.toInt,
      CText.bytes "\x7d"] out

/-- A rule with its diagnostics and its interlock. -/
def appendRule
    (size : Nat) (out : List UInt8) (place : AutomationRule × Nat) :
    Option (List UInt8) := do
  let rule := place.1.node
  let diag := place.1.diag
  let ilk := place.1.interlock
  let out ← appendComma size place.2 out
  let out ←
    appendFormat size
      [CText.bytes "\x7b\"input\":", Lines.decimal rule.input.toNat,
        CText.bytes ",\"output\":", Lines.decimal rule.output.toNat,
        CText.bytes ",\"threshold\":", Lines.signed rule.threshold.toInt,
        CText.bytes ",\"op\":"] out
  let out ←
    appendJsonString size
      (CText.bytes (automationEngineOperatorToCode rule.op)) out
  let out ← appendText size ",\"op_symbol\":" out
  let out ←
    appendJsonString size
      (CText.bytes (automationEngineOperatorToSymbol rule.op)) out
  let out ← appendText size ",\"mode\":" out
  let out ←
    appendJsonString size
      (CText.bytes (automationEngineModeToCode rule.mode)) out
  let out ← appendText size ",\"mode_label\":" out
  let out ←
    appendJsonString size
      (CText.bytes (automationEngineModeToLabel rule.mode)) out
  let out ←
    appendFormat size
      [CText.bytes ",\"duration_ms\":", Lines.decimal rule.durationMs.toNat,
        CText.bytes ",\"on_true\":", Lines.signed rule.onTrue.toInt,
        CText.bytes ",\"on_false\":", Lines.signed rule.onFalse.toInt,
        CText.bytes ",\"last_trigger_ms\":",
        Lines.decimal diag.lastTriggerMs.toNat,
        CText.bytes ",\"last_eval_ms\":", Lines.decimal diag.lastEvalMs.toNat,
        CText.bytes ",\"last_action_ms\":",
        Lines.decimal diag.lastActionMs.toNat,
        CText.bytes ",\"last_condition\":",
        Lines.decimal (flagNumber diag.lastCondition),
        CText.bytes ",\"last_action_value\":",
        Lines.decimal (flagNumber diag.lastActionValue),
        CText.bytes ",\"last_target_local\":",
        Lines.decimal (flagNumber diag.lastTargetLocal),
        CText.bytes ",\"last_target_owner\":",
        Lines.decimal diag.lastTargetOwner.toNat,
        CText.bytes ",\"last_target_original_owner\":",
        Lines.decimal diag.lastTargetOriginalOwner.toNat,
        CText.bytes ",\"last_action_result\":"] out
  let out ←
    appendJsonString size
      (CText.bytes (automationEngineActionResultName diag.lastActionResult))
      out
  let out ←
    appendFormat size
      [CText.bytes ",\"interlock\":\x7b\"enabled\":",
        Lines.decimal (flagNumber (ilk.enabled ≠ 0)),
        CText.bytes ",\"logic_op\":", Lines.decimal ilk.logicOp.toNat,
        CText.bytes ",\"cond_count\":", Lines.decimal ilk.condCount.toNat,
        CText.bytes ",\"conditions\":["] out
  let out ← (shownConditions ilk).zipIdx.foldlM (appendCondition size) out
  appendText size "]\x7d\x7d" out

/-- `build_automation_json`; nothing where the source returns zero. -/
def buildAutomationJson (automation : AutomationStore) (size : Nat) :
    Option (List UInt8) := do
  let out ←
    appendFormat size
      [CText.bytes "\x7b\"saved\":",
        Lines.decimal (flagNumber automation.persistedConfig),
        CText.bytes ",\"count\":",
        Lines.signed (automation.rules.length : Nat),
        CText.bytes ",\"rules\":["] []
  let out ← automation.rules.zipIdx.foldlM (appendRule size) out
  appendText size "]\x7d" out

def automationJsonBufferSize : Nat := 6144

/-- The document that `automation_list_handler` sends. -/
def automationListHandler (automation : AutomationStore) : List UInt8 :=
  (buildAutomationJson automation automationJsonBufferSize).getD
    (CText.bytes "\x7b\"saved\":0,\"count\":0,\"rules\":[]\x7d")

/-! ## What the list says -/

/-- The members of the object of a condition. -/
def conditionMembers (condition : AutomationCondition) : List (String × Json) :=
  [("channel", jsonInt condition.channel.toNat),
    ("op", jsonInt condition.op.toNat),
    ("target_val", jsonInt condition.targetVal.toInt)]

/-- A condition of an interlock. -/
def conditionJson (condition : AutomationCondition) : Json :=
  jsonObject (conditionMembers condition)

/-- The members of the object of an interlock. -/
def interlockMembers (interlock : AutomationInterlock) : List (String × Json) :=
  [("enabled", jsonInt (flagNumber (interlock.enabled ≠ 0))),
    ("logic_op", jsonInt interlock.logicOp.toNat),
    ("cond_count", jsonInt interlock.condCount.toNat),
    ("conditions", .array ((shownConditions interlock).map conditionJson))]

/-- An interlock. -/
def interlockJson (interlock : AutomationInterlock) : Json :=
  jsonObject (interlockMembers interlock)

/-- The members of the object of a rule. -/
def ruleMembers (rule : AutomationRule) : List (String × Json) :=
  [("input", jsonInt rule.node.input.toNat),
    ("output", jsonInt rule.node.output.toNat),
    ("threshold", jsonInt rule.node.threshold.toInt),
    ("op", jsonText (automationEngineOperatorToCode rule.node.op)),
    ("op_symbol", jsonText (automationEngineOperatorToSymbol rule.node.op)),
    ("mode", jsonText (automationEngineModeToCode rule.node.mode)),
    ("mode_label", jsonText (automationEngineModeToLabel rule.node.mode)),
    ("duration_ms", jsonInt rule.node.durationMs.toNat),
    ("on_true", jsonInt rule.node.onTrue.toInt),
    ("on_false", jsonInt rule.node.onFalse.toInt),
    ("last_trigger_ms", jsonInt rule.diag.lastTriggerMs.toNat),
    ("last_eval_ms", jsonInt rule.diag.lastEvalMs.toNat),
    ("last_action_ms", jsonInt rule.diag.lastActionMs.toNat),
    ("last_condition", jsonInt (flagNumber rule.diag.lastCondition)),
    ("last_action_value", jsonInt (flagNumber rule.diag.lastActionValue)),
    ("last_target_local", jsonInt (flagNumber rule.diag.lastTargetLocal)),
    ("last_target_owner", jsonInt rule.diag.lastTargetOwner.toNat),
    ("last_target_original_owner",
      jsonInt rule.diag.lastTargetOriginalOwner.toNat),
    ("last_action_result",
      jsonText (automationEngineActionResultName rule.diag.lastActionResult)),
    ("interlock", interlockJson rule.interlock)]

/-- A rule with its diagnostics and its interlock. -/
def ruleJson (rule : AutomationRule) : Json := jsonObject (ruleMembers rule)

/-- The members of the object of the list. -/
def automationMembers (automation : AutomationStore) : List (String × Json) :=
  [("saved", jsonInt (flagNumber automation.persistedConfig)),
    ("count", jsonInt automation.rules.length),
    ("rules", .array (automation.rules.map ruleJson))]

/-- The rules that are stored, each with all that is shown of it. -/
def automationJson (automation : AutomationStore) : Json :=
  jsonObject (automationMembers automation)

/-! ## The text of the document -/

theorem conditionKeys_plain :
    PlainKeys ["channel", "op", "target_val"] = true := by
  decide

theorem interlockKeys_plain :
    PlainKeys ["enabled", "logic_op", "cond_count", "conditions"] = true := by
  decide

theorem automationKeys_plain :
    PlainKeys ["saved", "count", "rules"] = true := by
  decide

theorem conditionJson_text (condition : AutomationCondition) :
    (conditionJson condition).text Json.escaped =
      CText.bytes "\x7b" ++
        (fieldsText Json.escaped (conditionMembers condition) ++
          CText.bytes "\x7d") :=
  text_jsonObject Json.keepsPlain_escaped conditionKeys_plain

theorem interlockJson_text (interlock : AutomationInterlock) :
    (interlockJson interlock).text Json.escaped =
      CText.bytes "\x7b" ++
        (fieldsText Json.escaped (interlockMembers interlock) ++
          CText.bytes "\x7d") :=
  text_jsonObject Json.keepsPlain_escaped interlockKeys_plain

/-- The keys of the object of a rule. -/
def ruleKeys : List String :=
  ["input", "output", "threshold", "op", "op_symbol", "mode", "mode_label",
    "duration_ms", "on_true", "on_false", "last_trigger_ms", "last_eval_ms",
    "last_action_ms", "last_condition", "last_action_value",
    "last_target_local", "last_target_owner", "last_target_original_owner",
    "last_action_result", "interlock"]

theorem ruleKeys_plain : PlainKeys ruleKeys = true := by
  decide

theorem ruleJson_text (rule : AutomationRule) :
    (ruleJson rule).text Json.escaped =
      CText.bytes "\x7b" ++
        (fieldsText Json.escaped (ruleMembers rule) ++ CText.bytes "\x7d") :=
  text_jsonObject Json.keepsPlain_escaped ruleKeys_plain

theorem automationJson_text (automation : AutomationStore) :
    (automationJson automation).text Json.escaped =
      CText.bytes "\x7b" ++
        (fieldsText Json.escaped (automationMembers automation) ++
          CText.bytes "\x7d") :=
  text_jsonObject Json.keepsPlain_escaped automationKeys_plain

section

variable {size : Nat}

theorem appendCondition_appends (place : AutomationCondition × Nat) :
    Appends size (appendCondition size · place)
      ((if 0 < place.2 then CText.bytes "," else []) ++
        (conditionJson place.1).text Json.escaped) := by
  unfold appendCondition
  refine Appends.of_eq
    ((appendComma_appends size place.2).bind (appendFormat_appends _)) ?_
  rw [conditionJson_text]
  simp only [conditionMembers, fieldsText, text_jsonInt, signed_natCast,
    bytes_append_append, List.append_assoc, String.reduceAppend,
    List.flatten_cons, List.flatten_nil, List.append_nil]

theorem appendRule_appends (place : AutomationRule × Nat) :
    Appends size (appendRule size · place)
      ((if 0 < place.2 then CText.bytes "," else []) ++
        (ruleJson place.1).text Json.escaped) := by
  have conditions :=
    Appends.foldlM (@appendCondition_appends size)
      (shownConditions place.1.interlock).zipIdx
  rw [flatMap_itemsText fun _ => rfl] at conditions
  unfold appendRule
  refine Appends.of_eq
    ((appendComma_appends size place.2).bind
      ((appendFormat_appends _).bind
        ((appendJsonString_appends _).bind
          ((appendText_appends _).bind
            ((appendJsonString_appends _).bind
              ((appendText_appends _).bind
                ((appendJsonString_appends _).bind
                  ((appendText_appends _).bind
                    ((appendJsonString_appends _).bind
                      ((appendFormat_appends _).bind
                        ((appendJsonString_appends _).bind
                          ((appendFormat_appends _).bind
                            (conditions.bind
                              (appendText_appends _)))))))))))))) ?_
  rw [ruleJson_text]
  simp only [ruleMembers, fieldsText, text_jsonInt, text_jsonText,
    signed_natCast, interlockJson_text, interlockMembers, text_array,
    bytes_append_append, bytes_append, List.append_assoc,
    String.reduceAppend, List.flatten_cons, List.flatten_nil,
    List.append_nil]

theorem buildAutomationJson_eq
    (automation : AutomationStore) (positive : 0 < size) :
    buildAutomationJson automation size =
      if ((automationJson automation).text Json.escaped).length < size then
        some ((automationJson automation).text Json.escaped)
      else none := by
  have rules :=
    Appends.foldlM (@appendRule_appends size) automation.rules.zipIdx
  rw [flatMap_itemsText fun _ => rfl] at rules
  have steps :=
    (appendFormat_appends
        [CText.bytes "\x7b\"saved\":",
          Lines.decimal (flagNumber automation.persistedConfig),
          CText.bytes ",\"count\":",
          Lines.signed (automation.rules.length : Nat),
          CText.bytes ",\"rules\":["]).bind
      (rules.bind (appendText_appends "]\x7d"))
  refine (steps.of_eq ?_).from_empty positive
  rw [automationJson_text]
  simp only [automationMembers, fieldsText, text_jsonInt, signed_natCast,
    text_array, bytes_append_append, bytes_append, List.append_assoc,
    String.reduceAppend, List.flatten_cons, List.flatten_nil,
    List.append_nil]

end

/-! ## Lengths -/

theorem operatorToCode_plain (op : UInt8) :
    PlainText (automationEngineOperatorToCode op) = true := by
  rw [automationEngineOperatorToCode]
  split <;> decide

theorem operatorToSymbol_plain (op : UInt8) :
    PlainText (automationEngineOperatorToSymbol op) = true := by
  rw [automationEngineOperatorToSymbol]
  split <;> decide

theorem modeToCode_plain (mode : UInt8) :
    PlainText (automationEngineModeToCode mode) = true := by
  rw [automationEngineModeToCode]
  split <;> decide

theorem modeToLabel_plain (mode : UInt8) :
    PlainText (automationEngineModeToLabel mode) = true := by
  rw [automationEngineModeToLabel]
  split <;> decide

theorem actionResultName_plain (result : AutomationActionResult) :
    PlainText (automationEngineActionResultName result) = true := by
  cases result <;> decide

/-- The length of a condition. -/
def conditionLength (condition : AutomationCondition) : Nat :=
  32 + Lines.digitCount condition.channel.toNat +
    Lines.digitCount condition.op.toNat +
    Lines.signedLength condition.targetVal.toInt

theorem conditionJson_length (condition : AutomationCondition) :
    ((conditionJson condition).text Json.escaped).length =
      conditionLength condition := by
  rw [conditionJson_text]
  simp only [conditionMembers, fieldsText, text_jsonInt, signed_natCast,
    List.length_append, Lines.decimal_length, Lines.signed_length,
    CText.bytes_length, String.reduceAppend, String.reduceToList,
    List.length_cons, List.length_nil, Nat.zero_add, Nat.reduceAdd,
    conditionLength]
  omega

/-- The length of a rule: the literals, the names, the digits, and the
conditions of its interlock. -/
def ruleLength (rule : AutomationRule) : Nat :=
  379 + Lines.digitCount rule.node.input.toNat +
    Lines.digitCount rule.node.output.toNat +
    Lines.signedLength rule.node.threshold.toInt +
    (automationEngineOperatorToCode rule.node.op).length +
    (automationEngineOperatorToSymbol rule.node.op).length +
    (automationEngineModeToCode rule.node.mode).length +
    (automationEngineModeToLabel rule.node.mode).length +
    Lines.digitCount rule.node.durationMs.toNat +
    Lines.signedLength rule.node.onTrue.toInt +
    Lines.signedLength rule.node.onFalse.toInt +
    Lines.digitCount rule.diag.lastTriggerMs.toNat +
    Lines.digitCount rule.diag.lastEvalMs.toNat +
    Lines.digitCount rule.diag.lastActionMs.toNat +
    Lines.digitCount rule.diag.lastTargetOwner.toNat +
    Lines.digitCount rule.diag.lastTargetOriginalOwner.toNat +
    (automationEngineActionResultName rule.diag.lastActionResult).length +
    Lines.digitCount rule.interlock.logicOp.toNat +
    Lines.digitCount rule.interlock.condCount.toNat +
    ((shownConditions rule.interlock).map conditionLength).sum +
    ((shownConditions rule.interlock).length - 1)

theorem flagNumber_digits (flag : Bool) :
    Lines.digitCount (flagNumber flag) = 1 := by
  cases flag <;> rfl

theorem ruleJson_length (rule : AutomationRule) :
    ((ruleJson rule).text Json.escaped).length = ruleLength rule := by
  have conditions :=
    itemsText_length conditionJson_length (shownConditions rule.interlock)
  rw [ruleJson_text]
  simp only [ruleMembers, fieldsText, text_jsonInt, text_jsonText,
    signed_natCast, interlockJson_text, interlockMembers, text_array,
    quoted_length Json.keepsPlain_escaped (operatorToCode_plain _),
    quoted_length Json.keepsPlain_escaped (operatorToSymbol_plain _),
    quoted_length Json.keepsPlain_escaped (modeToCode_plain _),
    quoted_length Json.keepsPlain_escaped (modeToLabel_plain _),
    quoted_length Json.keepsPlain_escaped (actionResultName_plain _),
    flagNumber_digits, conditions, List.length_append,
    Lines.decimal_length, Lines.signed_length, CText.bytes_length,
    String.reduceAppend, String.reduceToList, List.length_cons,
    List.length_nil, Nat.zero_add, Nat.reduceAdd, ruleLength]
  omega

/-- The length of the list. -/
def automationListLength (automation : AutomationStore) : Nat :=
  31 + Lines.digitCount automation.rules.length +
    (automation.rules.map ruleLength).sum + (automation.rules.length - 1)

theorem automationJson_length (automation : AutomationStore) :
    ((automationJson automation).text Json.escaped).length =
      automationListLength automation := by
  have rules := itemsText_length ruleJson_length automation.rules
  rw [automationJson_text]
  simp only [automationMembers, fieldsText, text_jsonInt, signed_natCast,
    text_array, flagNumber_digits, rules, List.length_append,
    Lines.decimal_length, CText.bytes_length, String.reduceAppend,
    String.reduceToList, List.length_cons, List.length_nil, Nat.zero_add,
    Nat.reduceAdd, automationListLength]
  omega

/-! ## When the rules are shown -/

theorem conditionJson_isText (condition : AutomationCondition) :
    ∀ bytes ∈ (conditionJson condition).strings, Utf8.IsText bytes :=
  (isText_jsonObject_iff (conditionMembers condition)
    conditionKeys_plain).mpr
    (by simp [conditionMembers])

theorem interlockJson_isText (interlock : AutomationInterlock) :
    ∀ bytes ∈ (interlockJson interlock).strings, Utf8.IsText bytes := by
  have conditions :=
    (forall_strings_array conditionJson (shownConditions interlock)).mpr
      fun condition _ => conditionJson_isText condition
  exact
    (isText_jsonObject_iff (interlockMembers interlock)
      interlockKeys_plain).mpr
      (by simpa [interlockMembers] using conditions)

theorem ruleJson_isText (rule : AutomationRule) :
    ∀ bytes ∈ (ruleJson rule).strings, Utf8.IsText bytes := by
  refine (isText_jsonObject_iff (ruleMembers rule) ruleKeys_plain).mpr ?_
  simpa [ruleMembers, PlainText.isText (operatorToCode_plain _),
    PlainText.isText (operatorToSymbol_plain _),
    PlainText.isText (modeToCode_plain _),
    PlainText.isText (modeToLabel_plain _),
    PlainText.isText (actionResultName_plain _)] using
    interlockJson_isText rule.interlock

theorem automationJson_isText (automation : AutomationStore) :
    ∀ bytes ∈ (automationJson automation).strings, Utf8.IsText bytes := by
  have rules :=
    (forall_strings_array ruleJson automation.rules).mpr
      fun rule _ => ruleJson_isText rule
  exact
    (isText_jsonObject_iff (automationMembers automation)
      automationKeys_plain).mpr
      (by simpa [automationMembers] using rules)

/-- The document is built, and it is decoded to the stored rules. -/
structure ListShown (automation : AutomationStore) : Prop where
  built :
    (buildAutomationJson automation automationJsonBufferSize).isSome = true
  shown :
    Json.decode (automationListHandler automation) =
      some (automationJson automation)

theorem listShown_iff (automation : AutomationStore) :
    ListShown automation ↔
    automationListLength automation < automationJsonBufferSize := by
  have built :=
    @buildAutomationJson_eq automationJsonBufferSize automation (by decide)
  rw [automationJson_length] at built
  by_cases fits : automationListLength automation < automationJsonBufferSize
  · refine iff_of_true ⟨?_, ?_⟩ fits
    · rw [built, if_pos fits]
      rfl
    · rw [automationListHandler, built, if_pos fits]
      exact (Json.decode_escaped_iff _).mpr (automationJson_isText automation)
  · refine iff_of_false (fun listShown => ?_) fits
    have isSome := listShown.built
    rw [built, if_neg fits] at isSome
    cases isSome

/-- In every state that the engine reaches the stored rules are shown exactly
if the length of the list is below that of the buffer. -/
theorem automation_list_shown_iff (runtime : Runtime) (calls : List Call) :
    ListShown (Run.final Runtime.call runtime calls).automation ↔
    automationListLength (Run.final Runtime.call runtime calls).automation <
      6144 :=
  listShown_iff _

theorem names_length (rule : AutomationRule) :
    2 ≤ (automationEngineOperatorToCode rule.node.op).length ∧
    1 ≤ (automationEngineOperatorToSymbol rule.node.op).length ∧
    6 ≤ (automationEngineModeToCode rule.node.mode).length ∧
    6 ≤ (automationEngineModeToLabel rule.node.mode).length ∧
    4 ≤
      (automationEngineActionResultName
        rule.diag.lastActionResult).length := by
  refine ⟨?_, ?_, ?_, ?_, ?_⟩
  · rw [automationEngineOperatorToCode]
    split <;> decide
  · rw [automationEngineOperatorToSymbol]
    split <;> decide
  · rw [automationEngineModeToCode]
    split <;> decide
  · rw [automationEngineModeToLabel]
    split <;> decide
  · cases rule.diag.lastActionResult <;> decide

theorem ruleLength_ge (rule : AutomationRule) : 411 ≤ ruleLength rule := by
  rcases names_length rule with ⟨code, symbol, mode, label, result⟩
  have digits := Lines.digitCount_pos
  have signed := Lines.signedLength_pos
  have input := digits rule.node.input.toNat
  have output := digits rule.node.output.toNat
  have threshold := signed rule.node.threshold.toInt
  have duration := digits rule.node.durationMs.toNat
  have onTrue := signed rule.node.onTrue.toInt
  have onFalse := signed rule.node.onFalse.toInt
  have trigger := digits rule.diag.lastTriggerMs.toNat
  have eval := digits rule.diag.lastEvalMs.toNat
  have action := digits rule.diag.lastActionMs.toNat
  have owner := digits rule.diag.lastTargetOwner.toNat
  have original := digits rule.diag.lastTargetOriginalOwner.toNat
  have logic := digits rule.interlock.logicOp.toNat
  have count := digits rule.interlock.condCount.toNat
  rw [ruleLength]
  omega

theorem automationListLength_ge
    {automation : AutomationStore}
    (many : 15 ≤ automation.rules.length) :
    automationJsonBufferSize ≤ automationListLength automation := by
  have each :
      (automation.rules.map ruleLength).length * 411 ≤
        (automation.rules.map ruleLength).sum := by
    refine
      List.card_nsmul_le_sum (automation.rules.map ruleLength) 411
        fun length member => ?_
    rcases List.mem_map.mp member with ⟨rule, _, rfl⟩
    exact ruleLength_ge rule
  rw [List.length_map] at each
  rw [automationListLength, automationJsonBufferSize]
  omega

def fifteenRules : List Call :=
  (List.range 15).map fun slot =>
    .addRule standalone.onDevice
      { input := 10
        op := 2
        mode := AutomationMode.follow.code
        threshold := 1
        durationMs := 0
        output := Int32.ofNat (100 + slot)
        onTrue := 1
        onFalse := 0 }
      .committed

/-- The rules are stored, and the handler answers that there are none. -/
theorem full_list_not_shown :
    (Run.final Runtime.call idleRuntime fifteenRules).automation.rules.length =
        15 ∧
    automationListHandler
        (Run.final Runtime.call idleRuntime fifteenRules).automation =
      CText.bytes "\x7b\"saved\":0,\"count\":0,\"rules\":[]\x7d" ∧
    ¬ ListShown
      (Run.final Runtime.call idleRuntime fifteenRules).automation := by
  have many :
      (Run.final Runtime.call idleRuntime
            fifteenRules).automation.rules.length =
        15 := by
    decide +kernel
  have long := automationListLength_ge (Nat.le_of_eq many.symm)
  have built :=
    @buildAutomationJson_eq automationJsonBufferSize
      (Run.final Runtime.call idleRuntime fifteenRules).automation (by decide)
  rw [automationJson_length, if_neg (Nat.not_lt.mpr long)] at built
  refine ⟨many, ?_, fun listShown => ?_⟩
  · rw [automationListHandler, built]
    rfl
  · have isSome := listShown.built
    rw [built] at isSome
    cases isSome

end Endap.Http
