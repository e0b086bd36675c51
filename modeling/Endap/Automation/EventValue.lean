import Endap.Automation.Follow
import Endap.Io.Inputs

/-!
# The value that an event is evaluated with

A state-change event carries the value of its input.  The engine evaluates the
rules of that input with the value of a process variable instead, when the
table of `pve_get_scaled_value` lists the identifier of the input.

The table was written for the converters and the sensors.  Five of the
identifiers that the device profile gives to its inputs are in it.
-/

namespace Endap.Automation

open Endap.Io
open Endap.Library
open Endap.State

/-! ## The variables that the engine reads -/

/-- The surroundings with this content of the process variables. -/
def Surroundings.withVariables
    (around : Surroundings) (content : Pve.PveVariables) : Surroundings :=
  { around with
    scaledValue := fun id =>
      if fits : id.toNat < Pve.maxPveVariables then
        (content ⟨id.toNat, fits⟩).runtime.scaledValue
      else 0 }

/-- The engine reads what `pve_get_scaled_value` reads. -/
theorem pveGetScaledValue_withVariables
    (around : Surroundings) (content : Pve.PveVariables)
    (stateId : UInt16) (fallback : Int32) :
    pveGetScaledValue (around.withVariables content).scaledValue stateId
        fallback =
      Pve.pveGetScaledValue content stateId fallback := by
  by_cases bound : ∃ binding ∈ pveBindings, binding.1 = stateId
  · rcases bound with ⟨binding, listed, rfl⟩
    simp only [pveBindings, List.mem_cons, List.not_mem_nil, or_false] at listed
    rcases listed with rfl | rfl | rfl | rfl | rfl
    all_goals rfl
  · push Not at bound
    rw [pveGetScaledValue_unbound bound]
    have none :
        (Pve.pveBindings.findSome? fun binding =>
          if binding.1 = stateId then
            if fits : binding.2.toNat < Pve.maxPveVariables then
              some (content ⟨binding.2.toNat, fits⟩).runtime.scaledValue
            else none
          else none) = none := by
      rw [List.findSome?_eq_none_iff]
      intro binding listed
      exact if_neg (bound binding listed)
    rw [Pve.pveGetScaledValue, none, Option.getD_none]

section

variable {around : Surroundings} {first second : Pve.PveVariables}
variable {event : EndapEvent}

theorem triggerVisit_withVariables
    (same :
      Pve.pveGetScaledValue first event.source event.data =
        Pve.pveGetScaledValue second event.source event.data)
    (tickMs : UInt32) :
    triggerVisit (around.withVariables first) tickMs event =
      triggerVisit (around.withVariables second) tickMs event := by
  funext plant rule
  simp only [triggerVisit, pveGetScaledValue_withVariables, same]
  rfl

theorem automationEventHandler_withVariables
    (same :
      Pve.pveGetScaledValue first event.source event.data =
        Pve.pveGetScaledValue second event.source event.data)
    (runtime : Runtime) :
    automationEventHandler (around.withVariables first) event runtime =
      automationEventHandler (around.withVariables second) event runtime := by
  simp only [automationEventHandler, triggerVisit_withVariables same]
  rfl

end

/-! ## The condition that is recorded -/

section

variable (around : Surroundings) (tickMs : UInt32) (event : EndapEvent)
variable (plant : Plant) (rule : AutomationRule)

/-- What a rule says, and how its condition was evaluated last. -/
def AutomationRule.verdict (rule : AutomationRule) : AutomationNode × Bool :=
  (rule.node, rule.runtime.condition)

theorem triggerMode_verdict (conditionNow risingEdge : Bool) :
    (triggerMode around tickMs conditionNow risingEdge plant rule).2.verdict =
      rule.verdict := by
  rw [triggerMode]
  split
  · rfl
  · split
    · rfl
    · rfl
  · split
    · rfl
    · rfl
  · split
    · rfl
    · rfl
  · split
    · rfl
    · rfl
  · split
    · rfl
    · rfl
  · split
    · rfl
    · rfl
  · rfl

theorem triggerVisit_verdict (isInput : rule.node.input = event.source) :
    (triggerVisit around tickMs event plant rule).2.verdict =
      (rule.node, conditionHolds around event rule.node) := by
  rw [triggerVisit, if_neg (not_not.mpr isInput)]
  simp only
  split
  · rfl
  · rw [triggerMode_verdict]
    rfl

theorem guardVisit_verdict :
    (guardVisit around event plant rule).2.verdict = rule.verdict := by
  rw [guardVisit]
  split
  · rfl
  · split
    · rfl
    · rfl

end

theorem automationEventHandler_verdict
    (around : Surroundings) {event : EndapEvent}
    (changed : event.type = .stateChange) {runtime : Runtime} {index : Nat}
    {rule : AutomationRule}
    (held : runtime.automation.rules[index]? = some rule)
    (isInput : rule.node.input = event.source) :
    ((automationEventHandler around event
        runtime).1.automation.rules[index]?).map AutomationRule.verdict =
      some (rule.node, conditionHolds around event rule.node) := by
  rw [automationEventHandler, if_neg (not_not.mpr changed)]
  simp only [Runtime.sweep]
  rw [← List.getElem?_map,
    Sweep.run_map AutomationRule.verdict
      (fun plant rule => guardVisit_verdict around event plant rule),
    List.getElem?_map]
  rcases
    @Sweep.run_getElem? _ _
      (triggerVisit around runtime.automation.tickMs event) _ _ _ held
      runtime.plant with
    ⟨found, _, left⟩
  rw [left, Option.map_some,
    triggerVisit_verdict around _ event found rule isInput]

/-! ## Digital inputs -/

/-- The input is bound to a pin of the chip. -/
def DigitalInput (bindings : IoBindings) (id : UInt16) : Prop :=
  ∃ view ∈ ioBindingExportInputs bindings, view.id = id ∧ view.backend = .gpio

/-- The input is bound to a converter that feeds the variable. -/
def FedBy (bindings : IoBindings) (id : UInt16)
    (var : Fin Pve.maxPveVariables) : Prop :=
  ∃ view ∈ ioBindingExportInputs bindings,
    view.id = id ∧ view.backend = .adcNative ∧
    ∃ rawValue, InputCall.pveUpdate var rawValue ∈ pveCalls view.gpio rawValue

theorem exportInputs_backend
    {bindings : IoBindings} {first second : IoBindingInputView}
    (firstMember : first ∈ ioBindingExportInputs bindings)
    (secondMember : second ∈ ioBindingExportInputs bindings)
    (same : first.id = second.id) : first.backend = second.backend := by
  rcases List.mem_map.mp firstMember with ⟨entry, inTable, rfl⟩
  rcases List.mem_map.mp secondMember with ⟨other, otherInTable, rfl⟩
  have sameId : entry.id = other.id := same
  have found :
      (bindings.inputEntries.find? fun third => third.id = entry.id).isSome
        := by
    rw [List.find?_isSome]
    exact ⟨entry, inTable, decide_eq_true rfl⟩
  rcases Option.isSome_iff_exists.mp found with ⟨third, isThird⟩
  have otherFound := isThird
  rw [sameId] at otherFound
  simp only [ioBindingGetInput, isThird, otherFound, Option.getD_some]

theorem DigitalInput.not_fedBy
    {bindings : IoBindings} {id : UInt16} (digital : DigitalInput bindings id)
    (var : Fin Pve.maxPveVariables) : ¬ FedBy bindings id var := by
  rintro ⟨analog, analogListed, isAnalog, converter, _⟩
  rcases digital with ⟨view, listed, isView, pin⟩
  have same :=
    exportInputs_backend listed analogListed (isView.trans isAnalog.symm)
  rw [pin, converter] at same
  exact ChannelBackend.noConfusion same

/-! ## Rules on a digital input -/

/-- Two calls of the handler leave the same states and send the same
commands. -/
structure SameOutputs (first second : Runtime × List Dispatch) : Prop where
  store : first.1.store = second.1.store
  remoteQueue :
    first.1.automation.remoteQueue = second.1.automation.remoteQueue
  dispatches : first.2 = second.2

/-- The change of an input to a value. -/
def changeOf (source : UInt16) (data : Int32) : EndapEvent where
  type := .stateChange
  source := source
  data := data

/-- The rules on an input are evaluated with the values of its events. -/
def EvaluatesEvents (source : UInt16) : Prop :=
  ∀ (around : Surroundings) (content : Pve.PveVariables) (data : Int32)
    (runtime : Runtime) (index : Nat) (rule : AutomationRule),
    runtime.automation.rules[index]? = some rule →
    rule.node.input = source →
    ((automationEventHandler (around.withVariables content)
        (changeOf source data)
        runtime).1.automation.rules[index]?).map
        AutomationRule.verdict =
      some (rule.node, automationEvalRule rule.node data)

/-- Variables that the input does not feed do not matter for its events. -/
def IgnoresVariables (bindings : IoBindings) (source : UInt16) : Prop :=
  ∀ (around : Surroundings) (first second : Pve.PveVariables)
    (data : Int32) (runtime : Runtime),
    (∀ var, FedBy bindings source var → first var = second var) →
    SameOutputs
      (automationEventHandler (around.withVariables first)
        (changeOf source data) runtime)
      (automationEventHandler (around.withVariables second)
        (changeOf source data) runtime)

/-- The table of `pve_get_scaled_value` has no entry for the identifier. -/
def Unlisted (source : UInt16) : Prop :=
  ∀ binding ∈ Pve.pveBindings, binding.1 ≠ source

instance (source : UInt16) : Decidable (Unlisted source) :=
  List.decidableBAll _ Pve.pveBindings

variable {source : UInt16}

theorem Unlisted.pveGetScaledValue
    (unlisted : Unlisted source)
    (content : Pve.PveVariables) (data : Int32) :
    Pve.pveGetScaledValue content source data = data := by
  rw [← pveGetScaledValue_withVariables standalone]
  exact pveGetScaledValue_unbound unlisted _ _

theorem Unlisted.evaluatesEvents
    (unlisted : Unlisted source) :
    EvaluatesEvents source := by
  intro around content data runtime index rule held isInput
  rw [automationEventHandler_verdict _ rfl held isInput, conditionHolds,
    pveGetScaledValue_withVariables, changeOf, unlisted.pveGetScaledValue]

theorem Unlisted.ignoresVariables
    (unlisted : Unlisted source) (bindings : IoBindings) :
    IgnoresVariables bindings source := by
  intro around first second data runtime _
  have same :
      Pve.pveGetScaledValue first source data =
        Pve.pveGetScaledValue second source data := by
    rw [unlisted.pveGetScaledValue, unlisted.pveGetScaledValue]
  have handled :=
    @automationEventHandler_withVariables around first second
      (changeOf source data) same runtime
  rw [handled]
  exact ⟨rfl, rfl, rfl⟩

/-! ### Listed identifiers -/

/-- A rule that tells whether an input is above zero. -/
def aboveZero (source : UInt16) : AutomationNode where
  input := source
  output := 100
  threshold := 0
  op := 0
  mode := AutomationMode.follow.code
  durationMs := 0
  onTrue := 1
  onFalse := 0

theorem alone_fits (rule : AutomationRule) :
    [rule].length ≤ automationEngineMaxNodes :=
  Nat.succ_le_succ (Nat.zero_le _)

/-- The rule is alone in the store. -/
def watching (source : UInt16) : Runtime :=
  { idleRuntime with
    automation :=
      { idleRuntime.automation with
        rules := [AutomationRule.fresh (aboveZero source)]
        fits := alone_fits _ } }

/-- Every variable has this scaled value. -/
def allAt (scaledValue : Int32) : Pve.PveVariables :=
  fun _ => { runtime := { scaledValue := scaledValue } }

theorem pveGetScaledValue_listed
    (listed : ¬ Unlisted source) (scaledValue data : Int32) :
    Pve.pveGetScaledValue (allAt scaledValue) source data = scaledValue := by
  rw [Unlisted] at listed
  push Not at listed
  rcases listed with ⟨binding, member, rfl⟩
  simp only [Pve.pveBindings, List.mem_cons, List.not_mem_nil,
    or_false] at member
  rcases member with rfl | rfl | rfl | rfl | rfl
  all_goals rfl

theorem listed_verdict (listed : ¬ Unlisted source) :
    ((automationEventHandler (standalone.withVariables (allAt 0))
        (changeOf source 1)
        (watching source)).1.automation.rules[0]?).map
        AutomationRule.verdict =
      some (aboveZero source, false) := by
  have evaluated :=
    @automationEventHandler_verdict (standalone.withVariables (allAt 0))
      (changeOf source 1) rfl (watching source) 0
      (AutomationRule.fresh (aboveZero source)) rfl rfl
  rw [conditionHolds, pveGetScaledValue_withVariables, changeOf,
    pveGetScaledValue_listed listed] at evaluated
  exact evaluated

theorem listed_outputs (listed : ¬ Unlisted source) :
    (automationEventHandler (standalone.withVariables (allAt 0))
        (changeOf source 0) (watching source)).1.store.intValues 100 ≠
      (automationEventHandler (standalone.withVariables (allAt 1))
        (changeOf source 0) (watching source)).1.store.intValues 100 := by
  rw [Unlisted] at listed
  push Not at listed
  rcases listed with ⟨binding, member, rfl⟩
  simp only [Pve.pveBindings, List.mem_cons, List.not_mem_nil,
    or_false] at member
  rcases member with rfl | rfl | rfl | rfl | rfl
  all_goals decide +kernel

/-- Rules see a digital input if and only if the table does not list it. -/
theorem rules_see_input_iff (bindings : IoBindings) (source : UInt16)
    (digital : DigitalInput bindings source) :
    (EvaluatesEvents source ↔ Unlisted source) ∧
    (IgnoresVariables bindings source ↔ Unlisted source) := by
  refine
    ⟨⟨?_, Unlisted.evaluatesEvents⟩,
      ⟨?_, fun unlisted => unlisted.ignoresVariables bindings⟩⟩
  · intro evaluates
    by_contra listed
    have verdict :=
      evaluates standalone (allAt 0) 1 (watching source) 0
        (AutomationRule.fresh (aboveZero source)) rfl rfl
    rw [listed_verdict listed] at verdict
    have conditions := congrArg Prod.snd (Option.some.inj verdict)
    have above :
        automationEvalRule (AutomationRule.fresh (aboveZero source)).node 1 =
          true := rfl
    rw [above] at conditions
    exact Bool.noConfusion conditions
  · intro ignores
    by_contra listed
    have same :=
      ignores standalone (allAt 0) (allAt 1) 0 (watching source)
        fun var fed => absurd fed (digital.not_fedBy var)
    exact
      listed_outputs listed
        (congrArg (fun store => store.intValues 100) same.store)

def defaultBindings : IoBindings where
  inputEntries := ioBindingApplyInputDefaults
  outputEntries := []

theorem defaultBindings_digital :
    DigitalInput defaultBindings 10 ∧ DigitalInput defaultBindings 12 :=
  ⟨⟨{ id := 10, gpio := 16, backend := .gpio }, by decide, rfl, rfl⟩,
    { id := 12, gpio := 21, backend := .gpio }, by decide, rfl, rfl⟩

/-- The rules on pin 16 see their input. -/
theorem pin16_seen :
    EvaluatesEvents 10 ∧ IgnoresVariables defaultBindings 10 := by
  have seen := rules_see_input_iff defaultBindings 10 defaultBindings_digital.1
  exact ⟨seen.1.mpr (by decide), seen.2.mpr (by decide)⟩

/-- The rules on pin 21 do not: a change of the input to one is evaluated as
zero, the value of the first variable. -/
theorem pin21_unseen :
    DigitalInput defaultBindings 12 ∧
    ((automationEventHandler (standalone.withVariables (allAt 0))
          (changeOf 12 1) (watching 12)).1.automation.rules[0]?).map
          AutomationRule.verdict =
        some (aboveZero 12, false) ∧
    ¬ EvaluatesEvents 12 ∧ ¬ IgnoresVariables defaultBindings 12 := by
  have listed : ¬ Unlisted 12 := by decide
  have verdict := listed_verdict listed
  refine ⟨defaultBindings_digital.2, verdict, ?_, ?_⟩
  · intro evaluates
    have expected :=
      evaluates standalone (allAt 0) 1 (watching 12) 0
        (AutomationRule.fresh (aboveZero 12)) rfl rfl
    exact absurd (verdict.symm.trans expected) (by decide)
  · intro ignores
    have same :=
      ignores standalone (allAt 0) (allAt 1) 0 (watching 12)
        fun var fed =>
          absurd fed (defaultBindings_digital.2.not_fedBy var)
    exact
      listed_outputs listed
        (congrArg (fun store => store.intValues 100) same.store)

end Endap.Automation
