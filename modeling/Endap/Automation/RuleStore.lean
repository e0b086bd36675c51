import Endap.Automation.Runtime
import Endap.Device.Profile
import Endap.Library.ArrayList

/-!
# The rule store

Rules enter the store one by one, each checked against those already there.
What the checks establish for pairs of rules holds of the whole store along
every run: the rules are valid and different, and an output has one driver, or
one rule that forces it on and one that forces it off.

Events and ticks change what a rule remembers, never the rule itself or its
interlock.
-/

namespace Endap.Automation

open Endap.Device
open Endap.Library
open Endap.State

def automationRuleIsValid (node : AutomationNode) : Bool :=
  deviceProfileIsValidInput node.input &&
    deviceProfileIsValidOutput node.output &&
    automationValidOperator node.op &&
    automationValidMode node.mode &&
    automationValidAction node.onTrue.toInt32 &&
    automationValidAction node.onFalse.toInt32 &&
    (if automationModeIsTimed node.mode then decide (0 < node.durationMs)
      else true)

/-- What events and ticks leave as it is in a rule. -/
def AutomationRule.config (rule : AutomationRule) :
    AutomationNode × AutomationInterlock :=
  (rule.node, rule.interlock)

/-- The rules of the store with their interlocks. -/
def AutomationStore.configs (automation : AutomationStore) :
    List (AutomationNode × AutomationInterlock) :=
  automation.rules.map AutomationRule.config

/-! ## Pairs of rules -/

/-- The second rule may be stored after the first. -/
def Compatible (existing candidate : AutomationNode) : Prop :=
  existing ≠ candidate ∧ automationRuleConflicts existing candidate = false

theorem Compatible.opposite
    {existing candidate : AutomationNode}
    (compatible : Compatible existing candidate)
    (sameOutput : existing.output = candidate.output) :
    (existing.mode = AutomationMode.forceOn.code ∧
        candidate.mode = AutomationMode.forceOff.code) ∨
      (existing.mode = AutomationMode.forceOff.code ∧
      candidate.mode = AutomationMode.forceOn.code) := by
  have different := compatible.1
  have noConflict := compatible.2
  simp only [automationRuleConflicts, automationRulesEqual, sameOutput,
    different, ne_eq, not_true_eq_false, decide_false, Bool.or_self,
    Bool.false_eq_true, if_false] at noConflict
  split at noConflict
  · next bothForce =>
      have differ : existing.mode ≠ candidate.mode :=
        of_decide_eq_false noConflict
      simp only [automationModeIsForcePair, Bool.and_eq_true,
        Bool.or_eq_true, decide_eq_true_eq] at bothForce
      rcases bothForce with ⟨on | off, candidateOn | candidateOff⟩
      · exact absurd (on.trans candidateOn.symm) differ
      · exact Or.inl ⟨on, candidateOff⟩
      · exact Or.inr ⟨off, candidateOn⟩
      · exact absurd (off.trans candidateOff.symm) differ
  · cases noConflict

theorem Compatible.apart
    {node other : AutomationNode}
    (related : Compatible node other ∨ Compatible other node)
    (notForced : automationModeIsForcePair node.mode = false) :
    other.output ≠ node.output := by
  rw [automationModeIsForcePair, Bool.or_eq_false_iff,
    decide_eq_false_iff_not, decide_eq_false_iff_not] at notForced
  intro same
  rcases related with later | earlier
  · rcases later.opposite same.symm with on | off
    · exact notForced.1 on.1
    · exact notForced.2 off.1
  · rcases earlier.opposite same with off | on
    · exact notForced.2 off.2
    · exact notForced.1 on.2

/--
The rules of one output: one at most, or one that forces it on and one that
forces it off.
-/
def DrivenProperly : List AutomationNode → Prop
  | [] => True
  | [_] => True
  | [first, second] =>
      (first.mode = AutomationMode.forceOn.code ∧
          second.mode = AutomationMode.forceOff.code) ∨
        (first.mode = AutomationMode.forceOff.code ∧
        second.mode = AutomationMode.forceOn.code)
  | _ => False

theorem drivenProperly_of_pairwise
    {drivers : List AutomationNode} {output : UInt16}
    (compatible : drivers.Pairwise Compatible)
    (sameOutput : ∀ node ∈ drivers, node.output = output) :
    DrivenProperly drivers := by
  match drivers, compatible, sameOutput with
  | [], _, _ => trivial
  | [_], _, _ => trivial
  | [first, second], compatible, sameOutput =>
      have pair := (List.pairwise_cons.mp compatible).1 second (by simp)
      exact pair.opposite
        ((sameOutput first (by simp)).trans (sameOutput second (by simp)).symm)
  | first :: second :: third :: rest, compatible, sameOutput =>
      rcases List.pairwise_cons.mp compatible with ⟨ofFirst, later⟩
      have ofSecond := (List.pairwise_cons.mp later).1
      have outputs := fun node member => sameOutput node member
      have firstSecond :=
        (ofFirst second (by simp)).opposite
          ((outputs first (by simp)).trans (outputs second (by simp)).symm)
      have firstThird :=
        (ofFirst third (by simp)).opposite
          ((outputs first (by simp)).trans (outputs third (by simp)).symm)
      have secondThird :=
        (ofSecond third (by simp)).opposite
          ((outputs second (by simp)).trans (outputs third (by simp)).symm)
      have onOff :
          AutomationMode.forceOn.code ≠ AutomationMode.forceOff.code := by
        decide
      rcases firstSecond with ⟨_, secondOff⟩ | ⟨_, secondOn⟩
      · rcases secondThird with ⟨secondOn, _⟩ | ⟨_, thirdOn⟩
        · exact absurd (secondOn.symm.trans secondOff) onOff
        · rcases firstThird with ⟨_, thirdOff⟩ | ⟨firstOff, _⟩
          · exact absurd (thirdOn.symm.trans thirdOff) onOff
          · simp_all
      · rcases secondThird with ⟨_, thirdOff⟩ | ⟨secondOff, _⟩
        · rcases firstThird with ⟨firstOn, _⟩ | ⟨_, thirdOn⟩
          · simp_all
          · exact absurd (thirdOn.symm.trans thirdOff) onOff
        · exact absurd (secondOn.symm.trans secondOff) onOff

/-! ## Events and ticks -/

section

variable (around : Surroundings) (plant : Plant) (rule : AutomationRule)

theorem triggerMode_config
    (tickMs : UInt32) (conditionNow risingEdge : Bool) :
    (triggerMode around tickMs conditionNow risingEdge plant
      rule).2.config = rule.config := by
  rw [triggerMode]
  split
  · rfl
  · split
    · rfl
    · rfl
  · split
    · rfl
    · rfl
  · split
    · rfl
    · rfl
  · split
    · rfl
    · rfl
  · split
    · rfl
    · rfl
  · split
    · rfl
    · rfl
  · rfl

theorem triggerVisit_config (tickMs : UInt32) (event : EndapEvent) :
    (triggerVisit around tickMs event plant rule).2.config =
      rule.config := by
  rw [triggerVisit]
  split
  · rfl
  · simp only
    split
    · rfl
    · exact triggerMode_config around plant _ tickMs _ _

theorem guardVisit_config (event : EndapEvent) :
    (guardVisit around event plant rule).2.config = rule.config := by
  rw [guardVisit]
  split
  · rfl
  · split
    · rfl
    · rfl

theorem tickVisit_config (tickMs : UInt32) :
    (tickVisit around tickMs plant rule).2.config = rule.config := by
  rw [tickVisit]
  split
  · rfl
  · split
    · rfl
    · simp only
      split
      · split
        · rfl
        · rfl
      · split
        · rfl
        · rfl
      · split
        · rfl
        · rfl
      · rfl

end

theorem Runtime.sweep_configs
    (runtime : Runtime)
    {visit : Plant → AutomationRule → Plant × AutomationRule}
    (kept : ∀ plant rule, (visit plant rule).2.config = rule.config) :
    (runtime.sweep visit).1.automation.configs =
      runtime.automation.configs :=
  Sweep.run_map AutomationRule.config kept _ _

theorem triggered_configs
    (around : Surroundings) (event : EndapEvent) (runtime : Runtime) :
    (triggered around event runtime).automation.configs =
      runtime.automation.configs :=
  Runtime.sweep_configs runtime fun plant rule =>
    triggerVisit_config around plant rule _ event

theorem automationEventHandler_configs
    (around : Surroundings) (event : EndapEvent) (runtime : Runtime) :
    (automationEventHandler around event runtime).1.automation.configs =
      runtime.automation.configs := by
  rw [automationEventHandler]
  split
  · rfl
  · refine
      (Runtime.sweep_configs _ fun plant rule =>
        guardVisit_config around plant rule event).trans ?_
    exact triggered_configs around event runtime

theorem automationEngineTick1ms_configs
    (around : Surroundings) (runtime : Runtime) :
    (automationEngineTick1ms around runtime).1.automation.configs =
      runtime.automation.configs :=
  Runtime.sweep_configs runtime.advance fun plant rule =>
    tickVisit_config around plant rule _

/-! ## Changes of the rules -/

/-- The surroundings of a call with the tables of the device. -/
def Surroundings.onDevice (around : Surroundings) : Surroundings :=
  { around with
    isValidInput := deviceProfileIsValidInput
    isValidOutput := deviceProfileIsValidOutput }

/-- The call as the device makes it. -/
def Call.onDevice : Call → Call
  | .event around happened => .event around.onDevice happened
  | .tick around => .tick around.onDevice
  | .addRule around request outcome =>
      .addRule around.onDevice request outcome
  | .outputCommand around command =>
      .outputCommand around.onDevice command
  | call => call

/-- The outcome of the `automation_persist` that a call makes, if any. -/
def Call.persisted (automation : AutomationStore) :
    Call → Option NvsOutcome
  | .addRule around request outcome =>
      if request.valid around = true ∧
          findClash request.candidate automation.rules = none ∧
          automation.rules.length < automationEngineMaxNodes then
        some outcome
      else none
  | .removeNodeAt index outcome =>
      if automation.HasIndex index then some outcome else none
  | .setInterlockAt index _ outcome =>
      if automation.HasIndex index then some outcome else none
  | .clear outcome => some outcome
  | _ => none

/-- The ways in which a call may change the rules and their interlocks. -/
inductive Revision
    (configs : List (AutomationNode × AutomationInterlock)) :
    List (AutomationNode × AutomationInterlock) → Prop
  | added
      (candidate : AutomationNode)
      (valid : automationRuleIsValid candidate = true)
      (compatible : ∀ config ∈ configs, Compatible config.1 candidate) :
      Revision configs (configs ++ [(candidate, .zero)])
  | removed (index : Nat) : Revision configs (configs.eraseIdx index)
  | interlocked (index : Nat) (interlock : AutomationInterlock) :
      Revision configs
        (configs.modify index fun config => (config.1, interlock))
  | cleared : Revision configs []

/--
What a call does to the store: it leaves the rules, their interlocks and the
flash as they are, or it changes the rules and persists them.
-/
inductive StoreStep (before : AutomationStore) :
    Option NvsOutcome → AutomationStore → Prop
  | unchanged {after : AutomationStore}
      (sameConfigs : after.configs = before.configs)
      (sameSaved : after.savedRules = before.savedRules) :
      StoreStep before none after
  | revised {after : AutomationStore} (outcome : NvsOutcome)
      (revision : Revision before.configs after.configs)
      (saved :
        after.savedRules =
          nvsWrite outcome before.savedRules (some after.configs)) :
      StoreStep before (some outcome) after

theorem automationPersist_step
    (before changed : AutomationStore)
    (outcome : NvsOutcome)
    (sameSaved : changed.savedRules = before.savedRules)
    (revision : Revision before.configs changed.configs) :
    StoreStep before (some outcome) (automationPersist outcome changed) := by
  refine .revised outcome revision ?_
  rw [← sameSaved]
  rfl

theorem automationEventHandler_saved
    (around : Surroundings) (event : EndapEvent) (runtime : Runtime) :
    (automationEventHandler around event runtime).1.automation.savedRules =
      runtime.automation.savedRules := by
  rw [automationEventHandler]
  split
  · rfl
  · rfl

theorem StoreStep.handled
    {before : AutomationStore} {persisted : Option NvsOutcome}
    (runtime : Runtime)
    (step : StoreStep before persisted runtime.automation)
    (around : Surroundings) (event : EndapEvent) :
    StoreStep before persisted
      (automationEventHandler around event runtime).1.automation := by
  have sameConfigs := automationEventHandler_configs around event runtime
  have sameSaved := automationEventHandler_saved around event runtime
  cases step with
  | unchanged configs saved =>
      exact .unchanged (sameConfigs.trans configs) (sameSaved.trans saved)
  | revised outcome revision saved =>
      refine .revised outcome ?_ ?_
      · rw [sameConfigs]
        exact revision
      · rw [sameConfigs, sameSaved]
        exact saved

/-! ## Adding a rule -/

theorem compatible_of_findClash
    {candidate : AutomationNode} {rules : List AutomationRule}
    (noClash : findClash candidate rules = none) :
    ∀ rule ∈ rules, Compatible rule.node candidate := by
  induction rules with
  | nil =>
      intro rule member
      cases member
  | cons first rest induction =>
      rw [findClash] at noClash
      split at noClash
      · cases noClash
      · next different =>
          split at noClash
          · cases noClash
          · next noConflict =>
              intro rule member
              rcases List.mem_cons.mp member with rfl | later
              · refine ⟨?_, ?_⟩
                · simpa [automationRulesEqual] using different
                · exact Bool.not_eq_true _ ▸ noConflict
              · exact induction noClash rule later

theorem automationValidAction_toInt8
    {value : Int32} (valid : automationValidAction value = true) :
    automationValidAction value.toInt8.toInt32 = true := by
  have zeroOrOne : value = 0 ∨ value = 1 := by
    simpa [automationValidAction] using valid
  rcases zeroOrOne with rfl | rfl
  · decide
  · decide

theorem RuleRequest.candidate_valid
    {request : RuleRequest} {around : Surroundings}
    (valid : request.valid around.onDevice = true) :
    automationRuleIsValid request.candidate = true := by
  simp only [RuleRequest.valid, Bool.and_eq_true] at valid
  rcases valid with
    ⟨⟨⟨⟨⟨⟨input, output⟩, operator⟩, mode⟩, onTrue⟩, onFalse⟩, duration⟩
  have timed :
      (if automationModeIsTimed request.mode then
        decide (0 < request.durationMs) else true) = true := by
    split
    · next isTimed =>
        have nonzero : request.durationMs ≠ 0 := by
          simpa [isTimed] using duration
        exact decide_eq_true (UInt16.pos_iff_ne_zero.mpr nonzero)
    · rfl
  simp only [automationRuleIsValid, Bool.and_eq_true]
  exact
    ⟨⟨⟨⟨⟨⟨input, output⟩, operator⟩, mode⟩,
      automationValidAction_toInt8 onTrue⟩,
      automationValidAction_toInt8 onFalse⟩, timed⟩

theorem AutomationStore.append_configs
    (automation : AutomationStore) (candidate : AutomationNode)
    (room : automation.rules.length < automationEngineMaxNodes) :
    (automation.append candidate room).configs =
      automation.configs ++ [(candidate, .zero)] :=
  List.map_append

section

variable
    {around : Surroundings} {request : RuleRequest} {runtime : Runtime}
    (valid : request.valid around.onDevice = true)
    (noClash : findClash request.candidate runtime.automation.rules = none)
    (room : runtime.automation.rules.length < automationEngineMaxNodes)

include valid noClash room

theorem persisted_of_room (outcome : NvsOutcome) :
    (Call.addRule around.onDevice request outcome).persisted
      runtime.automation = some outcome :=
  if_pos ⟨valid, noClash, room⟩

theorem storing_step (outcome : NvsOutcome) :
    StoreStep runtime.automation (some outcome)
      (runtime.storing request.candidate room outcome).automation := by
  have revision :
      Revision runtime.automation.configs
        (runtime.automation.append request.candidate room).configs := by
    rw [AutomationStore.append_configs]
    refine .added request.candidate (RuleRequest.candidate_valid valid) ?_
    intro config member
    rcases List.mem_map.mp member with ⟨rule, stored, rfl⟩
    exact compatible_of_findClash noClash rule stored
  exact
    automationPersist_step runtime.automation
      (runtime.automation.append request.candidate room) outcome rfl
      revision

end

theorem automationEngineAddRule_step
    (around : Surroundings) (request : RuleRequest) (outcome : NvsOutcome)
    (runtime : Runtime) :
    StoreStep runtime.automation
      ((Call.addRule around.onDevice request outcome).persisted
        runtime.automation)
      (automationEngineAddRule around.onDevice request outcome
        runtime).runtime.automation := by
  have refused : StoreStep runtime.automation none runtime.automation :=
    .unchanged rfl rfl
  have ends :=
    automationEngineAddRule_ends around.onDevice request outcome runtime
  generalize
    automationEngineAddRule around.onDevice request outcome runtime = added
    at ends
  cases ends with
  | invalid notValid => simpa [Call.persisted, notValid] using refused
  | clash valid clashes =>
      simpa [Call.persisted, valid, clashes] using refused
  | full valid noClash noRoom =>
      simpa [Call.persisted, noRoom, valid, noClash] using refused
  | stored valid noClash room =>
      rw [persisted_of_room valid noClash room]
      exact storing_step valid noClash room outcome
  | replayed valid noClash room =>
      rw [persisted_of_room valid noClash room]
      exact StoreStep.handled _ (storing_step valid noClash room outcome) _ _

/-! ## One call -/

theorem automationEngineRemoveNodeAt_step
    (index : Int32) (outcome : NvsOutcome) (automation : AutomationStore) :
    StoreStep automation
      ((Call.removeNodeAt index outcome).persisted automation)
      (automationEngineRemoveNodeAt index outcome automation) := by
  by_cases found : automation.HasIndex index
  · have revision :
        Revision automation.configs
          ((automation.rules.eraseIdx index.toInt.toNat).map
            AutomationRule.config) := by
      rw [← List.eraseIdx_map]
      exact .removed _
    rw [automationEngineRemoveNodeAt, if_pos found, Call.persisted,
      if_pos found]
    exact automationPersist_step _ _ outcome rfl revision
  · rw [automationEngineRemoveNodeAt, if_neg found, Call.persisted,
      if_neg found]
    exact .unchanged rfl rfl

theorem automationEngineSetInterlockAt_step
    (index : Int32) (interlock : Option AutomationInterlock)
    (outcome : NvsOutcome) (automation : AutomationStore) :
    StoreStep automation
      ((Call.setInterlockAt index interlock outcome).persisted automation)
      (automationEngineSetInterlockAt index interlock outcome
        automation) := by
  by_cases found : automation.HasIndex index
  · have revision :
        Revision automation.configs
          ((automation.rules.modify index.toInt.toNat fun rule =>
            { rule with interlock := interlock.getD .zero }).map
              AutomationRule.config) := by
      rw [ArrayList.map_modify fun config =>
        (config.1, interlock.getD .zero)]
      · exact .interlocked _ _
      · intro rule
        rfl
    rw [automationEngineSetInterlockAt, if_pos found, Call.persisted,
      if_pos found]
    exact automationPersist_step _ _ outcome rfl revision
  · rw [automationEngineSetInterlockAt, if_neg found, Call.persisted,
      if_neg found]
    exact .unchanged rfl rfl

theorem automationHandleOutputCommand_automation
    (around : Surroundings) (command : ProtocolOutputCommand)
    (runtime : Runtime) :
    (automationHandleOutputCommand around command runtime).automation =
      runtime.automation := by
  rw [automationHandleOutputCommand]
  split
  · simp only
    split
    · rfl
    · rfl
  · rfl

theorem Runtime.call_storeStep (runtime : Runtime) (call : Call) :
    StoreStep runtime.automation
      (call.onDevice.persisted runtime.automation)
      (runtime.call call.onDevice).1.automation := by
  cases call with
  | event around happened =>
      exact
        .unchanged (automationEventHandler_configs _ happened runtime)
          (automationEventHandler_saved _ happened runtime)
  | tick around =>
      exact .unchanged (automationEngineTick1ms_configs _ runtime) rfl
  | addRule around request outcome =>
      exact automationEngineAddRule_step around request outcome runtime
  | removeNodeAt index outcome =>
      exact automationEngineRemoveNodeAt_step index outcome _
  | setInterlockAt index interlock outcome =>
      exact automationEngineSetInterlockAt_step index interlock outcome _
  | clear outcome =>
      exact automationPersist_step _ _ outcome rfl .cleared
  | outputCommand around command =>
      have same :=
        automationHandleOutputCommand_automation around.onDevice command runtime
      exact
        .unchanged (congrArg AutomationStore.configs same)
          (congrArg AutomationStore.savedRules same)
  | _ => exact .unchanged rfl rfl

/-! ## The invariant -/

/--
The rules are valid and each is related to those before it.  The checks of a
running engine make them compatible; those at boot only exclude conflicts.
-/
structure WellKept
    (related : AutomationNode → AutomationNode → Prop)
    (configs : List (AutomationNode × AutomationInterlock)) : Prop where
  valid : ∀ config ∈ configs, automationRuleIsValid config.1 = true
  pairwise : (configs.map Prod.fst).Pairwise related

variable {configs : List (AutomationNode × AutomationInterlock)}

theorem WellKept.different
    (kept : WellKept Compatible configs) :
    (configs.map Prod.fst).Nodup :=
  kept.pairwise.imp fun compatible => compatible.1

theorem WellKept.driven
    (kept : WellKept Compatible configs) (output : UInt16) :
    DrivenProperly
      ((configs.map Prod.fst).filter fun node => node.output = output) := by
  apply drivenProperly_of_pairwise (kept.pairwise.filter _)
  intro node member
  exact of_decide_eq_true (List.mem_filter.mp member).2

theorem WellKept.sole
    (kept : WellKept Compatible configs) {place position : Nat}
    {config other : AutomationNode × AutomationInterlock}
    (held : configs[place]? = some config)
    (notForced : automationModeIsForcePair config.1.mode = false)
    (isOther : configs[position]? = some other)
    (different : position ≠ place) :
    other.1.output ≠ config.1.output := by
  have pairwise := List.pairwise_iff_getElem.mp kept.pairwise
  have node : (configs.map Prod.fst)[place]? = some config.1 := by
    rw [List.getElem?_map, held]
    rfl
  have otherNode : (configs.map Prod.fst)[position]? = some other.1 := by
    rw [List.getElem?_map, isOther]
    rfl
  obtain ⟨inside, isNode⟩ := List.getElem?_eq_some_iff.mp node
  obtain ⟨otherInside, isOtherNode⟩ := List.getElem?_eq_some_iff.mp otherNode
  apply Compatible.apart _ notForced
  rw [← isNode, ← isOtherNode]
  rcases Nat.lt_or_gt_of_ne different with before | after
  · exact .inr (pairwise _ _ otherInside inside before)
  · exact .inl (pairwise _ _ inside otherInside after)

section

variable {related : AutomationNode → AutomationNode → Prop}

theorem wellKept_nil : WellKept related [] where
  valid := by
    intro config member
    cases member
  pairwise := List.Pairwise.nil

theorem Revision.wellKept
    {before after : List (AutomationNode × AutomationInterlock)}
    (revision : Revision before after)
    (implied :
      ∀ existing candidate,
        Compatible existing candidate → related existing candidate)
    (kept : WellKept related before) :
    WellKept related after := by
  cases revision with
  | added candidate valid compatible =>
      constructor
      · intro config member
        rcases List.mem_append.mp member with earlier | isNew
        · exact kept.valid config earlier
        · rw [List.mem_singleton.mp isNew]
          exact valid
      · rw [List.map_append, List.pairwise_append]
        refine ⟨kept.pairwise, List.pairwise_singleton _ _, ?_⟩
        intro existing member newest isNew
        rcases List.mem_map.mp member with ⟨config, stored, rfl⟩
        rw [List.mem_singleton.mp isNew]
        exact implied _ _ (compatible config stored)
  | removed index =>
      constructor
      · intro config member
        exact kept.valid config (List.mem_of_mem_eraseIdx member)
      · rw [← List.eraseIdx_map]
        exact kept.pairwise.sublist (List.eraseIdx_sublist _ _)
  | interlocked index interlock =>
      have sameNodes :
          (before.modify index fun config =>
            (config.1, interlock)).map Prod.fst =
            before.map Prod.fst := by
        rw [ArrayList.map_modify id]
        · exact List.modify_id _ _
        · intro config
          rfl
      constructor
      · intro config member
        have node := List.mem_map_of_mem (f := Prod.fst) member
        rw [sameNodes] at node
        rcases List.mem_map.mp node with ⟨old, stored, same⟩
        rw [← same]
        exact kept.valid old stored
      · rw [sameNodes]
        exact kept.pairwise
  | cleared => exact wellKept_nil

theorem StoreStep.wellKept
    {before after : AutomationStore} {persisted : Option NvsOutcome}
    (step : StoreStep before persisted after)
    (implied :
      ∀ existing candidate,
        Compatible existing candidate → related existing candidate)
    (kept : WellKept related before.configs) :
    WellKept related after.configs := by
  cases step with
  | unchanged sameConfigs _ =>
      rw [sameConfigs]
      exact kept
  | revised outcome revision _ => exact revision.wellKept implied kept

theorem final_wellKept
    {start : Runtime}
    (implied :
      ∀ existing candidate,
        Compatible existing candidate → related existing candidate)
    (kept : WellKept related start.automation.configs)
    (calls : List Call) :
    WellKept related
      (Run.final Runtime.call start
        (calls.map Call.onDevice)).automation.configs := by
  induction calls using List.reverseRecOn with
  | nil => exact kept
  | append_singleton earlier call induction =>
      rw [List.map_append, List.map_singleton, Run.final_snoc]
      exact (Runtime.call_storeStep _ call).wellKept implied induction

end

end Endap.Automation
