import Endap.Automation.Output
import Endap.Automation.Timers

/-!
# Delays

The delay of an `ON_DELAY_MS` rule should begin when its condition becomes
true, that of an `OFF_DELAY_MS` rule when it becomes false.  The handler asks
for the condition, not for the edge.  Every event that finds the condition
again as it must be for the delay to begin starts the delay again, and an
`ON_DELAY_MS` rule also takes its output back; an input that reports every
sample can keep the delay from ever ending.

The main theorem says which events of the input go unnoticed, and that a run
in which all repetitions do measures its delays from the edge.
-/

namespace Endap.Automation

open Endap.Cluster
open Endap.Device
open Endap.Failsafe
open Endap.Library
open Endap.Library.Run
open Endap.State

/-! ## The rule -/

/-- The condition that starts the delay of a rule, if it has one. -/
def AutomationNode.delays (node : AutomationNode) : Option Bool :=
  match AutomationMode.ofCode node.mode with
  | some .onDelayMs => some true
  | some .offDelayMs => some false
  | _ => none

/-- The value that a rule applies for a condition. -/
def AutomationNode.applied (node : AutomationNode) (conditionTrue : Bool) :
    Int32 :=
  if conditionTrue then node.onTrue.toInt32 else node.onFalse.toInt32

theorem AutomationMode.eq_code_of_ofCode
    {code : UInt8} {mode : AutomationMode}
    (found : AutomationMode.ofCode code = some mode) :
    code = mode.code := by
  unfold AutomationMode.ofCode at found
  split_ifs at found with first second third fourth fifth sixth seventh
  all_goals
    cases found
    assumption

section

variable {node : AutomationNode} {starts : Bool}

theorem AutomationNode.delays_cases
    (delays : node.delays = some starts) :
    AutomationMode.ofCode node.mode = some .onDelayMs ∧ starts = true ∨
      AutomationMode.ofCode node.mode = some .offDelayMs ∧
        starts = false := by
  unfold AutomationNode.delays at delays
  split at delays
  · next isOn =>
      cases delays
      exact .inl ⟨isOn, rfl⟩
  · next isOff =>
      cases delays
      exact .inr ⟨isOff, rfl⟩
  · cases delays

theorem AutomationNode.delays_mode
    (delays : node.delays = some starts) :
    automationModeIsForcePair node.mode = false ∧
      automationModeIsTimed node.mode = true := by
  rcases AutomationNode.delays_cases delays with ⟨isOn, _⟩ | ⟨isOff, _⟩
  · rw [AutomationMode.eq_code_of_ofCode isOn]
    decide
  · rw [AutomationMode.eq_code_of_ofCode isOff]
    decide

theorem AutomationNode.applied_valid
    (valid : automationRuleIsValid node = true) (conditionTrue : Bool) :
    automationValidAction (node.applied conditionTrue) = true := by
  obtain ⟨_, _, onTrue, onFalse⟩ := automationRuleIsValid_parts valid
  cases conditionTrue with
  | true => exact onTrue
  | false => exact onFalse

end

/-! ## One trigger of a delayed rule -/

theorem triggerVisit_conditionHolds
    {around : Surroundings} {plant : Plant} {rule : AutomationRule}
    (tickMs : UInt32) {event : EndapEvent}
    (isInput : event.source = rule.node.input)
    (permitted :
      automationEvalInterlock plant.store rule.interlock = true) :
    triggerVisit around tickMs event plant rule =
      triggerMode around tickMs (conditionHolds around event rule.node)
        (conditionHolds around event rule.node && !rule.runtime.condition)
        plant
        (rule.evaluated (conditionHolds around event rule.node)
          around.nowMs) :=
  triggerVisit_permitted tickMs isInput permitted

section

variable {around : Surroundings} {plant : Plant} {rule : AutomationRule}
    {starts : Bool}

theorem triggerMode_delay_timer
    (delays : rule.node.delays = some starts) (tickMs : UInt32)
    (conditionNow risingEdge : Bool) :
    (triggerMode around tickMs conditionNow risingEdge plant
        rule).2.timer =
      if conditionNow = starts then armedAt tickMs rule.node.durationMs
      else { active := false, deadlineMs := rule.timer.deadlineMs } := by
  rcases AutomationNode.delays_cases delays with
    ⟨isOn, rfl⟩ | ⟨isOff, rfl⟩
  · rw [triggerMode, isOn]
    cases conditionNow <;> rfl
  · rw [triggerMode, isOff]
    cases conditionNow <;> rfl

theorem triggerMode_condition
    (tickMs : UInt32) (conditionNow risingEdge : Bool) :
    (triggerMode around tickMs conditionNow risingEdge plant
        rule).2.runtime.condition =
      rule.runtime.condition := by
  rw [triggerMode]
  split
  · rfl
  · split
    · rfl
    · rfl
  · split
    · rfl
    · rfl
  · split
    · rfl
    · rfl
  · split
    · rfl
    · rfl
  · split
    · rfl
    · rfl
  · split
    · rfl
    · rfl
  · rfl

end

/-! ## Events and ticks -/

/-- A state-change event or a tick. -/
inductive Stimulus where
  | event (around : Surroundings) (event : EndapEvent)
  | tick (around : Surroundings)

/-- The call of a stimulus. -/
def Stimulus.call : Stimulus → Call
  | .event around happened => .event around happened
  | .tick around => .tick around

/-- The effect of one stimulus. -/
def Watch.observe (watch : Watch) (stimulus : Stimulus) :
    Watch × List Dispatch :=
  watch.call stimulus.call

theorem Watch.observe_place (watch : Watch) (stimulus : Stimulus) :
    (watch.observe stimulus).1.place = watch.place := by
  cases stimulus with
  | event around event | tick around =>
      change (watch.place.bind fun place => some place) = watch.place
      cases watch.place <;> rfl

theorem Watch.observe_configs (watch : Watch) (stimulus : Stimulus) :
    (watch.observe stimulus).1.runtime.automation.configs =
      watch.runtime.automation.configs := by
  cases stimulus with
  | event around event =>
      exact automationEventHandler_configs around event watch.runtime
  | tick around =>
      exact automationEngineTick1ms_configs around watch.runtime

/-- The events of a stimulus find the permission of the interlock. -/
def Watch.Permits (watch : Watch) (stimulus : Stimulus) : Prop :=
  ∀ around event place,
    stimulus = .event around event → watch.place = some place →
      Permitted around event watch.runtime place

/-- A well-kept store, in which the rule that is watched has a delay. -/
structure Delays (watch : Watch) (node : AutomationNode) (starts : Bool) :
    Prop where
  kept : WellKept Compatible watch.runtime.automation.configs
  watched :
    ∃ place rule,
      watch.place = some place ∧
        watch.runtime.automation.rules[place]? = some rule ∧
        rule.node = node
  delays : node.delays = some starts

section

variable {watch : Watch} {node : AutomationNode} {starts : Bool}

theorem Delays.observe
    (delayed : Delays watch node starts) (stimulus : Stimulus) :
    Delays (watch.observe stimulus).1 node starts := by
  obtain ⟨kept, ⟨place, rule, isPlace, held, isNode⟩, delays⟩ := delayed
  have configs := watch.observe_configs stimulus
  refine ⟨?_, ?_, delays⟩
  · rw [configs]
    exact kept
  · have config :
        watch.runtime.automation.configs[place]? = some rule.config := by
      rw [AutomationStore.configs, List.getElem?_map, held]
      rfl
    rw [← configs, AutomationStore.configs, List.getElem?_map,
      Option.map_eq_some_iff] at config
    obtain ⟨after, left, same⟩ := config
    have sameNode : after.node = rule.node := congrArg Prod.fst same
    exact
      ⟨place, after, (watch.observe_place stimulus).trans isPlace, left,
        sameNode.trans isNode⟩

theorem Delays.final
    (delayed : Delays watch node starts) (stimuli : List Stimulus) :
    Delays (Run.final Watch.observe watch stimuli) node starts :=
  final_invariant (fun watch => Delays watch node starts) delayed
    (fun _ stimulus holding => holding.observe stimulus) stimuli

theorem Delays.rule?
    (delayed : Delays watch node starts) {place : Nat}
    {rule : AutomationRule} (isPlace : watch.place = some place)
    (held : watch.runtime.automation.rules[place]? = some rule) :
    watch.rule? = some rule ∧ rule.node = node := by
  obtain ⟨known, isKnown, samePlace, isHeld, isNode⟩ := delayed.watched
  rw [isPlace, Option.some_inj] at samePlace
  subst samePlace
  rw [held, Option.some_inj] at isHeld
  subst isHeld
  unfold Watch.rule?
  rw [isPlace]
  exact ⟨held, isNode⟩

theorem Delays.valid
    (delayed : Delays watch node starts) :
    automationRuleIsValid node = true := by
  obtain ⟨place, rule, _, held, isNode⟩ := delayed.watched
  rw [← isNode]
  exact
    delayed.kept.valid rule.config
      (List.mem_map_of_mem (List.mem_of_getElem? held))

theorem Delays.sole
    (delayed : Delays watch node starts) {place : Nat}
    {rule : AutomationRule}
    (held : watch.runtime.automation.rules[place]? = some rule)
    (isNode : rule.node = node) :
    Sole watch.runtime.automation.rules place rule.node := by
  apply sole_of_wellKept delayed.kept held
  rw [isNode]
  exact (AutomationNode.delays_mode delayed.delays).1

end

/-! ## Repetitions -/

/-- The event is a change of the input that leaves the condition as it was. -/
def RepeatsCondition (around : Surroundings) (event : EndapEvent)
    (rule : AutomationRule) : Prop :=
  event.ChangeOf rule.node.input ∧
    conditionHolds around event rule.node = rule.runtime.condition

/-- The pending deadline and the output are as they were. -/
structure Unnoticed (before after : Watch) (rule : AutomationRule) : Prop where
  pending : rule.timer.active = true → after.timer? = some rule.timer
  output :
    after.runtime.store.intValues rule.node.output =
      before.runtime.store.intValues rule.node.output

/-- A pending delay was started in the same tick by the same condition; and
where the rule applies the other condition to its output, the command is not
written or asks for the present value. -/
structure Harmless (around : Surroundings) (runtime : Runtime)
    (rule : AutomationRule) (starts : Bool) : Prop where
  pending :
    rule.timer.active = true →
      rule.runtime.condition = starts ∧
        rule.timer =
          armedAt runtime.automation.tickMs rule.node.durationMs
  settled :
    starts = true ∨ rule.runtime.condition ≠ starts →
      clusterIoIsLocal around.clusterIo rule.node.output.toUInt32 = true →
        Admits runtime.failsafe rule.node.output →
          runtime.store.intValues rule.node.output =
            rule.node.applied (!starts)

section

variable {watch : Watch} {node : AutomationNode} {starts : Bool}
    (delayed : Delays watch node starts) {around : Surroundings}
    {event : EndapEvent} {rule : AutomationRule}
    (permits : watch.Permits (.event around event))
    (isRule : watch.rule? = some rule)

include delayed isRule

theorem Delays.place :
    rule.node = node ∧
      ∃ place,
        watch.place = some place ∧
          watch.runtime.automation.rules[place]? = some rule := by
  obtain ⟨place, found, isPlace, held, _⟩ := delayed.watched
  obtain ⟨isFound, isNode⟩ := delayed.rule? isPlace held
  rw [isRule, Option.some_inj] at isFound
  subst isFound
  exact ⟨isNode, place, isPlace, held⟩

include permits

/-- A permitted event reaches the rule and its output in the trigger loop, which
finds the output as it was. -/
theorem Delays.visited (change : event.type = .stateChange) :
    ∃ plant,
      plant.store.intValues rule.node.output =
          watch.runtime.store.intValues rule.node.output ∧
        (Admits plant.failsafe rule.node.output ↔
          Admits watch.runtime.failsafe rule.node.output) ∧
        automationEvalInterlock plant.store rule.interlock = true ∧
        (watch.observe (.event around event)).1.rule? =
          some
            (triggerVisit around watch.runtime.automation.tickMs event
              plant rule).2 ∧
        (watch.observe (.event around event)).1.runtime.store.intValues
            rule.node.output =
          (triggerVisit around watch.runtime.automation.tickMs event plant
            rule).1.store.intValues rule.node.output := by
  obtain ⟨isNode, place, isPlace, held⟩ := delayed.place isRule
  obtain ⟨plant, share, permitted, left, output⟩ :=
    automationEventHandler_permitted held (delayed.sole held isNode)
      (permits around event place rfl isPlace) change
  refine
    ⟨plant, congrArg Prod.fst share,
      admits_congr (congrArg (fun part => part.2.1) share), permitted, ?_,
      output⟩
  unfold Watch.rule?
  rw [watch.observe_place (.event around event), isPlace]
  exact left

theorem Delays.ignored (other : ¬ event.ChangeOf rule.node.input) :
    (watch.observe (.event around event)).1.rule? = some rule := by
  by_cases change : event.type = .stateChange
  · obtain ⟨plant, _, _, _, left, _⟩ :=
      delayed.visited permits isRule change
    have ignores :
        triggerVisit around watch.runtime.automation.tickMs event plant
          rule = (plant, rule) := by
      rw [triggerVisit, if_pos]
      intro isInput
      exact other ⟨change, isInput.symm⟩
    rw [ignores] at left
    exact left
  · have nothing :
        (watch.observe (.event around event)).1.runtime =
          watch.runtime := by
      change (automationEventHandler around event watch.runtime).1 = _
      rw [automationEventHandler, if_pos change]
    unfold Watch.rule? at isRule ⊢
    rw [watch.observe_place (.event around event), nothing]
    exact isRule

variable (change : event.ChangeOf rule.node.input)

include change

/-- What a permitted event of the input makes of the condition and of the
timer. -/
theorem Delays.triggered_timer :
    ∃ left,
      (watch.observe (.event around event)).1.rule? = some left ∧
        left.runtime.condition = conditionHolds around event rule.node ∧
        left.timer =
          if conditionHolds around event rule.node = starts then
            armedAt watch.runtime.automation.tickMs rule.node.durationMs
          else
            { active := false, deadlineMs := rule.timer.deadlineMs } := by
  obtain ⟨isNode, _⟩ := delayed.place isRule
  have delays : rule.node.delays = some starts := by
    rw [isNode]
    exact delayed.delays
  obtain ⟨plant, _, _, permitted, left, _⟩ :=
    delayed.visited permits isRule change.1
  rw [triggerVisit_conditionHolds _ change.2 permitted] at left
  exact
    ⟨_, left, triggerMode_condition _ _ _,
      @triggerMode_delay_timer around plant (rule.evaluated _ _) starts
        delays _ _ _⟩

end

section

variable (around : Surroundings) {plant : Plant} {rule : AutomationRule}

theorem tickVisit_condition (tickMs : UInt32) :
    (tickVisit around tickMs plant rule).2.runtime.condition =
      rule.runtime.condition := by
  rw [tickVisit]
  split
  · rfl
  · split
    · rfl
    · dsimp only
      split
      · split
        · rfl
        · rfl
      · split
        · rfl
        · rfl
      · split
        · rfl
        · rfl
      · rfl

theorem tickVisit_delay_plant
    {starts : Bool} (delays : rule.node.delays = some starts)
    (condition : rule.runtime.condition = starts) (tickMs : UInt32) :
    (rule.timer.active = true ∧
        automationTimeReached tickMs rule.timer.deadlineMs = true →
      ∃ changed : AutomationRule,
        changed.node = rule.node ∧
          (tickVisit around tickMs plant rule).1 =
            (automationApplyOutput around starts plant changed).1) ∧
      (¬ (rule.timer.active = true ∧
          automationTimeReached tickMs rule.timer.deadlineMs = true) →
        (tickVisit around tickMs plant rule).1 = plant) := by
  constructor
  · rintro ⟨active, reached⟩
    change rule.runtime.timerActive = true at active
    change
      automationTimeReached tickMs rule.runtime.deadlineMs = true at reached
    rw [tickVisit, active, reached, if_neg (by decide),
      if_neg (by decide)]
    rcases AutomationNode.delays_cases delays with
      ⟨isOn, rfl⟩ | ⟨isOff, rfl⟩
    · rw [isOn, condition]
      exact ⟨_, rfl, rfl⟩
    · rw [isOff, condition]
      exact ⟨_, rfl, rfl⟩
  · intro pending
    rw [tickVisit]
    split
    · rfl
    · next running =>
        split
        · rfl
        · next reached =>
            rw [Bool.not_eq_true, Bool.not_eq_false'] at running reached
            exact absurd ⟨running, reached⟩ pending

end

theorem automationApplyOutput_output
    {around : Surroundings} {plant : Plant} {rule : AutomationRule}
    (valid : automationRuleIsValid rule.node = true)
    (isLocal :
      clusterIoIsLocal around.clusterIo rule.node.output.toUInt32 = true)
    (admits : Admits plant.failsafe rule.node.output)
    (conditionTrue : Bool) :
    (automationApplyOutput around conditionTrue plant
        rule).1.store.intValues rule.node.output =
      rule.node.applied conditionTrue := by
  have validId : StateValidId rule.node.output :=
    outputProfile_validId (automationRuleIsValid_parts valid).2.1
  have written :=
    automationDispatchOutput_admitted isLocal admits
      (AutomationNode.applied_valid valid conditionTrue)
      (.apply conditionTrue)
  refine
    (congrArg (fun store => store.intValues rule.node.output)
      written).trans ?_
  exact stateSetInt_same _ validId _

/-- The rule dispatches a condition to its output. -/
def Turns (dispatches : List Dispatch) (node : AutomationNode)
    (conditionTrue : Bool) : Prop :=
  ∃ dispatch ∈ dispatches,
    dispatch.node = node ∧ dispatch.purpose = .apply conditionTrue

theorem turns_iff
    {dispatches : List Dispatch} {node : AutomationNode}
    {conditionTrue : Bool} :
    Turns dispatches node conditionTrue ↔
      ∃ dispatch ∈ dispatches.filter fun dispatch => dispatch.node = node,
        dispatch.purpose = .apply conditionTrue := by
  simp only [Turns, List.mem_filter, decide_eq_true_eq, and_assoc]

/-- What a tick makes of the output and of the dispatches of a delayed rule is
what its visit makes of them. -/
theorem Delays.ticked
    {watch : Watch} {node : AutomationNode} {starts : Bool}
    (delayed : Delays watch node starts) {rule : AutomationRule}
    (isRule : watch.rule? = some rule) (around : Surroundings) :
    ∃ plant : Plant,
      rule.node = node ∧
        (Admits plant.failsafe rule.node.output ↔
          Admits watch.runtime.failsafe rule.node.output) ∧
        (plant.dispatches.filter fun dispatch =>
            dispatch.node = rule.node) = [] ∧
        ((watch.observe (.tick around)).2.filter fun dispatch =>
            dispatch.node = rule.node) =
          ((tickVisit around watch.runtime.advance.automation.tickMs plant
            rule).1.dispatches.filter fun dispatch =>
              dispatch.node = rule.node) ∧
        (watch.observe (.tick around)).1.runtime.store.intValues
            rule.node.output =
          (tickVisit around watch.runtime.advance.automation.tickMs plant
            rule).1.store.intValues rule.node.output := by
  obtain ⟨isNode, place, _, held⟩ := delayed.place isRule
  obtain ⟨plant, _, _, before, after⟩ :=
    watch.runtime.advance.sweep_share
      (tickVisit_anyEffect around watch.runtime.advance.automation.tickMs)
      held (delayed.sole held isNode)
  refine ⟨plant, isNode, ?_, ?_, ?_, ?_⟩
  · exact admits_congr (congrArg (fun part => part.2.1) before)
  · exact congrArg (fun part => part.2.2) before
  · exact congrArg (fun part => part.2.2) after
  · exact congrArg Prod.fst after

/-- The delay of a rule is pending since a tick. -/
structure Waits (start : UInt32) (node : AutomationNode) (starts : Bool)
    (passed : Nat) (watch : Watch) : Prop where
  timer : TimerAt start node.durationMs passed watch
  condition :
    ∃ rule, watch.rule? = some rule ∧ rule.runtime.condition = starts

section

variable {watch : Watch} {node : AutomationNode} {starts : Bool}
    (delayed : Delays watch node starts) {start : UInt32} {passed : Nat}
    (waits : Waits start node starts passed watch)

include delayed waits

theorem Waits.tick (around : Surroundings) :
    Waits start node starts (passed + 1)
      (watch.observe (.tick around)).1 := by
  refine ⟨waits.timer.tick around, ?_⟩
  obtain ⟨rule, isRule, condition⟩ := waits.condition
  obtain ⟨_, place, isPlace, held⟩ := delayed.place isRule
  have advanced :
      watch.runtime.advance.automation.rules[place]? = some rule := held
  obtain ⟨plant, left⟩ :=
    Runtime.sweep_rule watch.runtime.advance
      (tickVisit around watch.runtime.advance.automation.tickMs) advanced
  have isLeft :
      (watch.observe (.tick around)).1.rule? =
        some
          (tickVisit around watch.runtime.advance.automation.tickMs plant
            rule).2 := by
    unfold Watch.rule?
    rw [watch.observe_place (.tick around), isPlace]
    exact left
  exact ⟨_, isLeft, (tickVisit_condition around _).trans condition⟩

omit delayed in
theorem Waits.due_iff
    {rule : AutomationRule} (isRule : watch.rule? = some rule)
    (pending : passed < node.durationMs.toNat) :
    rule.timer.active = true ∧
        automationTimeReached watch.runtime.advance.automation.tickMs
          rule.timer.deadlineMs = true ↔
      passed + 1 = node.durationMs.toNat := by
  have timer :
      rule.timer =
        { active := true
          deadlineMs := automationDeadlineAfter start node.durationMs } := by
    have present := waits.timer.timer
    unfold Watch.timer? at present
    rw [isRule, Option.map_some, Option.some_inj,
      decide_eq_true pending] at present
    exact present
  have next :
      watch.runtime.advance.automation.tickMs =
        start + UInt32.ofNat (passed + 1) := by
    change watch.runtime.automation.tickMs + 1 = _
    rw [waits.timer.tickMs, UInt32.ofNat_add, ← UInt32.add_assoc]
    rfl
  rw [timer, next]
  exact
    (and_iff_right rfl).trans
      (automationTimeReached_iff start node.durationMs pending)

theorem Waits.ticked
    (pending : passed < node.durationMs.toNat) (around : Surroundings) :
    (passed + 1 = node.durationMs.toNat →
      Turns (watch.observe (.tick around)).2 node starts ∧
        (clusterIoIsLocal around.clusterIo node.output.toUInt32 = true →
          Admits watch.runtime.failsafe node.output →
            (watch.observe (.tick around)).1.runtime.store.intValues
                node.output =
              node.applied starts)) ∧
      (passed + 1 ≠ node.durationMs.toNat →
        ¬ Turns (watch.observe (.tick around)).2 node starts) := by
  obtain ⟨rule, isRule, condition⟩ := waits.condition
  have due := waits.due_iff isRule pending
  obtain ⟨plant, isNode, admitted, none, dispatches, output⟩ :=
    delayed.ticked isRule around
  have valid := delayed.valid
  have delays := delayed.delays
  subst isNode
  obtain ⟨acts, idle⟩ :=
    @tickVisit_delay_plant around plant rule starts delays condition
      watch.runtime.advance.automation.tickMs
  rw [turns_iff, dispatches]
  constructor
  · intro complete
    obtain ⟨changed, sameNode, applied⟩ := acts (due.mpr complete)
    constructor
    · rw [applied, automationApplyOutput,
        automationDispatchOutput_dispatches, List.filter_append, none,
        List.nil_append, sameNode, List.filter_cons_of_pos (by simp)]
      exact ⟨_, List.mem_cons_self .., rfl⟩
    · intro isLocal admits
      rw [← admitted] at admits
      rw [output, applied]
      rw [← sameNode] at isLocal admits valid ⊢
      exact automationApplyOutput_output valid isLocal admits starts
  · intro incomplete
    rw [idle (due.not.mpr incomplete), none]
    rintro ⟨_, member, _⟩
    cases member

end

/-! ## Runs -/

/-- Every event that repeats the condition goes unnoticed. -/
def RepeatsUnnoticed (watch : Watch) (stimulus : Stimulus) : Prop :=
  ∀ around event rule,
    stimulus = .event around event → watch.rule? = some rule →
      RepeatsCondition around event rule →
        Unnoticed watch (watch.observe stimulus).1 rule

/-- The event changes the condition into the one that starts the delay. -/
structure Edge (node : AutomationNode) (starts : Bool) (watch : Watch)
    (around : Surroundings) (event : EndapEvent) : Prop where
  change : event.ChangeOf node.input
  before : ∃ rule, watch.rule? = some rule ∧ rule.runtime.condition ≠ starts
  after : conditionHolds around event node = starts

/-- The events of the input find the condition that started the delay. -/
def HoldsCondition (node : AutomationNode) (starts : Bool)
    (stimulus : Stimulus) : Prop :=
  ∀ around event,
    stimulus = .event around event → event.ChangeOf node.input →
      conditionHolds around event node = starts

/-- The number of ticks among some stimuli. -/
def ticksOf (stimuli : List Stimulus) : Nat :=
  ticks (stimuli.map Stimulus.call)

section

variable {watch : Watch} {node : AutomationNode} {starts : Bool}
    (delayed : Delays watch node starts)

include delayed

theorem Edge.waits
    {around : Surroundings} {event : EndapEvent}
    (edge : Edge node starts watch around event)
    (permits : watch.Permits (.event around event))
    (positive : 0 < node.durationMs.toNat) :
    Waits watch.runtime.automation.tickMs node starts 0
      (watch.observe (.event around event)).1 := by
  obtain ⟨change, ⟨rule, isRule, _⟩, after⟩ := edge
  obtain ⟨isNode, _⟩ := delayed.place isRule
  subst isNode
  obtain ⟨left, isLeft, condition, timer⟩ :=
    delayed.triggered_timer permits isRule change
  rw [if_pos after] at timer
  refine ⟨⟨?_, ?_⟩, left, isLeft, condition.trans after⟩
  · have tickMs := watch.runtime.call_tickMs (.event around event)
    exact tickMs.trans (UInt32.add_zero _).symm
  · unfold Watch.timer?
    rw [isLeft, Option.map_some, timer, armedAt, decide_eq_true positive]

theorem Waits.event
    {start : UInt32} {passed : Nat}
    (waits : Waits start node starts passed watch)
    (pending : passed < node.durationMs.toNat)
    {around : Surroundings} {event : EndapEvent}
    (permits : watch.Permits (.event around event))
    (unnoticed : RepeatsUnnoticed watch (.event around event))
    (holds : HoldsCondition node starts (.event around event)) :
    Waits start node starts passed
      (watch.observe (.event around event)).1 := by
  obtain ⟨rule, isRule, condition⟩ := waits.condition
  obtain ⟨isNode, _⟩ := delayed.place isRule
  subst isNode
  have tickMs :
      (watch.observe (.event around event)).1.runtime.automation.tickMs =
        start + UInt32.ofNat passed :=
    (watch.runtime.call_tickMs (.event around event)).trans
      waits.timer.tickMs
  have timer : watch.timer? = some rule.timer := by
    unfold Watch.timer?
    rw [isRule]
    rfl
  by_cases change : event.ChangeOf rule.node.input
  · have now := holds around event rfl change
    obtain ⟨left, isLeft, after, _⟩ :=
      delayed.triggered_timer permits isRule change
    have active : rule.timer.active = true := by
      have present := waits.timer.timer
      rw [timer, Option.some_inj] at present
      rw [present]
      exact decide_eq_true pending
    have kept :=
      (unnoticed around event rule rfl isRule
        ⟨change, now.trans condition.symm⟩).pending active
    exact
      ⟨⟨tickMs, kept.trans (timer.symm.trans waits.timer.timer)⟩, left,
        isLeft, after.trans now⟩
  · have same := delayed.ignored permits isRule change
    have sameTimer :
        (watch.observe (.event around event)).1.timer? = watch.timer? := by
      unfold Watch.timer?
      rw [same, isRule]
    exact
      ⟨⟨tickMs, sameTimer.trans waits.timer.timer⟩, rule, same,
        condition⟩

theorem Waits.run
    {start : UInt32} (waits : Waits start node starts 0 watch)
    {stimuli : List Stimulus}
    (pending : ticksOf stimuli < node.durationMs.toNat)
    (permitted :
      ∀ made ∈ history Watch.observe watch stimuli,
        made.before.Permits made.action)
    (unnoticed :
      ∀ made ∈ history Watch.observe watch stimuli,
        RepeatsUnnoticed made.before made.action)
    (holds : ∀ stimulus ∈ stimuli, HoldsCondition node starts stimulus) :
    Waits start node starts (ticksOf stimuli)
      (final Watch.observe watch stimuli) := by
  induction stimuli using List.reverseRecOn with
  | nil => exact waits
  | append_singleton earlier last induction =>
      have counted :
          ticksOf (earlier ++ [last]) = ticksOf earlier + ticks [last.call] := by
        unfold ticksOf
        rw [List.map_append]
        exact List.countP_append
      rw [counted] at pending ⊢
      rw [history_snoc] at permitted unnoticed
      have before :=
        induction (by omega)
          (fun made member =>
            permitted made (List.mem_append_left _ member))
          (fun made member =>
            unnoticed made (List.mem_append_left _ member))
          (fun stimulus member =>
            holds stimulus (List.mem_append_left _ member))
      have still := delayed.final earlier
      have isLast :
          Run.call Watch.observe (final Watch.observe watch earlier) last ∈
            history Watch.observe watch earlier ++
              [Run.call Watch.observe (final Watch.observe watch earlier)
                last] :=
        List.mem_append_right _ (List.mem_singleton_self _)
      rw [final_snoc]
      cases last with
      | tick around => exact before.tick still around
      | event around event =>
          exact
            before.event still (by omega) (permitted _ isLast)
              (unnoticed _ isLast)
              (holds _ (List.mem_append_right _ (List.mem_singleton_self _)))

end

theorem Delays.positive
    {watch : Watch} {node : AutomationNode} {starts : Bool}
    (delayed : Delays watch node starts) :
    0 < node.durationMs.toNat := by
  have timed := (AutomationNode.delays_mode delayed.delays).2
  have valid := delayed.valid
  rw [automationRuleIsValid, Bool.and_eq_true, if_pos timed,
    decide_eq_true_eq] at valid
  exact valid.2

def sample (value : Int32) : Stimulus :=
  .event standalone { type := .stateChange, source := 10, data := value }

end Endap.Automation
