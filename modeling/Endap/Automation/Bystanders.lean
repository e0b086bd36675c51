import Endap.Automation.Guard

/-!
# Rules beside a new one

Adding a rule replays the present value of its input as one ordinary event of
that input, and the event is for every rule.  A rule that was there for the
same input acts on it as on any other event: it may not have seen the value
yet, its interlock may have forbidden it to act before, or another hand may
have moved its output.  The continuous guard asks for every interlock that
watches the input.

The main theorem says which outputs the replay does not reach, and which rules
keep their runtime record.
-/

namespace Endap.Automation

open Endap.Cluster
open Endap.Failsafe
open Endap.Library
open Endap.State

/-! ## What a replay concerns -/

/-- The event that a new rule replays. -/
def presentEvent (store : StateStore) (input : UInt16) : EndapEvent where
  type := .stateChange
  source := input
  data := store.intValues input

theorem presentEvent_of_get
    {store : StateStore} {input : UInt16} {current : Int32}
    (isCurrent : stateGetInt store input = some current) :
    presentEvent store input =
      { type := .stateChange, source := input, data := current } := by
  rw [stateGetInt] at isCurrent
  split at isCurrent
  · rw [presentEvent, Option.some.inj isCurrent]
  · cases isCurrent

/-- Without a rising edge the switch over the modes leaves this record. -/
def ModeSettled :
    Option AutomationMode → AutomationRuntime → Prop
  | some .follow, runtime =>
      runtime.timerActive = false ∧ runtime.pulseActive = false ∧
      runtime.latchedTrue = runtime.condition
  | some .onDelayMs, runtime =>
      runtime.condition = false ∧ runtime.timerActive = false ∧
      runtime.latchedTrue = false
  | some .offDelayMs, runtime =>
      runtime.condition = true ∧ runtime.timerActive = false ∧
      runtime.latchedTrue = true
  | _, _ => True

instance :
    (mode : Option AutomationMode) → (runtime : AutomationRuntime) →
    Decidable (ModeSettled mode runtime)
  | some .follow, _ => inferInstanceAs (Decidable (_ ∧ _ ∧ _))
  | some .onDelayMs, _ => inferInstanceAs (Decidable (_ ∧ _ ∧ _))
  | some .offDelayMs, _ => inferInstanceAs (Decidable (_ ∧ _ ∧ _))
  | some .pulseMs, _ => isTrue trivial
  | some .toggle, _ => isTrue trivial
  | some .forceOn, _ => isTrue trivial
  | some .forceOff, _ => isTrue trivial
  | none, _ => isTrue trivial

section

variable (around : Surroundings) (event : EndapEvent) (before : Plant)

/-- The condition of the rule holds, and its interlock forbids it to act. -/
def Forbidden (rule : AutomationRule) : Prop :=
  conditionHolds around event rule.node = true ∧
  automationEvalInterlock before.store rule.interlock = false

/-- On an event of its input the rule commands its local output, which
fail-safe admits, to a value that the output does not have. -/
def MovesOutput (rule : AutomationRule) : Prop :=
  rule.node.input = event.source ∧
  ∃ value,
    modeAction before.store rule.node
        (conditionHolds around event rule.node)
        (conditionHolds around event rule.node &&
          !rule.runtime.condition) = some value ∧
    clusterIoIsLocal around.clusterIo rule.node.output.toUInt32 = true ∧
    Admits before.failsafe rule.node.output ∧
    before.store.intValues rule.node.output ≠ failsafeBinaryValue value

/-- The continuous guard asks for the interlock of the rule. -/
def GuardAsks (rule : AutomationRule) : Prop :=
  rule.interlock.enabled ≠ 0 ∧ rule.interlock.condCount ≠ 0 ∧
  rule.interlock.watches event.source = true

/-- The output is on without the permission of the interlock. -/
def OnUnpermitted (rule : AutomationRule) : Prop :=
  stateValue before.store rule.node.output ≠ 0 ∧
  automationEvalInterlock before.store rule.interlock = false

variable (candidate : AutomationNode) (rules : List AutomationRule)

/--
What a replay for a new rule may change: the output of the new rule; an output
that a rule for the same input is allowed to move; an output that is on
without permission when the guard asks; and the output of such a rule when the
replay may change a channel of its interlock.
-/
inductive Reached : UInt16 → Prop
  | new : Reached candidate.output
  | moved (rule : AutomationRule) (member : rule ∈ rules)
      (moves : MovesOutput around event before rule)
      (allowed : ¬ Forbidden around event before rule) :
      Reached rule.node.output
  | guarded (rule : AutomationRule) (member : rule ∈ rules)
      (asked : GuardAsks event rule) (lost : OnUnpermitted before rule) :
      Reached rule.node.output
  | permission (rule : AutomationRule) (member : rule ∈ rules)
      (concerned : MovesOutput around event before rule ∨ GuardAsks event rule)
      (channel : UInt16) (watched : rule.interlock.watches channel = true)
      (reached : Reached channel) :
      Reached rule.node.output

/-- The trigger loop leaves the runtime record of the rule: it has another
input, its record is the one that the present value leads to, or its condition
was known to hold and the interlock still forbids it to act. -/
inductive KeepsRecord (rule : AutomationRule) : Prop
  | otherInput (other : rule.node.input ≠ event.source)
  | settled
      (condition :
        rule.runtime.condition = conditionHolds around event rule.node)
      (mode : ModeSettled (AutomationMode.ofCode rule.node.mode) rule.runtime)
  | forbidden (condition : rule.runtime.condition = true)
      (forbidden : Forbidden around event before rule)
      (unreached :
        ∀ channel, rule.interlock.watches channel = true →
        ¬ Reached around event before candidate rules channel)

/-- Neither loop of the handler touches the runtime record of the rule. -/
structure Bystander (rule : AutomationRule) : Prop where
  trigger : KeepsRecord around event before candidate rules rule
  guard :
    GuardAsks event rule →
    ¬ Reached around event before candidate rules rule.node.output

/-- In the middle of a replay what is not reached is as it was. -/
structure Beside (plant : Plant) : Prop where
  values :
    ∀ id, ¬ Reached around event before candidate rules id →
    plant.store.intValues id = before.store.intValues id
  admits : ∀ id, Admits plant.failsafe id ↔ Admits before.failsafe id

end

/-! ## One dispatch -/

/-- A command leaves the state table if it is not written, or if the output
has the value. -/
theorem automationDispatchOutput_unmoved
    {around : Surroundings} {plant : Plant} {rule : AutomationRule}
    {value : Int32}
    (unmoved :
      clusterIoIsLocal around.clusterIo rule.node.output.toUInt32 = true →
      Admits plant.failsafe rule.node.output →
      plant.store.intValues rule.node.output = failsafeBinaryValue value)
    (purpose : Purpose) :
    (automationDispatchOutput around purpose value plant rule).1.store =
      plant.store := by
  by_cases isLocal :
      clusterIoIsLocal around.clusterIo rule.node.output.toUInt32 = true
  · by_cases admits : Admits plant.failsafe rule.node.output
    · rw [automationDispatchOutput_written isLocal admits]
      exact stateSetInt_unchanged _ (unmoved isLocal admits)
    · exact automationDispatchOutput_refused isLocal admits value purpose
  · exact automationDispatchOutput_remote isLocal purpose value plant

theorem Commands.unmoved
    {around : Surroundings} {plant after : Plant} {rule : AutomationRule}
    {action : Option Int32}
    (commands : Commands around plant rule action after)
    (unmoved :
      ∀ value, action = some value →
      clusterIoIsLocal around.clusterIo rule.node.output.toUInt32 =
          true →
        Admits plant.failsafe rule.node.output →
        plant.store.intValues rule.node.output = failsafeBinaryValue value) :
    after.store = plant.store := by
  cases commands with
  | nothing => rfl
  | value purpose value changed sameNode =>
      apply automationDispatchOutput_unmoved
      rw [sameNode]
      exact unmoved value rfl

theorem modeAction_congr
    {first second : StateStore} {node : AutomationNode}
    (same :
      first.intValues node.output = second.intValues node.output)
    (conditionNow risingEdge : Bool) :
    modeAction first node conditionNow risingEdge =
      modeAction second node conditionNow risingEdge := by
  unfold modeAction
  rw [stateValue_congr same]

/-! ## One visit -/

section

variable
    {around : Surroundings} {event : EndapEvent} {before plant : Plant}
    {candidate : AutomationNode} {rules : List AutomationRule}

theorem Beside.commanded
    {output : UInt16} {after : Plant}
    (beside : Beside around event before candidate rules plant)
    (commanded : Commanded output plant after)
    (reached : Reached around event before candidate rules output) :
    Beside around event before candidate rules after where
  values id unreached := by
    refine (commanded.elsewhere ?_).trans (beside.values id unreached)
    rintro rfl
    exact unreached reached
  admits id := (commanded.admits_iff id).trans (beside.admits id)

theorem Beside.sameStore
    {output : UInt16} {after : Plant}
    (beside : Beside around event before candidate rules plant)
    (commanded : Commanded output plant after)
    (same : after.store = plant.store) :
    Beside around event before candidate rules after where
  values id unreached := by
    rw [same]
    exact beside.values id unreached
  admits id := (commanded.admits_iff id).trans (beside.admits id)

theorem Beside.permission
    (beside : Beside around event before candidate rules plant)
    {interlock : AutomationInterlock}
    (unreached :
      ∀ channel, interlock.watches channel = true →
      ¬ Reached around event before candidate rules channel) :
    automationEvalInterlock plant.store interlock =
      automationEvalInterlock before.store interlock := by
  apply automationEvalInterlock_congr
  intro channel watched
  exact beside.values channel (unreached channel watched)

variable {rule : AutomationRule}

theorem triggerVisit_unreached
    (beside : Beside around event before candidate rules plant)
    (member : rule ∈ rules)
    (unreached : ¬ Reached around event before candidate rules rule.node.output)
    (tickMs : UInt32) :
    (triggerVisit around tickMs event plant rule).1.store =
      plant.store := by
  refine (triggerVisit_commands tickMs event).unmoved ?_
  intro value commanded isLocal admits
  have output := beside.values _ unreached
  rw [triggerAction] at commanded
  split at commanded
  · cases commanded
  · next isInput =>
      split at commanded
      · cases commanded
      · next notBlocked =>
          rw [modeAction_congr output] at commanded
          by_contra different
          rw [output] at different
          have moves : MovesOutput around event before rule :=
            ⟨not_not.mp isInput, value, commanded, isLocal,
              (beside.admits _).mp admits, different⟩
          have permission :=
            beside.permission fun channel watched reached =>
              unreached
                (.permission rule member (.inl moves) channel watched reached)
          rw [permission] at notBlocked
          exact unreached (.moved rule member moves notBlocked)

theorem triggerVisit_beside
    (beside : Beside around event before candidate rules plant)
    (member : rule ∈ rules ++ [AutomationRule.fresh candidate])
    (tickMs : UInt32) :
    Beside around event before candidate rules
      (triggerVisit around tickMs event plant rule).1 := by
  have commanded :=
    (triggerVisit_anyEffect around tickMs event plant rule).commanded
  by_cases reached :
      Reached around event before candidate rules rule.node.output
  · exact beside.commanded commanded reached
  · rcases List.mem_append.mp member with old | isNew
    · exact
        beside.sameStore commanded
          (triggerVisit_unreached beside old reached tickMs)
    · rw [List.mem_singleton.mp isNew] at reached
      exact absurd .new reached

theorem guardVisit_unasked
    (unasked : ¬ GuardAsks event rule)
    (around : Surroundings) (plant : Plant) :
    guardVisit around event plant rule = (plant, rule) := by
  rw [guardVisit]
  split
  · rfl
  · next inForce =>
      rcases not_or.mp inForce with ⟨enabled, conditions⟩
      rw [if_neg]
      intro lost
      simp only [Bool.and_eq_true] at lost
      exact unasked ⟨enabled, conditions, lost.1.1⟩

theorem guardVisit_unreached
    (beside : Beside around event before candidate rules plant)
    {visited : AutomationRule} (member : rule ∈ rules)
    (same : visited.config = rule.config)
    (unreached :
      ¬ Reached around event before candidate rules rule.node.output) :
    guardVisit around event plant visited = (plant, visited) := by
  have sameNode : visited.node = rule.node := congrArg Prod.fst same
  have sameInterlock : visited.interlock = rule.interlock :=
    congrArg Prod.snd same
  by_cases asks : GuardAsks event visited
  · rw [guardVisit, if_neg (not_or.mpr ⟨asks.1, asks.2.1⟩), if_neg]
    intro lost
    simp only [Bool.and_eq_true, decide_eq_true_eq, Bool.not_eq_true'] at lost
    have asked : GuardAsks event rule := by
      rw [GuardAsks, ← sameInterlock]
      exact asks
    have permission :=
      beside.permission fun channel watched reached =>
        unreached (.permission rule member (.inr asked) channel watched reached)
    refine unreached (.guarded rule member asked ⟨?_, ?_⟩)
    · rw [← stateValue_congr (beside.values _ unreached), ← sameNode]
      exact lost.1.2
    · rw [← permission, ← sameInterlock]
      exact lost.2
  · exact guardVisit_unasked asks around plant

theorem guardVisit_beside
    (beside : Beside around event before candidate rules plant)
    {visited : AutomationRule}
    (member : rule ∈ rules ++ [AutomationRule.fresh candidate])
    (same : visited.config = rule.config) :
    Beside around event before candidate rules
      (guardVisit around event plant visited).1 := by
  have commanded := (guardVisit_anyEffect around event plant visited).commanded
  have sameNode : visited.node = rule.node := congrArg Prod.fst same
  rw [sameNode] at commanded
  by_cases reached :
      Reached around event before candidate rules rule.node.output
  · exact beside.commanded commanded reached
  · rcases List.mem_append.mp member with old | isNew
    · rw [guardVisit_unreached beside old same reached]
      exact beside
    · rw [List.mem_singleton.mp isNew] at reached
      exact absurd .new reached

/-! ## The record of one rule -/

theorem triggerMode_settled
    (settled : ModeSettled (AutomationMode.ofCode rule.node.mode) rule.runtime)
    (around : Surroundings) (tickMs : UInt32) (plant : Plant) :
    (triggerMode around tickMs rule.runtime.condition false plant
      rule).2.runtime = rule.runtime := by
  rcases rule with ⟨node, interlock, runtime, diag⟩
  rcases runtime with ⟨condition, timer, pulse, latched, deadline⟩
  rw [triggerMode]
  dsimp only at settled ⊢
  cases mode : AutomationMode.ofCode node.mode with
  | none => rfl
  | some kind =>
      rw [mode] at settled
      cases kind with
      | follow =>
          rcases settled with ⟨rfl, rfl, agrees⟩
          have isLatched : latched = condition := agrees
          subst isLatched
          rfl
      | onDelayMs =>
          rcases settled with ⟨rfl, rfl, rfl⟩
          rfl
      | offDelayMs =>
          rcases settled with ⟨rfl, rfl, rfl⟩
          rfl
      | _ => rfl

theorem triggerVisit_record
    (beside : Beside around event before candidate rules plant)
    (keeps : KeepsRecord around event before candidate rules rule)
    (tickMs : UInt32) :
    (triggerVisit around tickMs event plant rule).2.runtime =
      rule.runtime := by
  cases keeps with
  | otherInput other => rw [triggerVisit, if_pos other]
  | settled condition mode =>
      unfold conditionHolds at condition
      rw [triggerVisit]
      split
      · rfl
      · dsimp only
        rw [← condition, Bool.and_not_self]
        split
        · rfl
        · exact
            @triggerMode_settled
              (rule.evaluated rule.runtime.condition around.nowMs) mode
              around tickMs plant
  | forbidden condition forbidden unreached =>
      rcases forbidden with ⟨holds, forbids⟩
      rw [← beside.permission unreached] at forbids
      unfold conditionHolds at holds
      rw [triggerVisit]
      split
      · rfl
      · dsimp only
        rw [holds, forbids, if_pos (by rfl)]
        show { rule.runtime with condition := true } = rule.runtime
        rw [← condition]

end

/-! ## The whole event -/

section

variable
    {around : Surroundings} {event : EndapEvent} {before : Plant}
    {candidate : AutomationNode} {rules : List AutomationRule}
    {stored : Runtime}

theorem triggered_origin
    {visited : AutomationRule}
    (member : visited ∈ (triggered around event stored).automation.rules) :
    ∃ rule ∈ stored.automation.rules, visited.config = rule.config := by
  have config :
      visited.config ∈ (triggered around event stored).automation.configs :=
    List.mem_map_of_mem member
  rw [triggered_configs] at config
  rcases List.mem_map.mp config with ⟨rule, isRule, same⟩
  exact ⟨rule, isRule, same.symm⟩

theorem beside_start (starts : stored.plant = before) :
    Beside around event before candidate rules stored.plant where
  values id _ := by rw [starts]
  admits id := by rw [starts]

section

variable
    (stores :
      stored.automation.rules = rules ++ [AutomationRule.fresh candidate])

include stores

theorem triggerSweep_kept (state : Plant) (visited : AutomationRule)
    (member : visited ∈ stored.automation.rules)
    (beside : Beside around event before candidate rules state) :
    Beside around event before candidate rules
      (triggerVisit around stored.automation.tickMs event state
        visited).1 := by
  rw [stores] at member
  exact triggerVisit_beside beside member _

theorem guardSweep_kept (state : Plant) (visited : AutomationRule)
    (member : visited ∈ (triggered around event stored).automation.rules)
    (beside : Beside around event before candidate rules state) :
    Beside around event before candidate rules
      (guardVisit around event state visited).1 := by
  rcases triggered_origin member with ⟨rule, isRule, same⟩
  rw [stores] at isRule
  exact guardVisit_beside beside isRule same

variable (starts : stored.plant = before)

include starts

theorem triggered_beside :
    Beside around event before candidate rules
      (triggered around event stored).plant := by
  have swept :
      Beside around event before candidate rules
        (Sweep.run
          (triggerVisit around stored.automation.tickMs event)
          stored.plant stored.automation.rules).1 :=
    Sweep.run_invariant_of_mem
      (Beside around event before candidate rules)
      (triggerSweep_kept stores) (beside_start starts)
  exact ⟨swept.values, swept.admits⟩

theorem automationEventHandler_unreached
    (change : event.type = .stateChange) {id : UInt16}
    (unreached : ¬ Reached around event before candidate rules id) :
    (automationEventHandler around event stored).1.store.intValues id =
      before.store.intValues id := by
  have swept :=
    Sweep.run_invariant_of_mem
      (Beside around event before candidate rules)
      (guardSweep_kept stores) (triggered_beside stores starts)
  rw [automationEventHandler, if_neg (not_not.mpr change)]
  exact swept.values id unreached

theorem triggered_bystander
    {index : Nat} {rule : AutomationRule}
    (held : rules[index]? = some rule)
    (bystander : Bystander around event before candidate rules rule) :
    ∃ visited,
      (triggered around event stored).automation.rules[index]? = some visited ∧
      visited.config = rule.config ∧
      visited.runtime = rule.runtime := by
  have inside := (List.getElem?_eq_some_iff.mp held).1
  have isStored : stored.automation.rules[index]? = some rule := by
    rw [stores, List.getElem?_append_left inside]
    exact held
  rcases
    @Sweep.run_getElem? _ _
      (triggerVisit around stored.automation.tickMs event) _ index rule
      isStored stored.plant with
    ⟨found, isFound, left⟩
  have beside : Beside around event before candidate rules found :=
    Sweep.visits_invariant_of_mem
      (Beside around event before candidate rules)
      (triggerSweep_kept stores) (beside_start starts)
      (List.mem_of_getElem? isFound)
  exact
    ⟨_, left, triggerVisit_config around found rule _ event,
      triggerVisit_record beside bystander.trigger _⟩

theorem automationEventHandler_bystander
    (change : event.type = .stateChange) {index : Nat}
    {rule : AutomationRule} (held : rules[index]? = some rule)
    (bystander : Bystander around event before candidate rules rule) :
    ∃ kept,
      (automationEventHandler around event
          stored).1.automation.rules[index]? = some kept ∧
      kept.config = rule.config ∧ kept.runtime = rule.runtime := by
  rcases triggered_bystander stores starts held bystander with
    ⟨visited, left, config, record⟩
  rcases
    @Sweep.run_getElem? _ _ (guardVisit around event) _ index visited left
      (triggered around event stored).plant with
    ⟨later, isLater, kept⟩
  have beside : Beside around event before candidate rules later :=
    Sweep.visits_invariant_of_mem
      (Beside around event before candidate rules)
      (guardSweep_kept stores) (triggered_beside stores starts)
      (List.mem_of_getElem? isLater)
  have idle : guardVisit around event later visited = (later, visited) := by
    by_cases asks : GuardAsks event rule
    · exact
        guardVisit_unreached beside (List.mem_of_getElem? held) config
          (bystander.guard asks)
    · have sameInterlock : visited.interlock = rule.interlock :=
        congrArg Prod.snd config
      rw [GuardAsks, ← sameInterlock] at asks
      exact guardVisit_unasked asks around later
  rw [idle] at kept
  refine ⟨visited, ?_, config, record⟩
  rw [automationEventHandler, if_neg (not_not.mpr change)]
  exact kept

end

end

/-! ## Adding a rule -/

theorem findClash_ne_ok (candidate : AutomationNode)
    (rules : List AutomationRule) :
    findClash candidate rules ≠ some .ok := by
  induction rules with
  | nil =>
      intro same
      cases same
  | cons rule rest induction =>
      rw [findClash]
      split
      · intro same
        cases same
      · split
        · intro same
          cases same
        · exact induction

/-- A rule that is added is stored behind the others, and one event at most is
handled for it. -/
theorem automationEngineAddRule_ok
    {around : Surroundings} {request : RuleRequest} {outcome : NvsOutcome}
    {runtime : Runtime}
    (added :
      (automationEngineAddRule around request outcome runtime).result = .ok) :
    ∃ stored : Runtime,
      stored.plant = runtime.plant ∧
      stored.automation.rules =
          runtime.automation.rules ++ [AutomationRule.fresh request.candidate] ∧
      ((automationEngineAddRule around request outcome
            runtime).runtime = stored ∨
        (automationEngineAddRule around request outcome runtime).runtime =
          (automationEventHandler around
            (presentEvent runtime.store request.candidate.input)
            stored).1) := by
  have ends := automationEngineAddRule_ends around request outcome runtime
  generalize automationEngineAddRule around request outcome runtime = made
    at ends added
  cases ends with
  | clash _ clashes =>
      cases added
      exact absurd clashes (findClash_ne_ok _ _)
  | stored _ _ room =>
      exact ⟨runtime.storing request.candidate room outcome, rfl, rfl, .inl rfl⟩
  | replayed _ _ room isCurrent =>
      rw [presentEvent_of_get isCurrent]
      exact ⟨runtime.storing request.candidate room outcome, rfl, rfl, .inr rfl⟩
  | _ => cases added

/--
Adding a rule stores it behind the others and handles one ordinary event of
its input at most.  Every state value that the event does not reach stays, and
so does the runtime record of every rule that is a bystander of the event.
-/
theorem added_rule_bystanders
    {around : Surroundings} {request : RuleRequest} {outcome : NvsOutcome}
    {runtime : Runtime}
    (added :
      (automationEngineAddRule around request outcome runtime).result = .ok) :
    let after :=
      (automationEngineAddRule around request outcome runtime).runtime
    let event := presentEvent runtime.store request.candidate.input
    (∃ stored : Runtime,
      stored.plant = runtime.plant ∧
      stored.automation.rules =
          runtime.automation.rules ++ [AutomationRule.fresh request.candidate] ∧
      (after = stored ∨
      after = (automationEventHandler around event stored).1)) ∧
      (∀ (index : Nat) (rule : AutomationRule),
        runtime.automation.rules[index]? = some rule →
        Bystander around event runtime.plant request.candidate
            runtime.automation.rules rule →
          ∃ kept,
            after.automation.rules[index]? = some kept ∧
            kept.config = rule.config ∧ kept.runtime = rule.runtime) ∧
        ∀ id,
          ¬ Reached around event runtime.plant request.candidate
              runtime.automation.rules id →
            after.store.intValues id = runtime.store.intValues id := by
  intro after event
  rcases automationEngineAddRule_ok added with
    ⟨stored, plant, stores, outcomes⟩
  refine ⟨⟨stored, plant, stores, outcomes⟩, ?_, ?_⟩
  · intro index rule held bystander
    rcases outcomes with unhandled | handled
    · have inside := (List.getElem?_eq_some_iff.mp held).1
      refine ⟨rule, ?_, rfl, rfl⟩
      rw [show after = stored from unhandled, stores,
        List.getElem?_append_left inside]
      exact held
    · rw [show after = _ from handled]
      exact automationEventHandler_bystander stores plant rfl held bystander
  · intro id unreached
    rcases outcomes with unhandled | handled
    · rw [show after = stored from unhandled]
      exact congrArg (fun plant => plant.store.intValues id) plant
    · rw [show after = _ from handled]
      exact automationEventHandler_unreached stores plant rfl unreached

/-! ## A rule beside another -/

def followedOn : Runtime :=
  (automationEngineAddRule twoOutputs followingRule .committed doorOpen).runtime

/-- The rule that follows its input is not disturbed by one for another
output. -/
theorem followedOn_undisturbed :
    ∃ kept,
      (automationEngineAddRule twoOutputs
          { followingRule with output := 101 } .committed
          followedOn).runtime.automation.rules[0]? = some kept ∧
        kept.config = (followingRule.candidate, .zero) ∧
        kept.runtime.condition = true ∧ kept.runtime.latchedTrue = true :=
  by
  have undisturbed :=
    (@added_rule_bystanders twoOutputs
      { followingRule with output := 101 } .committed followedOn
      (by decide +kernel)).2.1
  have held :
      followedOn.automation.rules[0]? = some followedOn.automation.rules[0] :=
    List.getElem?_eq_getElem (by decide +kernel)
  rcases undisturbed 0 _ held
    { trigger := .settled (by decide +kernel) (by decide +kernel)
      guard := by
        intro asks
        exact absurd (by decide +kernel) asks.1 } with
    ⟨kept, isKept, config, runtime⟩
  refine ⟨kept, isKept, config.trans (by decide +kernel), ?_, ?_⟩
  · rw [runtime]
    decide +kernel
  · rw [runtime]
    decide +kernel

def forceOnRule : RuleRequest :=
  { followingRule with mode := AutomationMode.forceOn.code }

/-- The forcing rule is stored, and then input 10 goes to one; the event of
the change still waits. -/
def changeWaits : Runtime :=
  (Run.final Runtime.call idleRuntime
    [.addRule twoOutputs forceOnRule .committed, .stateWrite 10 1])

/-- A rule for output 101 switches output 100 on and changes the record of the
rule for it. -/
theorem changeWaits_disturbed :
    ¬ ∀ (around : Surroundings) (request : RuleRequest)
        (outcome : NvsOutcome) (runtime : Runtime),
      (automationEngineAddRule around request outcome runtime).result =
          .ok →
        (∀ (index : Nat) (rule : AutomationRule),
          runtime.automation.rules[index]? = some rule →
          ∃ kept : AutomationRule,
            (automationEngineAddRule around request outcome
                runtime).runtime.automation.rules[index]? = some kept ∧
            kept.runtime = rule.runtime) ∧
          ∀ id, id ≠ request.candidate.output →
          (automationEngineAddRule around request outcome
              runtime).runtime.store.intValues id =
            runtime.store.intValues id := by
  intro undisturbed
  have value :=
    (undisturbed twoOutputs { followingRule with output := 101 }
      .committed changeWaits (by decide +kernel)).2 100 (by decide +kernel)
  revert value
  decide +kernel

end Endap.Automation
