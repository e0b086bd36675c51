import Endap.Automation.AddHandler

/-!
# The continuous guard

Behind the trigger loop the handler goes through the rules once more.  Where
the channel that changed belongs to an interlock whose permission is gone, the
output of the rule is to be switched off.  The guard dispatches the value of
the rule for a false condition instead, and that may be one.  It also asks for
each permission only once, so what a later visit takes away comes too late for
an earlier rule.

The main theorem says exactly when the output of a rule without permission is
off after an event, and which rules are always switched off.
-/

namespace Endap.Automation

open Endap.Cluster
open Endap.Failsafe
open Endap.Library
open Endap.State

/-! ## What the guard should do -/

/-- The visit of the guard switches the output off. -/
def SwitchesOff (event : EndapEvent) (output : UInt16)
    (found : Plant × AutomationRule) : Prop :=
  found.2.node.output = output ∧
  guardAction event found.1.store found.2.config = some 0

/-- The guard finds the output off, or some rule for it that has lost its
permission and has zero as its value for a false condition. -/
def GuardedOff (around : Surroundings) (event : EndapEvent)
    (runtime : Runtime) (output : UInt16) : Prop :=
  stateValue (triggered around event runtime).store output = 0 ∨
  ∃ found ∈
      (triggered around event runtime).visits (guardVisit around event),
    SwitchesOff event output found

/-- No rule behind the place drives a channel of the interlock. -/
def UndrivenBehind (rules : List AutomationRule) (place : Nat)
    (interlock : AutomationInterlock) : Prop :=
  ∀ other ∈ rules.drop (place + 1), interlock.watches other.node.output = false

/-- No other rule drives the output of a rule, and none drives a channel of
its interlock. -/
structure Undisturbed (rules : List AutomationRule) (place : Nat)
    (rule : AutomationRule) : Prop where
  valid : StateValidId rule.node.output
  sole : Sole rules place rule.node
  undriven : ∀ other ∈ rules, rule.interlock.watches other.node.output = false

/-- The event makes the rule apply its value for a false condition. -/
def AppliesFalse (around : Surroundings) (event : EndapEvent)
    (node : AutomationNode) : Prop :=
  node.input = event.source ∧
  conditionHolds around event node = false ∧
  (AutomationMode.ofCode node.mode = some .follow ∨
  AutomationMode.ofCode node.mode = some .onDelayMs)

/-! ## Permissions -/

variable {output : UInt16} {interlock : AutomationInterlock}

/-- A command to an output that the interlock does not watch leaves the
permission. -/
theorem Commanded.permission
    {before after : Plant}
    (commanded : Commanded output before after)
    (unwatched : interlock.watches output = false) :
    automationEvalInterlock after.store interlock =
      automationEvalInterlock before.store interlock := by
  apply automationEvalInterlock_congr
  intro channel watched
  apply commanded.elsewhere
  rintro rfl
  rw [watched] at unwatched
  cases unwatched

theorem Runtime.sweep_permission
    {around : Surroundings}
    {visit : Plant → AutomationRule → Plant × AutomationRule}
    (effects :
      ∀ plant rule,
        Effect around plant rule (fun _ => True) (visit plant rule).1)
    {rules : List AutomationRule}
    (undriven : ∀ rule ∈ rules, interlock.watches rule.node.output = false)
    (plant : Plant) :
    automationEvalInterlock (Sweep.run visit plant rules).1.store interlock =
      automationEvalInterlock plant.store interlock := by
  refine
    Sweep.run_invariant_of_mem
      (fun state : Plant =>
        automationEvalInterlock state.store interlock =
          automationEvalInterlock plant.store interlock) ?_ rfl
  intro state rule member same
  rw [← same]
  exact (effects state rule).commanded.permission (undriven rule member)

/-! ## One visit of the guard -/

variable {id : UInt16}

theorem stateValue_congr
    {first second : StateStore}
    (same : first.intValues id = second.intValues id) :
    stateValue first id = stateValue second id := by
  unfold stateValue stateGetInt
  rw [same]

theorem stateValue_valid
    (store : StateStore) (valid : StateValidId id) :
    stateValue store id = store.intValues id := by
  rw [stateValue, stateGetInt, if_pos valid]
  rfl

theorem stateValue_invalid
    (store : StateStore) (invalid : ¬ StateValidId id) :
    stateValue store id = 0 := by
  rw [stateValue, stateGetInt, if_neg invalid]
  rfl

theorem failsafeBinaryValue_eq_zero {value : Int32} :
    failsafeBinaryValue value = 0 ↔ value = 0 := by
  unfold failsafeBinaryValue
  split
  · next on => exact iff_of_false (by decide) on
  · next off => exact iff_of_true rfl (not_not.mp off)

variable {store : StateStore}

theorem guardAction_some
    {event : EndapEvent} {rule : AutomationRule}
    {value : Int32}
    (acts : guardAction event store rule.config = some value) :
    stateValue store rule.node.output ≠ 0 ∧
    value = rule.node.onFalse.toInt32 := by
  unfold guardAction at acts
  split at acts
  · next lost => exact ⟨lost.2.2.2.1, (Option.some.inj acts).symm⟩
  · cases acts

variable {plant : Plant}

/-- An admitted command switches the output off exactly if it asks for
zero. -/
theorem Commands.off_iff
    {around : Surroundings} {after : Plant} {rule : AutomationRule}
    {action : Option Int32}
    (commands : Commands around plant rule action after)
    (valid : StateValidId rule.node.output)
    (isLocal :
      clusterIoIsLocal around.clusterIo rule.node.output.toUInt32 = true)
    (admits : Admits plant.failsafe rule.node.output) :
    stateValue after.store rule.node.output = 0 ↔
    action = some 0 ∨
    action = none ∧ stateValue plant.store rule.node.output = 0 := by
  cases commands with
  | nothing => simp
  | value purpose value changed sameNode =>
      rw [← sameNode] at valid isLocal admits ⊢
      rw [automationDispatchOutput_written isLocal admits,
        stateValue_valid _ valid, stateSetInt_same _ valid,
        failsafeBinaryValue_eq_zero]
      simp

/-- After a visit of the guard the output is off if it was, or if the visit
switches it off. -/
theorem guardVisit_off_iff
    {around : Surroundings} (event : EndapEvent)
    (rule : AutomationRule)
    (isLocal : clusterIoIsLocal around.clusterIo output.toUInt32 = true)
    (admits : Admits plant.failsafe output) :
    stateValue (guardVisit around event plant rule).1.store output = 0 ↔
    stateValue plant.store output = 0 ∨
    SwitchesOff event output (plant, rule) := by
  by_cases valid : StateValidId output
  · by_cases same : rule.node.output = output
    · subst same
      rw [(guardVisit_commands event).off_iff valid isLocal admits]
      unfold SwitchesOff
      cases acts : guardAction event plant.store rule.config with
      | none => simp
      | some value =>
          have on := (guardAction_some acts).1
          simp [on]
    · have kept :=
        (guardVisit_anyEffect around event plant rule).commanded.elsewhere
          (Ne.symm same)
      rw [stateValue_congr kept]
      constructor
      · intro off
        exact .inl off
      · rintro (off | ⟨isOutput, _⟩)
        · exact off
        · exact absurd isOutput same
  · exact
      iff_of_true (stateValue_invalid _ valid)
        (.inl (stateValue_invalid _ valid))

/-! ## The guard loop -/

theorem guardLoop_off_iff
    {around : Surroundings} (event : EndapEvent) (plant : Plant)
    (rules : List AutomationRule)
    (isLocal : clusterIoIsLocal around.clusterIo output.toUInt32 = true)
    (admits : Admits plant.failsafe output) :
    stateValue (Sweep.run (guardVisit around event) plant rules).1.store
          output = 0 ↔
    stateValue plant.store output = 0 ∨
    ∃ found ∈ Sweep.visits (guardVisit around event) plant rules,
      SwitchesOff event output found := by
  refine
    Sweep.run_iff_of_invariant
      (fun state : Plant => Admits state.failsafe output)
      (fun state => stateValue state.store output = 0)
      (SwitchesOff event output) ?_ ?_ admits rules
  · intro state rule admitted
    exact
      (guardVisit_anyEffect around event state rule).commanded.admits admitted
  · intro state rule admitted
    exact guardVisit_off_iff event rule isLocal admitted

theorem sweep_admits
    {around : Surroundings}
    {visit : Plant → AutomationRule → Plant × AutomationRule}
    (effects :
      ∀ plant rule,
        Effect around plant rule (fun _ => True) (visit plant rule).1)
    (plant : Plant)
    (admits : Admits plant.failsafe output) (rules : List AutomationRule) :
    Admits (Sweep.run visit plant rules).1.failsafe output := by
  refine
    Sweep.run_invariant
      (fun state : Plant => Admits state.failsafe output) ?_ admits rules
  intro state rule admitted
  exact (effects state rule).commanded.admits admitted

theorem triggered_admits
    (around : Surroundings) (event : EndapEvent) {runtime : Runtime}
    (admits : Admits runtime.failsafe output) :
    Admits (triggered around event runtime).failsafe output :=
  sweep_admits
    (triggerVisit_anyEffect around runtime.automation.tickMs event)
    runtime.plant admits runtime.automation.rules

theorem automationEventHandler_store
    (around : Surroundings) {event : EndapEvent} (runtime : Runtime)
    (change : event.type = .stateChange) :
    (automationEventHandler around event runtime).1.store =
      (Sweep.run (guardVisit around event)
        (triggered around event runtime).plant
        (triggered around event runtime).automation.rules).1.store := by
  rw [automationEventHandler, if_neg (not_not.mpr change)]
  rfl

theorem triggered_rule
    (around : Surroundings) (event : EndapEvent) {runtime : Runtime}
    {place : Nat} {rule : AutomationRule}
    (held : runtime.automation.rules[place]? = some rule) :
    ∃ kept,
      (triggered around event runtime).automation.rules[place]? = some kept ∧
      kept.config = rule.config := by
  obtain ⟨plant, _, left⟩ :=
    @Sweep.run_getElem? _ _
      (triggerVisit around runtime.automation.tickMs event) _ _ _ held
      runtime.plant
  exact ⟨_, left, triggerVisit_config around plant rule _ event⟩

theorem triggered_undriven
    (around : Surroundings) (event : EndapEvent) {runtime : Runtime}
    (count : Nat)
    (undriven :
      ∀ other ∈ runtime.automation.rules.drop count,
        interlock.watches other.node.output = false) :
    ∀ other ∈ (triggered around event runtime).automation.rules.drop count,
      interlock.watches other.node.output = false := by
  intro other member
  have config := List.mem_map_of_mem (f := AutomationRule.config) member
  rw [List.map_drop] at config
  change other.config ∈ List.drop count
    (triggered around event runtime).automation.configs at config
  rw [triggered_configs, AutomationStore.configs, ← List.map_drop,
    List.mem_map] at config
  obtain ⟨before, isBefore, same⟩ := config
  have sameNode : before.node = other.node := congrArg Prod.fst same
  rw [← sameNode]
  exact undriven before isBefore

theorem inForce_of_lost
    (lost : automationEvalInterlock store interlock = false) :
    interlock.enabled ≠ 0 ∧ interlock.condCount ≠ 0 := by
  apply not_or.mp
  intro free
  rw [automationEvalInterlock, if_pos free] at lost
  cases lost

/-- The visit of a rule without permission and with zero for a false condition
leaves its output off. -/
theorem guardVisit_off
    {around : Surroundings} {event : EndapEvent}
    {rule : AutomationRule}
    (isLocal :
      clusterIoIsLocal around.clusterIo rule.node.output.toUInt32 = true)
    (admits : Admits plant.failsafe rule.node.output)
    (watched : rule.interlock.watches event.source = true)
    (lost : automationEvalInterlock plant.store rule.interlock = false)
    (zero : rule.node.onFalse = 0) :
    stateValue (guardVisit around event plant rule).1.store
      rule.node.output = 0 := by
  obtain ⟨enabled, counted⟩ := inForce_of_lost lost
  rw [guardVisit_off_iff event rule isLocal admits]
  by_cases off : stateValue plant.store rule.node.output = 0
  · exact .inl off
  · refine .inr ⟨rfl, ?_⟩
    rw [guardAction, if_pos ⟨enabled, counted, watched, off, lost⟩,
      AutomationRule.config, zero]
    rfl

theorem toInt32_eq_zero {value : Int8} : value.toInt32 = 0 ↔ value = 0 := by
  constructor
  · intro isZero
    have back := congrArg Int32.toInt8 isZero
    simpa using back
  · rintro rfl
    rfl

/-- A rule without permission acts on an event only to apply its value for a
false condition. -/
theorem triggerAction_lost
    (around : Surroundings) (event : EndapEvent)
    {rule : AutomationRule}
    (lost : automationEvalInterlock store rule.interlock = false) :
    triggerAction around event store rule = none ∧
        ¬ AppliesFalse around event rule.node ∨
      triggerAction around event store rule = some rule.node.onFalse.toInt32 ∧
      AppliesFalse around event rule.node := by
  unfold triggerAction AppliesFalse
  by_cases isInput : rule.node.input = event.source
  · rw [if_neg (not_not.mpr isInput)]
    cases holds : conditionHolds around event rule.node with
    | true =>
        rw [if_pos ⟨rfl, lost⟩]
        exact .inl ⟨rfl, by simp⟩
    | false =>
        rw [if_neg (by simp)]
        unfold modeAction
        cases mode : AutomationMode.ofCode rule.node.mode with
        | none => exact .inl ⟨rfl, by simp⟩
        | some found =>
            cases found with
            | follow => exact .inr ⟨rfl, isInput, rfl, .inl rfl⟩
            | onDelayMs => exact .inr ⟨rfl, isInput, rfl, .inr rfl⟩
            | _ => exact .inl ⟨rfl, by simp⟩
  · rw [if_pos isInput]
    exact .inl ⟨rfl, fun applies => isInput applies.1⟩

theorem triggerVisit_lost_off_iff
    {around : Surroundings} {event : EndapEvent}
    {rule : AutomationRule} (valid : StateValidId rule.node.output)
    (isLocal :
      clusterIoIsLocal around.clusterIo rule.node.output.toUInt32 = true)
    (admits : Admits plant.failsafe rule.node.output)
    (lost : automationEvalInterlock plant.store rule.interlock = false)
    (tickMs : UInt32) (one : rule.node.onFalse ≠ 0) :
    stateValue (triggerVisit around tickMs event plant rule).1.store
          rule.node.output = 0 ↔
    stateValue plant.store rule.node.output = 0 ∧
    ¬ AppliesFalse around event rule.node := by
  rw [(triggerVisit_commands tickMs event).off_iff valid isLocal admits]
  rcases triggerAction_lost around event lost with
    ⟨idle, notApplied⟩ | ⟨acts, applied⟩
  · rw [idle]
    simp [notApplied]
  · rw [acts, Option.some_inj, toInt32_eq_zero]
    simp [one, applied]

/-! ## A rule that nothing disturbs -/

section

variable {around : Surroundings} {event : EndapEvent} {runtime : Runtime}
    {place : Nat} {rule : AutomationRule}

theorem automationEventHandler_permission
    (change : event.type = .stateChange) {interlock : AutomationInterlock}
    (undriven :
      ∀ other ∈ runtime.automation.rules,
        interlock.watches other.node.output = false) :
    automationEvalInterlock
        (automationEventHandler around event runtime).1.store interlock =
      automationEvalInterlock runtime.store interlock := by
  rw [automationEventHandler_store around runtime change]
  have guards :=
    Runtime.sweep_permission (guardVisit_anyEffect around event)
      (triggered_undriven around event 0 undriven)
      (triggered around event runtime).plant
  have triggers :=
    Runtime.sweep_permission
      (triggerVisit_anyEffect around runtime.automation.tickMs event)
      undriven runtime.plant
  exact guards.trans triggers

theorem triggered_off_iff
    (held : runtime.automation.rules[place]? = some rule)
    (undisturbed : Undisturbed runtime.automation.rules place rule)
    (isLocal :
      clusterIoIsLocal around.clusterIo rule.node.output.toUInt32 = true)
    (admits : Admits runtime.failsafe rule.node.output)
    (lost : automationEvalInterlock runtime.store rule.interlock = false)
    (one : rule.node.onFalse ≠ 0) :
    stateValue (triggered around event runtime).store rule.node.output = 0 ↔
    stateValue runtime.store rule.node.output = 0 ∧
    ¬ AppliesFalse around event rule.node := by
  -- What the visit of the rule finds of its output and its permission.
  obtain ⟨plant, _, _, before, after⟩ :=
    Sweep.run_view
      (fun plant : Plant =>
        (plant.share rule.node,
          automationEvalInterlock plant.store rule.interlock))
      held
      (fun position other isOther different plant => by
        have effect :=
          triggerVisit_anyEffect around runtime.automation.tickMs event
            plant other
        have undriven :=
          undisturbed.undriven other (List.mem_of_getElem? isOther)
        exact
          congrArg₂ Prod.mk
            (effect.share (undisturbed.sole position other isOther different))
            (effect.commanded.permission undriven))
      runtime.plant
  have share := congrArg Prod.fst before
  have lostHere := (congrArg Prod.snd before).trans lost
  have value := congrArg (fun view => view.1.1) after
  have admitsHere :=
    (admits_congr (congrArg (fun view => view.2.1) share)).mpr admits
  refine (Iff.of_eq (congrArg (· = 0) (stateValue_congr value))).trans ?_
  rw [triggerVisit_lost_off_iff undisturbed.valid isLocal admitsHere
    lostHere _ one, stateValue_congr (congrArg Prod.fst share)]
  rfl

/-- The guard never switches off the only output of a rule with one for a
false condition. -/
theorem not_switchesOff
    (held : runtime.automation.rules[place]? = some rule)
    (sole : Sole runtime.automation.rules place rule.node)
    (one : rule.node.onFalse ≠ 0)
    {found : Plant × AutomationRule}
    (visited :
      found ∈
        (triggered around event runtime).visits (guardVisit around event)) :
    ¬ SwitchesOff event rule.node.output found := by
  rintro ⟨sameOutput, acts⟩
  obtain ⟨position, isFound⟩ :=
    List.mem_iff_getElem?.mp (Sweep.mem_of_mem_visits visited)
  obtain ⟨kept, isKept, config⟩ := triggered_rule around event held
  have isPlace : position = place := by
    by_contra different
    exact
      sole_triggered sole around event position found.2 isFound different
        sameOutput
  rw [isPlace, isKept] at isFound
  have sameNode : found.2.node = rule.node := by
    rw [← Option.some.inj isFound]
    exact congrArg Prod.fst config
  have zero := (guardAction_some acts).2
  rw [sameNode] at zero
  exact one (toInt32_eq_zero.mp zero.symm)

end

/-! ## Events -/

theorem automationEventHandler_guardedOff
    {around : Surroundings} {event : EndapEvent} {runtime : Runtime}
    (change : event.type = .stateChange)
    (isLocal : clusterIoIsLocal around.clusterIo output.toUInt32 = true)
    (admits : Admits runtime.failsafe output) :
    stateValue (automationEventHandler around event runtime).1.store
          output = 0 ↔
    GuardedOff around event runtime output := by
  rw [automationEventHandler_store around runtime change]
  exact
    guardLoop_off_iff event (triggered around event runtime).plant _ isLocal
      (triggered_admits around event admits)

section

variable {around : Surroundings} {event : EndapEvent} {runtime : Runtime}
    {place : Nat} {rule : AutomationRule}
    (held : runtime.automation.rules[place]? = some rule)
    (change : event.type = .stateChange)
    (watched : rule.interlock.watches event.source = true)
    (isLocal :
      clusterIoIsLocal around.clusterIo rule.node.output.toUInt32 = true)
    (admits : Admits runtime.failsafe rule.node.output)
    (lost :
      automationEvalInterlock
        (automationEventHandler around event runtime).1.store
        rule.interlock = false)

include held change watched isLocal admits lost

/-- A rule with zero for a false condition is switched off, if no later rule
can take its permission away. -/
theorem automationEventHandler_off
    (undriven : UndrivenBehind runtime.automation.rules place rule.interlock)
    (zero : rule.node.onFalse = 0) :
    stateValue (automationEventHandler around event runtime).1.store
      rule.node.output = 0 := by
  obtain ⟨kept, isKept, config⟩ := triggered_rule around event held
  have sameNode : kept.node = rule.node := congrArg Prod.fst config
  have sameInterlock : kept.interlock = rule.interlock :=
    congrArg Prod.snd config
  rw [← sameNode] at isLocal admits zero ⊢
  rw [← sameInterlock] at watched lost undriven
  have later := triggered_undriven around event (place + 1) undriven
  have admitted := triggered_admits around event admits
  rw [automationEventHandler_store around runtime change,
    Sweep.run_split isKept] at lost ⊢
  generalize isFound :
    (Sweep.run (guardVisit around event)
      (triggered around event runtime).plant
      ((triggered around event runtime).automation.rules.take place)).1 =
      plant at lost ⊢
  have admitsHere : Admits plant.failsafe kept.node.output := by
    rw [← isFound]
    exact
      sweep_admits (guardVisit_anyEffect around event)
        (triggered around event runtime).plant admitted _
  rw [Runtime.sweep_permission (guardVisit_anyEffect around event) later]
    at lost
  rw [guardLoop_off_iff event _ _ isLocal
    ((guardVisit_anyEffect around event plant kept).commanded.admits
      admitsHere)]
  by_cases permits : automationEvalInterlock plant.store kept.interlock = true
  · rw [guardVisit_permitted around event permits, permits] at lost
    cases lost
  · refine .inl (guardVisit_off isLocal admitsHere watched ?_ zero)
    simpa using permits

/-- Where no other rule interferes, the state before the event tells whether
the output is off after it. -/
theorem automationEventHandler_off_iff
    (undisturbed : Undisturbed runtime.automation.rules place rule) :
    stateValue (automationEventHandler around event runtime).1.store
          rule.node.output = 0 ↔
    rule.node.onFalse = 0 ∨
    stateValue runtime.store rule.node.output = 0 ∧
    ¬ AppliesFalse around event rule.node := by
  by_cases zero : rule.node.onFalse = 0
  · refine iff_of_true ?_ (.inl zero)
    apply automationEventHandler_off held change watched isLocal admits lost
    · intro other behind
      exact undisturbed.undriven other (List.mem_of_mem_drop behind)
    · exact zero
  · rw [automationEventHandler_permission change undisturbed.undriven]
      at lost
    rw [automationEventHandler_guardedOff change isLocal admits, GuardedOff,
      triggered_off_iff held undisturbed isLocal admits lost zero]
    constructor
    · rintro (off | ⟨found, visited, switchesOff⟩)
      · exact .inr off
      · exact
          absurd switchesOff
            (not_switchesOff held undisturbed.sole zero visited)
    · rintro (isZero | off)
      · exact absurd isZero zero
      · exact .inl off

end

/--
After an event on a channel of the interlock, the output of a rule without
permission is off exactly if the guard finds it off or switches it off.  That
is always so if the rule has zero for a false condition and no later rule
drives a channel of its interlock.  Where no other rule interferes at all, any
other rule must find its output off and apply nothing.
-/
theorem guard_reaches_safe_state
    (around : Surroundings) (event : EndapEvent) {runtime : Runtime}
    {place : Nat} {rule : AutomationRule}
    (held : runtime.automation.rules[place]? = some rule)
    (change : event.type = .stateChange)
    (watched : rule.interlock.watches event.source = true)
    (isLocal :
      clusterIoIsLocal around.clusterIo rule.node.output.toUInt32 = true)
    (admits : Admits runtime.failsafe rule.node.output)
    (lost :
      automationEvalInterlock
        (automationEventHandler around event runtime).1.store
        rule.interlock = false) :
    (stateValue (automationEventHandler around event runtime).1.store
          rule.node.output = 0 ↔
        GuardedOff around event runtime rule.node.output) ∧
    (UndrivenBehind runtime.automation.rules place rule.interlock →
    rule.node.onFalse = 0 →
    stateValue (automationEventHandler around event runtime).1.store
      rule.node.output = 0) ∧
    (Undisturbed runtime.automation.rules place rule →
    (stateValue (automationEventHandler around event runtime).1.store
          rule.node.output = 0 ↔
      rule.node.onFalse = 0 ∨
      stateValue runtime.store rule.node.output = 0 ∧
      ¬ AppliesFalse around event rule.node)) := by
  refine ⟨?_, ?_, ?_⟩
  · exact automationEventHandler_guardedOff change isLocal admits
  · intro undriven zero
    exact
      automationEventHandler_off held change watched isLocal admits lost
        undriven zero
  · intro undisturbed
    exact
      automationEventHandler_off_iff held change watched isLocal admits lost
        undisturbed

/-! ## A door that opens -/

def invertedRule : RuleRequest :=
  { followingRule with onTrue := 0, onFalse := 1 }

def openingDoor (request : RuleRequest) (value : Int32) : Runtime :=
  Run.final Runtime.call idleRuntime
    ([.addRule standalone request .committed,
        .setInterlockAt 0 (some doorClosed) .committed] ++
      changeState 11 1 ++ changeState 10 value ++ [.stateWrite 11 0])

def doorOpens : EndapEvent where
  type := .stateChange
  source := 11
  data := 0

/-- With zero for a false condition the output is switched off. -/
theorem openingDoor_switches_off :
    stateValue (openingDoor followingRule 1).store 100 = 1 ∧
    stateValue
        (automationEventHandler standalone doorOpens
          (openingDoor followingRule 1)).1.store 100 = 0 := by
  refine ⟨by decide +kernel, ?_⟩
  have stored :
      (openingDoor followingRule 1).automation.rules[0]?.map
          AutomationRule.config =
        some (followingRule.candidate, doorClosed) := by
    decide +kernel
  obtain ⟨rule, held, config⟩ := Option.map_eq_some_iff.mp stored
  obtain ⟨sameNode, sameInterlock⟩ := Prod.mk.inj config
  have isOutput : rule.node.output = 100 := by
    rw [sameNode]
    rfl
  have watched : rule.interlock.watches doorOpens.source = true := by
    rw [sameInterlock]
    decide
  have isLocal :
      clusterIoIsLocal standalone.clusterIo
        rule.node.output.toUInt32 = true := by
    rw [isOutput]
    decide
  have admits :
      Admits (openingDoor followingRule 1).failsafe rule.node.output := by
    rw [isOutput]
    decide +kernel
  have lost :
      automationEvalInterlock
          (automationEventHandler standalone doorOpens
            (openingDoor followingRule 1)).1.store rule.interlock =
        false := by
    rw [sameInterlock]
    decide +kernel
  have undriven :
      UndrivenBehind (openingDoor followingRule 1).automation.rules 0
        rule.interlock := by
    rw [sameInterlock, UndrivenBehind]
    decide +kernel
  have zero : rule.node.onFalse = 0 := by
    rw [sameNode]
    rfl
  have safe :=
    guard_reaches_safe_state standalone doorOpens held rfl watched isLocal
      admits lost
  have off := safe.2.1 undriven zero
  rw [isOutput] at off
  exact off

/-- With one for a false condition it stays on. -/
theorem openingDoor_leaves_on :
    ∃ rule,
      (openingDoor invertedRule 0).automation.rules[0]? = some rule ∧
      rule.interlock.watches doorOpens.source = true ∧
      clusterIoIsLocal standalone.clusterIo rule.node.output.toUInt32 = true ∧
      Admits (openingDoor invertedRule 0).failsafe rule.node.output ∧
      automationEvalInterlock
          (automationEventHandler standalone doorOpens
            (openingDoor invertedRule 0)).1.store rule.interlock =
        false ∧
      stateValue
          (automationEventHandler standalone doorOpens
            (openingDoor invertedRule 0)).1.store rule.node.output = 1 := by
  have stored :
      (openingDoor invertedRule 0).automation.rules[0]?.map
          AutomationRule.config =
        some (invertedRule.candidate, doorClosed) := by
    decide +kernel
  obtain ⟨rule, held, config⟩ := Option.map_eq_some_iff.mp stored
  obtain ⟨sameNode, sameInterlock⟩ := Prod.mk.inj config
  refine ⟨rule, held, ?_, ?_, ?_, ?_, ?_⟩
  · rw [sameInterlock]
    decide
  · rw [sameNode]
    decide +kernel
  · rw [sameNode]
    decide +kernel
  · rw [sameInterlock]
    decide +kernel
  · rw [sameNode]
    decide +kernel

end Endap.Automation
