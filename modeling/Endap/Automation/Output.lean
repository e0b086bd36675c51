import Endap.Automation.Follow

/-!
# The output of one rule

A walk over the rules visits them all, but only a rule for the same output
reaches an output and its fail-safe entry.  Where a rule is the only one for
its output, the walk does to that output what the visit of this rule does, and
an event whose visits the interlock permits does what the trigger loop does.
-/

namespace Endap.Automation

open Endap.Cluster
open Endap.Failsafe
open Endap.Library
open Endap.State

/-! ## One dispatch -/

theorem admits_congr
    {first second : FailsafeTable} {output : UInt16}
    (same : failsafeFind first output = failsafeFind second output) :
    Admits first output ↔ Admits second output := by
  unfold Admits
  rw [same]

theorem failsafeGuardCommand_admits_iff
    (failsafe : FailsafeTable) (commanded outputId : UInt16)
    (value : Int32) :
    Admits (failsafeGuardCommand failsafe commanded value).2 outputId ↔
    Admits failsafe outputId := by
  by_cases same : outputId = commanded
  · subst same
    by_cases admits : Admits failsafe outputId
    · exact iff_of_true (failsafeGuardCommand_admits admits _ value) admits
    · have unchanged :
          (failsafeGuardCommand failsafe outputId value).2 = failsafe := by
        unfold failsafeGuardCommand
        split
        · rfl
        · next entry found =>
            split
            · rfl
            · next passes => exact absurd ⟨entry, found, passes⟩ admits
      rw [unchanged]
  · exact admits_congr (failsafeGuardCommand_find_other failsafe same value)

theorem Commanded.admits_iff
    {output : UInt16} {before after : Plant}
    (commanded : Commanded output before after) (outputId : UInt16) :
    Admits after.failsafe outputId ↔ Admits before.failsafe outputId := by
  rcases commanded.failsafe with same | ⟨requested, guarded⟩
  · rw [same]
  · rw [guarded]
    exact failsafeGuardCommand_admits_iff _ _ _ _

variable {around : Surroundings} {plant : Plant} {rule : AutomationRule}

theorem automationDispatchOutput_refused
    (isLocal :
      clusterIoIsLocal around.clusterIo rule.node.output.toUInt32 = true)
    (blocked : ¬ Admits plant.failsafe rule.node.output) (value : Int32)
    (purpose : Purpose) :
    (automationDispatchOutput around purpose value plant rule).1.store =
      plant.store := by
  have refused :
      (failsafeGuardCommand plant.failsafe rule.node.output
        value).1.allowed = false := by
    unfold failsafeGuardCommand
    split
    · rfl
    · next entry found =>
        rw [if_pos]
        by_contra passes
        exact blocked ⟨entry, found, passes⟩
  rw [automationDispatchOutput]
  dsimp only
  rw [if_pos isLocal, dispatchLocal]
  dsimp only
  rw [if_neg (by rw [refused]; decide)]

theorem automationDispatchOutput_remote
    (remote :
      ¬ clusterIoIsLocal around.clusterIo rule.node.output.toUInt32 = true)
    (purpose : Purpose) (value : Int32) (plant : Plant) :
    (automationDispatchOutput around purpose value plant rule).1.store =
      plant.store := by
  rw [automationDispatchOutput]
  dsimp only
  rw [if_neg remote]
  obtain ⟨queue, queued⟩ :=
    dispatchRemote_plant around
      { plant with
        dispatches :=
          plant.dispatches ++
            [{ purpose := purpose
               node := rule.node
               interlock := rule.interlock
               value := value
               store := plant.store }] }
      rule.node.output value
  rw [queued]

/-- The part of a plant that the only rule of an output reaches: the value of
the output, its fail-safe entry, and the dispatches for the rule. -/
def Plant.share (node : AutomationNode) (plant : Plant) :
    Int32 × Option FailsafeEntry × List Dispatch :=
  (plant.store.intValues node.output,
    failsafeFind plant.failsafe node.output,
    plant.dispatches.filter fun dispatch => dispatch.node = node)

theorem Effect.share
    {after : Plant}
    {allowed : Purpose → Prop}
    (effect : Effect around plant rule allowed after)
    {node : AutomationNode} (different : rule.node.output ≠ node.output) :
    after.share node = plant.share node := by
  have commanded := effect.commanded
  have value := commanded.elsewhere different.symm
  have entry :
      failsafeFind after.failsafe node.output =
        failsafeFind plant.failsafe node.output := by
    rcases commanded.failsafe with same | ⟨requested, guarded⟩
    · rw [same]
    · rw [guarded]
      exact
        failsafeGuardCommand_find_other plant.failsafe different.symm requested
  have dispatches :
      (after.dispatches.filter fun dispatch => dispatch.node = node) =
        plant.dispatches.filter fun dispatch => dispatch.node = node := by
    cases effect with
    | idle => rfl
    | dispatch purpose value changed sameNode _ _ =>
        have notNode : changed.node ≠ node := by
          rw [sameNode]
          rintro rfl
          exact different rfl
        rw [automationDispatchOutput_dispatches, List.filter_append,
          List.filter_cons_of_neg (by simpa using notNode), List.filter_nil,
          List.append_nil]
  unfold Plant.share
  rw [value, entry, dispatches]

/-- No other rule of the store drives the output of a rule. -/
def Sole (rules : List AutomationRule) (place : Nat)
    (node : AutomationNode) : Prop :=
  ∀ position other,
    rules[position]? = some other → position ≠ place →
    other.node.output ≠ node.output

variable {place : Nat}

theorem sole_of_wellKept
    {automation : AutomationStore}
    (kept : WellKept Compatible automation.configs)
    (held : automation.rules[place]? = some rule)
    (notForced : automationModeIsForcePair rule.node.mode = false) :
    Sole automation.rules place rule.node := by
  intro position other isOther different
  have config : automation.configs[place]? = some rule.config := by
    rw [AutomationStore.configs, List.getElem?_map, held]
    rfl
  have otherConfig : automation.configs[position]? = some other.config := by
    rw [AutomationStore.configs, List.getElem?_map, isOther]
    rfl
  exact kept.sole config notForced otherConfig different

theorem Runtime.sweep_share
    (runtime : Runtime)
    {visit : Plant → AutomationRule → Plant × AutomationRule}
    (effects :
      ∀ plant rule,
        Effect around plant rule (fun _ => True) (visit plant rule).1)
    (held : runtime.automation.rules[place]? = some rule)
    (sole : Sole runtime.automation.rules place rule.node) :
    ∃ plant,
      (runtime.visits visit)[place]? = some (plant, rule) ∧
      (runtime.sweep visit).1.automation.rules[place]? =
        some (visit plant rule).2 ∧
      plant.share rule.node = runtime.plant.share rule.node ∧
      (Sweep.run visit runtime.plant
          runtime.automation.rules).1.share rule.node =
        (visit plant rule).1.share rule.node :=
  Sweep.run_view (Plant.share rule.node) held
    (fun position other isOther different plant =>
      (effects plant other).share (sole position other isOther different))
    runtime.plant

/-! ## One event -/

/-- Each visit of an event finds that the interlock of the rule permits it. -/
structure Permitted (around : Surroundings) (event : EndapEvent)
    (runtime : Runtime) (place : Nat) : Prop where
  triggers :
    ∀ found,
      (runtime.visits
          (triggerVisit around runtime.automation.tickMs event))[place]? =
          some found →
        automationEvalInterlock found.1.store found.2.interlock = true
  guards :
    ∀ found,
      ((triggered around event runtime).visits
          (guardVisit around event))[place]? =
          some found →
        automationEvalInterlock found.1.store found.2.interlock = true

theorem guardVisit_permitted
    (around : Surroundings) (event : EndapEvent)
    (permits : automationEvalInterlock plant.store rule.interlock = true) :
    guardVisit around event plant rule = (plant, rule) := by
  rw [guardVisit]
  split
  · rfl
  · rw [if_neg]
    simp [permits]

theorem triggerVisit_anyEffect
    (around : Surroundings) (tickMs : UInt32) (event : EndapEvent)
    (plant : Plant) (rule : AutomationRule) :
    Effect around plant rule (fun _ => True)
      (triggerVisit around tickMs event plant rule).1 :=
  (triggerVisit_effect tickMs event).weaken fun _ _ => trivial

theorem guardVisit_anyEffect
    (around : Surroundings) (event : EndapEvent) (plant : Plant)
    (rule : AutomationRule) :
    Effect around plant rule (fun _ => True)
      (guardVisit around event plant rule).1 :=
  (guardVisit_effect event).weaken fun _ _ => trivial

theorem sole_triggered
    {runtime : Runtime} {node : AutomationNode}
    (sole : Sole runtime.automation.rules place node)
    (around : Surroundings) (event : EndapEvent) :
    Sole (triggered around event runtime).automation.rules place node := by
  intro position other isOther different
  have config :
      (triggered around event runtime).automation.configs[position]? =
        some other.config := by
    rw [AutomationStore.configs, List.getElem?_map, isOther]
    rfl
  rw [triggered_configs, AutomationStore.configs, List.getElem?_map,
    Option.map_eq_some_iff] at config
  obtain ⟨before, held, same⟩ := config
  have sameNode : before.node = other.node := congrArg Prod.fst same
  rw [← sameNode]
  exact sole position before held different

/-- What a permitted event makes of a rule and of its output is what the trigger
loop makes of them. -/
theorem automationEventHandler_permitted
    {event : EndapEvent} {runtime : Runtime}
    (held : runtime.automation.rules[place]? = some rule)
    (sole : Sole runtime.automation.rules place rule.node)
    (permitted : Permitted around event runtime place)
    (change : event.type = .stateChange) :
    ∃ plant,
      plant.share rule.node = runtime.plant.share rule.node ∧
      automationEvalInterlock plant.store rule.interlock = true ∧
      (automationEventHandler around event runtime).1.automation.rules[place]? =
        some
          (triggerVisit around runtime.automation.tickMs event plant rule).2 ∧
      (automationEventHandler around event
          runtime).1.store.intValues rule.node.output =
        (triggerVisit around runtime.automation.tickMs event plant
          rule).1.store.intValues rule.node.output := by
  obtain ⟨plant, found, left, before, after⟩ :=
    runtime.sweep_share
      (triggerVisit_anyEffect around runtime.automation.tickMs event) held
      sole
  have config :=
    triggerVisit_config around plant rule runtime.automation.tickMs event
  have sameNode :
      (triggerVisit around runtime.automation.tickMs event plant
        rule).2.node = rule.node :=
    congrArg Prod.fst config
  have stillSole := sole_triggered sole around event
  rw [← sameNode] at stillSole
  obtain ⟨later, foundLater, leftLater, beforeLater, afterLater⟩ :=
    (triggered around event runtime).sweep_share
      (guardVisit_anyEffect around event) left stillSole
  have idle := guardVisit_permitted around event (permitted.guards _ foundLater)
  rw [idle] at leftLater afterLater
  rw [sameNode] at beforeLater afterLater
  refine ⟨plant, before, permitted.triggers _ found, ?_, ?_⟩
  · rw [automationEventHandler, if_neg (not_not.mpr change)]
    exact leftLater
  · rw [automationEventHandler, if_neg (not_not.mpr change)]
    have value := congrArg Prod.fst (afterLater.trans beforeLater)
    exact value.trans (congrArg Prod.fst after)

end Endap.Automation
