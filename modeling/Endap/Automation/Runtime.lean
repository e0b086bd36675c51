import Endap.Automation.Engine
import Endap.Library.Run

/-!
# Runs of the automation engine

The engine runs beside the fail-safe table and the state table.  One call is
a state-change event, a tick, a change of the rules, a command from another
node, a fault or a change of a fail-safe policy; the rest of the firmware may
write any state value between two calls.  Each call returns the dispatches it
made.
-/

namespace Endap.Automation

open Endap.Cluster
open Endap.Failsafe
open Endap.Library
open Endap.State

/-- The static state of `automation_engine.c`, with the rules in flash. -/
structure AutomationStore where
  rules : List AutomationRule
  tickMs : UInt32
  persistedConfig : Bool
  savedRules : Option (List (AutomationNode × AutomationInterlock))
  remoteQueue : Option AutomationRemoteQueue
  fits : rules.length ≤ automationEngineMaxNodes

/-- The engine with the tables it works on. -/
structure Runtime where
  automation : AutomationStore
  failsafe : FailsafeTable
  store : StateStore

/-! ## Events and ticks -/

/-- What the rules act on at the start of a walk. -/
def Runtime.plant (runtime : Runtime) : Plant where
  store := runtime.store
  failsafe := runtime.failsafe
  remoteQueue := runtime.automation.remoteQueue
  dispatches := []

/-- Walk over the rules in order; the dispatches of the walk are returned. -/
def Runtime.sweep
    (runtime : Runtime)
    (visit : Plant → AutomationRule → Plant × AutomationRule) :
    Runtime × List Dispatch :=
  let swept := Sweep.run visit runtime.plant runtime.automation.rules
  ({ automation :=
      { runtime.automation with
        rules := swept.2
        remoteQueue := swept.1.remoteQueue
        fits := by
          rw [Sweep.run_length]
          exact runtime.automation.fits }
     failsafe := swept.1.failsafe
     store := swept.1.store },
    swept.1.dispatches)

/-- What the visits of a walk find. -/
def Runtime.visits
    (runtime : Runtime)
    (visit : Plant → AutomationRule → Plant × AutomationRule) :
    List (Plant × AutomationRule) :=
  Sweep.visits visit runtime.plant runtime.automation.rules

def automationEventHandler
    (around : Surroundings) (event : EndapEvent) (runtime : Runtime) :
    Runtime × List Dispatch :=
  if event.type ≠ .stateChange then (runtime, [])
  else
    let triggered :=
      runtime.sweep (triggerVisit around runtime.automation.tickMs event)
    let guarded := triggered.1.sweep (guardVisit around event)
    (guarded.1, triggered.2 ++ guarded.2)

/-- The runtime between the two loops of `automation_event_handler`. -/
def triggered
    (around : Surroundings) (event : EndapEvent) (runtime : Runtime) :
    Runtime :=
  (runtime.sweep (triggerVisit around runtime.automation.tickMs event)).1

/-- The runtime after `automation_tick_ms++`. -/
def Runtime.advance (runtime : Runtime) : Runtime :=
  { runtime with
    automation :=
      { runtime.automation with tickMs := runtime.automation.tickMs + 1 } }

def automationEngineTick1ms
    (around : Surroundings) (runtime : Runtime) :
    Runtime × List Dispatch :=
  runtime.advance.sweep (tickVisit around runtime.advance.automation.tickMs)

/-! ## The rule store -/

def automationPersist (outcome : NvsOutcome) (automation : AutomationStore) :
    AutomationStore :=
  { automation with
    savedRules :=
      nvsWrite outcome automation.savedRules
        (some (automation.rules.map fun rule => (rule.node, rule.interlock)))
    persistedConfig := automation.persistedConfig || outcome.succeeds }

inductive AutomationResult where
  | ok
  | duplicate
  | full
  | invalid
  | conflict
deriving DecidableEq

/-- The arguments of `automation_engine_add_rule`. -/
structure RuleRequest where
  input : Int32
  op : UInt8
  mode : UInt8
  threshold : Int32
  durationMs : UInt16
  output : Int32
  onTrue : Int32
  onFalse : Int32

/-- The checks that `automation_engine_add_rule` makes of its arguments. -/
def RuleRequest.valid (request : RuleRequest) (around : Surroundings) :
    Bool :=
  around.isValidInput request.input.toUInt32.toUInt16 &&
    around.isValidOutput request.output.toUInt32.toUInt16 &&
    automationValidOperator request.op &&
    automationValidMode request.mode &&
    automationValidAction request.onTrue &&
    automationValidAction request.onFalse &&
    !(automationModeIsTimed request.mode && decide (request.durationMs = 0))

/-- The candidate that the arguments describe. -/
def RuleRequest.candidate (request : RuleRequest) : AutomationNode where
  input := request.input.toUInt32.toUInt16
  output := request.output.toUInt32.toUInt16
  threshold := request.threshold
  op := request.op
  mode := request.mode
  durationMs := request.durationMs
  onTrue := request.onTrue.toInt8
  onFalse := request.onFalse.toInt8

/-- The loop of `automation_engine_add_rule` over the stored rules. -/
def findClash (candidate : AutomationNode) :
    List AutomationRule → Option AutomationResult
  | [] => none
  | rule :: rest =>
      if automationRulesEqual rule.node candidate then some .duplicate
      else if automationRuleConflicts rule.node candidate then
        some .conflict
      else findClash candidate rest

/-- The store with the candidate at its end. -/
def AutomationStore.append
    (automation : AutomationStore) (candidate : AutomationNode)
    (room : automation.rules.length < automationEngineMaxNodes) :
    AutomationStore :=
  { automation with
    rules := automation.rules ++ [AutomationRule.fresh candidate]
    fits := by
      rw [List.length_append]
      exact room }

/-- What `automation_engine_add_rule` returns and leaves. -/
structure AddedRule where
  result : AutomationResult
  runtime : Runtime
  dispatches : List Dispatch

def automationEngineAddRule
    (around : Surroundings) (request : RuleRequest) (outcome : NvsOutcome)
    (runtime : Runtime) : AddedRule :=
  let refused (result : AutomationResult) : AddedRule :=
    { result := result, runtime := runtime, dispatches := [] }
  if !request.valid around then refused .invalid
  else
    match findClash request.candidate runtime.automation.rules with
    | some result => refused result
    | none =>
        if room :
            runtime.automation.rules.length < automationEngineMaxNodes then
          let input := request.input.toUInt32.toUInt16
          let stored :=
            { runtime with
              automation :=
                automationPersist outcome
                  (runtime.automation.append request.candidate room) }
          match stateGetInt stored.store input with
          | none => { result := .ok, runtime := stored, dispatches := [] }
          | some current =>
              let replayed :=
                automationEventHandler around
                  { type := .stateChange, source := input, data := current }
                  stored
              { result := .ok
                runtime := replayed.1
                dispatches := replayed.2 }
        else refused .full

/-- The runtime with the candidate stored. -/
def Runtime.storing
    (runtime : Runtime) (candidate : AutomationNode)
    (room : runtime.automation.rules.length < automationEngineMaxNodes)
    (outcome : NvsOutcome) : Runtime :=
  { runtime with
    automation :=
      automationPersist outcome (runtime.automation.append candidate room) }

/-- How `automation_engine_add_rule` ends. -/
inductive AddedRule.Ends
    (around : Surroundings) (request : RuleRequest) (outcome : NvsOutcome)
    (runtime : Runtime) : AddedRule → Prop
  | invalid (notValid : ¬ request.valid around = true) :
      AddedRule.Ends around request outcome runtime
        { result := .invalid, runtime := runtime, dispatches := [] }
  | clash {result : AutomationResult}
      (valid : request.valid around = true)
      (clashes :
        findClash request.candidate runtime.automation.rules = some result) :
      AddedRule.Ends around request outcome runtime
        { result := result, runtime := runtime, dispatches := [] }
  | full (valid : request.valid around = true)
      (noClash : findClash request.candidate runtime.automation.rules = none)
      (noRoom : ¬ runtime.automation.rules.length < automationEngineMaxNodes) :
      AddedRule.Ends around request outcome runtime
        { result := .full, runtime := runtime, dispatches := [] }
  | stored (valid : request.valid around = true)
      (noClash : findClash request.candidate runtime.automation.rules = none)
      (room : runtime.automation.rules.length < automationEngineMaxNodes)
      (noValue : stateGetInt runtime.store request.candidate.input = none) :
      AddedRule.Ends around request outcome runtime
        { result := .ok
          runtime := runtime.storing request.candidate room outcome
          dispatches := [] }
  | replayed (valid : request.valid around = true)
      (noClash : findClash request.candidate runtime.automation.rules = none)
      (room : runtime.automation.rules.length < automationEngineMaxNodes)
      {current : Int32}
      (isCurrent :
        stateGetInt runtime.store request.candidate.input = some current) :
      AddedRule.Ends around request outcome runtime
        { result := .ok
          runtime :=
            (automationEventHandler around
              { type := .stateChange
                source := request.candidate.input
                data := current }
              (runtime.storing request.candidate room outcome)).1
          dispatches :=
            (automationEventHandler around
              { type := .stateChange
                source := request.candidate.input
                data := current }
              (runtime.storing request.candidate room outcome)).2 }

theorem automationEngineAddRule_ends
    (around : Surroundings) (request : RuleRequest) (outcome : NvsOutcome)
    (runtime : Runtime) :
    AddedRule.Ends around request outcome runtime
      (automationEngineAddRule around request outcome runtime) := by
  unfold automationEngineAddRule
  by_cases valid : request.valid around = true
  · rw [if_neg (by simp [valid])]
    cases clashes :
        findClash request.candidate runtime.automation.rules with
    | some result => exact .clash valid clashes
    | none =>
        by_cases room :
            runtime.automation.rules.length < automationEngineMaxNodes
        · simp only [dif_pos room]
          cases isCurrent :
              stateGetInt runtime.store
                request.input.toUInt32.toUInt16 with
          | none => exact .stored valid clashes room isCurrent
          | some current => exact .replayed valid clashes room isCurrent
        · simp only [dif_neg room]
          exact .full valid clashes room
  · rw [if_pos (by simp [valid])]
    exact .invalid valid

/-- The index names a stored rule. -/
def AutomationStore.HasIndex (automation : AutomationStore) (index : Int32) : Prop :=
  0 ≤ index ∧ index.toInt < automation.rules.length

instance (automation : AutomationStore) (index : Int32) :
    Decidable (automation.HasIndex index) :=
  inferInstanceAs (Decidable (_ ∧ _))

/-- `automation_engine_remove_node_at`, without the flag it returns. -/
def automationEngineRemoveNodeAt
    (index : Int32) (outcome : NvsOutcome) (automation : AutomationStore) :
    AutomationStore :=
  if automation.HasIndex index then
    automationPersist outcome
      { automation with
        rules := automation.rules.eraseIdx index.toInt.toNat
        fits := Nat.le_trans (List.length_eraseIdx_le _ _) automation.fits }
  else automation

/-- `automation_engine_set_interlock_at`, without the flag it returns. -/
def automationEngineSetInterlockAt
    (index : Int32) (interlock : Option AutomationInterlock)
    (outcome : NvsOutcome) (automation : AutomationStore) : AutomationStore :=
  if automation.HasIndex index then
    automationPersist outcome
      { automation with
        rules :=
          automation.rules.modify index.toInt.toNat fun rule =>
            { rule with interlock := interlock.getD .zero }
        fits := by
          rw [List.length_modify]
          exact automation.fits }
  else automation

def automationEngineClear (outcome : NvsOutcome) (automation : AutomationStore) :
    AutomationStore :=
  automationPersist outcome
    { automation with rules := [], fits := Nat.zero_le _ }

/-! ## Commands of other nodes -/

structure ProtocolOutputCommand where
  targetNode : UInt32
  requesterNode : UInt32
  outputId : UInt16
  value : Int32
deriving DecidableEq

/-- The checks of `automation_handle_output_command` before the guard. -/
def ProtocolOutputCommand.accepted
    (command : ProtocolOutputCommand) (around : Surroundings) : Bool :=
  !(decide (around.metricsSelfNode = 0) ||
      decide (command.targetNode ≠ around.metricsSelfNode)) &&
    !(decide (command.requesterNode ≠ 0) &&
        decide (command.requesterNode ≠ around.metricsSelfNode) &&
        !around.nodeRegistryIsKnown command.requesterNode) &&
    around.isValidOutput command.outputId

def automationHandleOutputCommand
    (around : Surroundings) (command : ProtocolOutputCommand)
    (runtime : Runtime) : Runtime :=
  if command.accepted around then
    let guarded :=
      failsafeGuardCommand runtime.failsafe command.outputId command.value
    if guarded.1.allowed then
      { runtime with
        failsafe := guarded.2
        store :=
          stateSetInt runtime.store command.outputId
            (guarded.1.effectiveValue.getD command.value) }
    else { runtime with failsafe := guarded.2 }
  else runtime

/-- One message taken from the queue by `automation_dispatcher_task`. -/
def automationDispatcherTask (automation : AutomationStore) : AutomationStore :=
  { automation with
    remoteQueue :=
      automation.remoteQueue.map fun queue =>
        { commands := queue.commands.tail
          fits := by
            rw [List.length_tail]
            exact Nat.le_trans (Nat.sub_le _ _) queue.fits } }

/-! ## Calls -/

/-- One call of the runtime, with what it reads of the surroundings. -/
inductive Call where
  | event (around : Surroundings) (event : EndapEvent)
  | tick (around : Surroundings)
  | addRule
      (around : Surroundings) (request : RuleRequest)
      (outcome : NvsOutcome)
  | removeNodeAt (index : Int32) (outcome : NvsOutcome)
  | setInterlockAt
      (index : Int32) (interlock : Option AutomationInterlock)
      (outcome : NvsOutcome)
  | clear (outcome : NvsOutcome)
  | outputCommand (around : Surroundings) (command : ProtocolOutputCommand)
  | dispatcherTask
  | applyForReasonAll (reason : FailsafeReason)
  | setOutputPolicy (request : PolicyRequest) (outcome : NvsOutcome)
  | clearManualReset (outputId : UInt16)
  | startupValue (outputId : UInt16) (restoredValue : Int32)
  | stateWrite (id : UInt16) (value : Int32)

/-- The runtime with another automation store; nothing is dispatched. -/
def Runtime.withAutomation
    (runtime : Runtime) (automation : AutomationStore) :
    Runtime × List Dispatch :=
  ({ runtime with automation := automation }, [])

/-- The runtime with another fail-safe table; nothing is dispatched. -/
def Runtime.withFailsafe
    (runtime : Runtime) (failsafe : FailsafeTable) :
    Runtime × List Dispatch :=
  ({ runtime with failsafe := failsafe }, [])

/-- The effect of one call and the dispatches it makes. -/
def Runtime.call (runtime : Runtime) : Call → Runtime × List Dispatch
  | .event around event => automationEventHandler around event runtime
  | .tick around => automationEngineTick1ms around runtime
  | .addRule around request outcome =>
      let added := automationEngineAddRule around request outcome runtime
      (added.runtime, added.dispatches)
  | .removeNodeAt index outcome =>
      runtime.withAutomation
        (automationEngineRemoveNodeAt index outcome runtime.automation)
  | .setInterlockAt index interlock outcome =>
      runtime.withAutomation
        (automationEngineSetInterlockAt index interlock outcome
          runtime.automation)
  | .clear outcome =>
      runtime.withAutomation (automationEngineClear outcome runtime.automation)
  | .outputCommand around command =>
      (automationHandleOutputCommand around command runtime, [])
  | .dispatcherTask =>
      runtime.withAutomation (automationDispatcherTask runtime.automation)
  | .applyForReasonAll reason =>
      let applied :=
        failsafeApplyForReasonAll runtime.failsafe runtime.store reason
      ({ runtime with failsafe := applied.1, store := applied.2 }, [])
  | .setOutputPolicy request outcome =>
      runtime.withFailsafe
        (failsafeSetOutputPolicy runtime.failsafe request outcome).2
  | .clearManualReset outputId =>
      runtime.withFailsafe
        (failsafeClearManualReset runtime.failsafe outputId).2
  | .startupValue outputId restoredValue =>
      runtime.withFailsafe
        (failsafeStartupValue runtime.failsafe outputId restoredValue).2
  | .stateWrite id value =>
      ({ runtime with store := stateSetInt runtime.store id value }, [])

end Endap.Automation
