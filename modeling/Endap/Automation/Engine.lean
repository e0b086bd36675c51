import Endap.Automation.Rules
import Endap.Cluster.Io
import Endap.Failsafe.Policy
import Endap.Library.Sweep

/-!
# The automation engine

A state-change event evaluates the rules of its source, then the interlocks
that watch it; a tick of one millisecond lets timers expire.  Both walk over
the rules in order, and every action they take goes through
`automation_dispatch_output`, which drives a local output through the
fail-safe guard and sends a command to the owner of any other output.

What a walk changes besides the rule at hand is the `Plant`.  It records the
dispatches with the state table of their moment; the engine never reads this
record.
-/

namespace Endap.Automation

open Endap.Cluster
open Endap.Failsafe
open Endap.Library
open Endap.State

def automationEngineMaxNodes : Nat := 16

/-- The length of `automation_remote_queue`. -/
def automationRemoteQueueLength : Nat := 16

structure AutomationRemoteCmd where
  targetNode : UInt32
  requesterNode : UInt32
  outputId : UInt16
  value : Int32

/-- The queue of the dispatcher task. -/
structure AutomationRemoteQueue where
  commands : List AutomationRemoteCmd
  fits : commands.length ≤ automationRemoteQueueLength

/-- `xQueueSend` without waiting; `none` when the queue is full. -/
def AutomationRemoteQueue.send
    (queue : AutomationRemoteQueue) (command : AutomationRemoteCmd) :
    Option AutomationRemoteQueue :=
  if room : queue.commands.length < automationRemoteQueueLength then
    some
      { commands := queue.commands ++ [command]
        fits := by
          rw [List.length_append]
          exact room }
  else none

/-- What one call of the engine reads of the other components. -/
structure Surroundings where
  clusterIo : ClusterIo
  metricsSelfNode : UInt32
  clusterNodes : List ClusterNode
  nodeRegistryIsKnown : UInt32 → Bool
  isValidInput : UInt16 → Bool
  isValidOutput : UInt16 → Bool
  scaledValue : UInt16 → Int32
  nowMs : UInt32

/-- `pve_bindings`: state identifiers with their process variable. -/
def pveBindings : List (UInt16 × UInt16) :=
  [(12, 0), (13, 1), (14, 2), (15, 3), (16, 4)]

def maxPveVariables : UInt16 := 7

def pveGetScaledValue
    (scaledValue : UInt16 → Int32) (stateId : UInt16) (fallback : Int32) :
    Int32 :=
  let bound :=
    pveBindings.find? fun binding =>
      binding.1 = stateId ∧ binding.2 < maxPveVariables
  match bound with
  | some binding => scaledValue binding.2
  | none => fallback

def automationOwnerState (around : Surroundings) (nodeId : UInt32) :
    ClusterNodeState :=
  if nodeId = 0 then .offline
  else
    match around.clusterNodes.find? fun node => node.nodeId = nodeId with
    | some node => node.state
    | none => .offline

/-! ## Diagnostics -/

def automationDiagMarkEval
    (diag : AutomationRuleDiag) (conditionNow : Bool) (triggerMs : UInt32) :
    AutomationRuleDiag :=
  { diag with
    lastTriggerMs := triggerMs
    lastEvalMs := triggerMs
    lastCondition := conditionNow }

def automationDiagMarkAction
    (around : Surroundings) (output : UInt16) (diag : AutomationRuleDiag)
    (value : Int32) (result : AutomationActionResult)
    (targetLocal : Bool) : AutomationRuleDiag :=
  { diag with
    lastActionMs := around.nowMs
    lastActionValue := value ≠ 0
    lastActionResult := result
    lastTargetLocal := targetLocal
    lastTargetOwner := clusterIoGetOwner around.clusterIo output.toUInt32
    lastTargetOriginalOwner :=
      clusterIoGetOriginalOwner around.clusterIo output.toUInt32 }

/-! ## Dispatch -/

/-- Why a rule dispatches its output. -/
inductive Purpose where
  | apply (conditionTrue : Bool)
  | toggle
  | forceOn
  | forceOff
  | interlockLost

/-- The record of one call of `automation_dispatch_output`. -/
structure Dispatch where
  purpose : Purpose
  node : AutomationNode
  interlock : AutomationInterlock
  value : Int32
  store : StateStore

/-- What an action of a rule reaches besides the rule. -/
structure Plant where
  store : StateStore
  failsafe : FailsafeTable
  remoteQueue : Option AutomationRemoteQueue
  dispatches : List Dispatch

/-- The plant after a dispatch, with what the diagnostics say of it. -/
structure Dispatched where
  plant : Plant
  value : Int32
  result : AutomationActionResult
  targetLocal : Bool

/-- The branch of `automation_dispatch_output` for a local output. -/
def dispatchLocal (plant : Plant) (output : UInt16) (value : Int32) :
    Dispatched :=
  let guarded := failsafeGuardCommand plant.failsafe output value
  if guarded.1.allowed then
    let effectiveValue := guarded.1.effectiveValue.getD value
    { plant :=
        { plant with
          failsafe := guarded.2
          store := stateSetInt plant.store output effectiveValue }
      value := effectiveValue
      result := .appliedLocal
      targetLocal := true }
  else
    { plant := { plant with failsafe := guarded.2 }
      value := value
      result := .blockedFailsafe
      targetLocal := true }

/-- The branches of `automation_dispatch_output` for a remote output. -/
def dispatchRemote
    (around : Surroundings) (plant : Plant) (output : UInt16)
    (value : Int32) : Dispatched :=
  let owner := clusterIoGetOwner around.clusterIo output.toUInt32
  let ends (plant : Plant) (result : AutomationActionResult) : Dispatched :=
    { plant := plant, value := value, result := result, targetLocal := false }
  if around.metricsSelfNode = 0 ∨ owner = 0 then
    ends plant .targetUnresolved
  else if automationOwnerState around owner = .offline then
    ends plant .remoteOwnerOffline
  else
    match plant.remoteQueue with
    | none => ends plant .dispatchFailed
    | some queue =>
        let command : AutomationRemoteCmd :=
          { targetNode := owner
            requesterNode := around.metricsSelfNode
            outputId := output
            value := value }
        match queue.send command with
        | none => ends plant .dispatchFailed
        | some longer =>
            ends { plant with remoteQueue := some longer } .dispatchedRemote

/-- `automation_dispatch_output`, with the purpose for the record. -/
def automationDispatchOutput
    (around : Surroundings) (purpose : Purpose) (value : Int32)
    (plant : Plant) (rule : AutomationRule) : Plant × AutomationRule :=
  let output := rule.node.output
  let recorded :=
    { plant with
      dispatches :=
        plant.dispatches ++
          [{ purpose := purpose
             node := rule.node
             interlock := rule.interlock
             value := value
             store := plant.store }] }
  let dispatched :=
    if clusterIoIsLocal around.clusterIo output.toUInt32 then
      dispatchLocal recorded output value
    else dispatchRemote around recorded output value
  (dispatched.plant,
    { rule with
      diag :=
        automationDiagMarkAction around output rule.diag dispatched.value
          dispatched.result dispatched.targetLocal })

def automationApplyOutput
    (around : Surroundings) (conditionTrue : Bool)
    (plant : Plant) (rule : AutomationRule) : Plant × AutomationRule :=
  automationDispatchOutput around (.apply conditionTrue)
    (if conditionTrue then rule.node.onTrue.toInt32
      else rule.node.onFalse.toInt32)
    plant rule

def automationToggleOutput
    (around : Surroundings) (plant : Plant) (rule : AutomationRule) :
    Plant × AutomationRule :=
  automationDispatchOutput around .toggle
    (if stateValue plant.store rule.node.output ≠ 0 then 0 else 1)
    plant rule

/-! ## Events -/

/-- The condition of a rule, for an event of its input. -/
def conditionHolds
    (around : Surroundings) (event : EndapEvent) (node : AutomationNode) :
    Bool :=
  automationEvalRule node
    (pveGetScaledValue around.scaledValue event.source event.data)

/-- The rule with its runtime record changed. -/
def AutomationRule.withRuntime
    (rule : AutomationRule)
    (change : AutomationRuntime → AutomationRuntime) : AutomationRule :=
  { rule with runtime := change rule.runtime }

/-- The switch over the modes in the trigger loop. -/
def triggerMode
    (around : Surroundings) (tickMs : UInt32)
    (conditionNow risingEdge : Bool)
    (plant : Plant) (rule : AutomationRule) : Plant × AutomationRule :=
  match AutomationMode.ofCode rule.node.mode with
  | some .follow =>
      let applied := automationApplyOutput around conditionNow plant rule
      (applied.1,
        applied.2.withRuntime fun runtime =>
          { runtime with
            timerActive := false
            pulseActive := false
            latchedTrue := conditionNow })
  | some .pulseMs =>
      if risingEdge then
        let applied := automationApplyOutput around true plant rule
        (applied.1,
          applied.2.withRuntime fun runtime =>
            { runtime with
              pulseActive := true
              timerActive := true
              deadlineMs :=
                automationDeadlineAfter tickMs rule.node.durationMs })
      else (plant, rule)
  | some .onDelayMs =>
      if conditionNow then
        automationApplyOutput around false plant
          (rule.withRuntime fun runtime =>
            { runtime with
              latchedTrue := false
              timerActive := true
              deadlineMs :=
                automationDeadlineAfter tickMs rule.node.durationMs })
      else
        automationApplyOutput around false plant
          (rule.withRuntime fun runtime =>
            { runtime with timerActive := false, latchedTrue := false })
  | some .offDelayMs =>
      if conditionNow then
        automationApplyOutput around true plant
          (rule.withRuntime fun runtime =>
            { runtime with timerActive := false, latchedTrue := true })
      else
        (plant,
          rule.withRuntime fun runtime =>
            { runtime with
              timerActive := true
              deadlineMs :=
                automationDeadlineAfter tickMs rule.node.durationMs })
  | some .toggle =>
      if risingEdge then automationToggleOutput around plant rule
      else (plant, rule)
  | some .forceOn =>
      if risingEdge then
        automationDispatchOutput around .forceOn 1 plant rule
      else (plant, rule)
  | some .forceOff =>
      if risingEdge then
        automationDispatchOutput around .forceOff 0 plant rule
      else (plant, rule)
  | none => (plant, rule)

/-- The rule after the trigger loop has evaluated its condition. -/
def AutomationRule.evaluated
    (rule : AutomationRule) (conditionNow : Bool) (triggerMs : UInt32) :
    AutomationRule :=
  { rule with
    runtime := { rule.runtime with condition := conditionNow }
    diag := automationDiagMarkEval rule.diag conditionNow triggerMs }

/-- The trigger loop of `automation_event_handler` at one rule. -/
def triggerVisit
    (around : Surroundings) (tickMs : UInt32) (event : EndapEvent)
    (plant : Plant) (rule : AutomationRule) : Plant × AutomationRule :=
  if rule.node.input ≠ event.source then (plant, rule)
  else
    let evalVal := pveGetScaledValue around.scaledValue event.source event.data
    let conditionNow := automationEvalRule rule.node evalVal
    let risingEdge := conditionNow && !rule.runtime.condition
    let evaluated := rule.evaluated conditionNow around.nowMs
    if (conditionNow || risingEdge) &&
        !automationEvalInterlock plant.store rule.interlock then
      (plant,
        { evaluated with
          diag :=
            automationDiagMarkAction around rule.node.output evaluated.diag
              rule.node.onTrue.toInt32 .blockedFailsafe
              (clusterIoIsLocal around.clusterIo rule.node.output.toUInt32) })
    else triggerMode around tickMs conditionNow risingEdge plant evaluated

/-- The continuous guard of `automation_event_handler` at one rule. -/
def guardVisit
    (around : Surroundings) (event : EndapEvent)
    (plant : Plant) (rule : AutomationRule) : Plant × AutomationRule :=
  if rule.interlock.enabled = 0 ∨ rule.interlock.condCount = 0 then
    (plant, rule)
  else if rule.interlock.watches event.source &&
      decide (stateValue plant.store rule.node.output ≠ 0) &&
      !automationEvalInterlock plant.store rule.interlock then
    automationDispatchOutput around .interlockLost
      rule.node.onFalse.toInt32 plant
      (rule.withRuntime fun runtime =>
        { runtime with
          timerActive := false
          pulseActive := false
          latchedTrue := false })
  else (plant, rule)

/-- The loop of `automation_engine_tick_1ms` at one rule. -/
def tickVisit
    (around : Surroundings) (tickMs : UInt32)
    (plant : Plant) (rule : AutomationRule) : Plant × AutomationRule :=
  if !rule.runtime.timerActive then (plant, rule)
  else if !automationTimeReached tickMs rule.runtime.deadlineMs then
    (plant, rule)
  else
    let expired :=
      rule.withRuntime fun runtime => { runtime with timerActive := false }
    match AutomationMode.ofCode rule.node.mode with
    | some .pulseMs =>
        if rule.runtime.pulseActive then
          automationApplyOutput around false plant
            (expired.withRuntime fun runtime =>
              { runtime with pulseActive := false })
        else (plant, expired)
    | some .onDelayMs =>
        if rule.runtime.condition then
          automationApplyOutput around true plant
            (expired.withRuntime fun runtime =>
              { runtime with latchedTrue := true })
        else (plant, expired)
    | some .offDelayMs =>
        if !rule.runtime.condition then
          automationApplyOutput around false plant
            (expired.withRuntime fun runtime =>
              { runtime with latchedTrue := false })
        else (plant, expired)
    | _ => (plant, expired)

end Endap.Automation
