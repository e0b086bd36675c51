import Endap.State.Store

/-!
# Automation rules

A rule watches one input and drives one output.  Its condition compares the
input with a threshold; its mode says what happens when the condition changes
or holds.  An interlock of at most two conditions on other channels permits
or forbids that the rule acts.

Operators and modes are stored as bytes.  The switches of the engine give a
byte without a meaning a default of their own, so decoding is partial here.
-/

namespace Endap.Automation

open Endap.State

/-! ## Operators and modes -/

inductive AutomationOperator where
  | gt
  | ge
  | eq
  | ne
  | le
  | lt

/-- The operator stored as a byte. -/
def AutomationOperator.ofCode (code : UInt8) : Option AutomationOperator :=
  if code = 0 then some .gt
  else if code = 1 then some .ge
  else if code = 2 then some .eq
  else if code = 3 then some .ne
  else if code = 4 then some .le
  else if code = 5 then some .lt
  else none

/-- The comparison an operator stands for. -/
def AutomationOperator.compare
    (operator : AutomationOperator) (value reference : Int32) : Bool :=
  match operator with
  | .gt => reference < value
  | .ge => reference ≤ value
  | .eq => value = reference
  | .ne => value ≠ reference
  | .le => value ≤ reference
  | .lt => value < reference

def automationOpMax : UInt8 := 6

inductive AutomationMode where
  | follow
  | pulseMs
  | onDelayMs
  | offDelayMs
  | toggle
  | forceOn
  | forceOff
deriving DecidableEq

/-- The mode stored as a byte. -/
def AutomationMode.ofCode (code : UInt8) : Option AutomationMode :=
  if code = 0 then some .follow
  else if code = 1 then some .pulseMs
  else if code = 2 then some .onDelayMs
  else if code = 3 then some .offDelayMs
  else if code = 4 then some .toggle
  else if code = 5 then some .forceOn
  else if code = 6 then some .forceOff
  else none

/-- The byte of a mode. -/
def AutomationMode.code : AutomationMode → UInt8
  | .follow => 0
  | .pulseMs => 1
  | .onDelayMs => 2
  | .offDelayMs => 3
  | .toggle => 4
  | .forceOn => 5
  | .forceOff => 6

def automationModeMax : UInt8 := 7

/-! ## Rules -/

structure AutomationNode where
  input : UInt16
  output : UInt16
  threshold : Int32
  op : UInt8
  mode : UInt8
  durationMs : UInt16
  onTrue : Int8
  onFalse : Int8
deriving DecidableEq

structure AutomationCondition where
  channel : UInt16
  op : UInt8
  targetVal : Int8
deriving DecidableEq

def automationMaxInterlockCond : Nat := 2

/-- `automation_interlock_t`, with as many conditions as it has room for. -/
structure AutomationInterlock where
  enabled : UInt8
  logicOp : UInt8
  condCount : UInt8
  reserved : UInt8
  conditions : Vector AutomationCondition automationMaxInterlockCond
  condCountFits : condCount.toNat ≤ automationMaxInterlockCond
deriving DecidableEq

/-- The interlock that `memset` leaves. -/
def AutomationInterlock.zero : AutomationInterlock where
  enabled := 0
  logicOp := 0
  condCount := 0
  reserved := 0
  conditions := Vector.replicate _ { channel := 0, op := 0, targetVal := 0 }
  condCountFits := Nat.zero_le _

structure AutomationRuntime where
  condition : Bool
  timerActive : Bool
  pulseActive : Bool
  latchedTrue : Bool
  deadlineMs : UInt32
deriving DecidableEq

/-- The runtime record that `memset` leaves. -/
def AutomationRuntime.zero : AutomationRuntime where
  condition := false
  timerActive := false
  pulseActive := false
  latchedTrue := false
  deadlineMs := 0

inductive AutomationActionResult where
  | idle
  | appliedLocal
  | dispatchedRemote
  | dispatchFailed
  | remoteOwnerOffline
  | targetUnresolved
  | blockedFailsafe
deriving DecidableEq

structure AutomationRuleDiag where
  lastTriggerMs : UInt32
  lastEvalMs : UInt32
  lastActionMs : UInt32
  lastCondition : Bool
  lastActionValue : Bool
  lastActionResult : AutomationActionResult
  lastTargetLocal : Bool
  lastTargetOwner : UInt32
  lastTargetOriginalOwner : UInt32
deriving DecidableEq

/-- The diagnostics that `memset` leaves. -/
def AutomationRuleDiag.zero : AutomationRuleDiag where
  lastTriggerMs := 0
  lastEvalMs := 0
  lastActionMs := 0
  lastCondition := false
  lastActionValue := false
  lastActionResult := .idle
  lastTargetLocal := false
  lastTargetOwner := 0
  lastTargetOriginalOwner := 0

/-- What the four arrays of the engine hold at one index. -/
structure AutomationRule where
  node : AutomationNode
  interlock : AutomationInterlock
  runtime : AutomationRuntime
  diag : AutomationRuleDiag
deriving DecidableEq

/-- A rule as `automation_engine_add_rule` stores it. -/
def AutomationRule.fresh (node : AutomationNode) : AutomationRule where
  node := node
  interlock := .zero
  runtime := .zero
  diag := .zero

/-! ## Evaluation -/

def automationEvalRule (node : AutomationNode) (value : Int32) : Bool :=
  match AutomationOperator.ofCode node.op with
  | some operator => operator.compare value node.threshold
  | none => false

/-- `automation_eval_condition`; an unknown operator compares for equality. -/
def automationEvalCondition
    (store : StateStore) (condition : AutomationCondition) : Bool :=
  match stateGetInt store condition.channel with
  | none => false
  | some value =>
      match AutomationOperator.ofCode condition.op with
      | some operator => operator.compare value condition.targetVal.toInt32
      | none => value = condition.targetVal.toInt32

def automationEvalInterlock
    (store : StateStore) (interlock : AutomationInterlock) : Bool :=
  if interlock.enabled = 0 ∨ interlock.condCount = 0 then true
  else if interlock.condCount = 1 then
    automationEvalCondition store (interlock.conditions.get (0 : Fin 2))
  else
    let first :=
      automationEvalCondition store (interlock.conditions.get (0 : Fin 2))
    let second :=
      automationEvalCondition store (interlock.conditions.get (1 : Fin 2))
    if interlock.logicOp = 1 then first || second else first && second

/-- The scan of the continuous guard for the channel that changed. -/
def AutomationInterlock.watches
    (interlock : AutomationInterlock) (channel : UInt16) : Bool :=
  (interlock.conditions.toList.take interlock.condCount.toNat).any
    fun condition => condition.channel = channel

def automationDeadlineAfter (tickMs : UInt32) (durationMs : UInt16) :
    UInt32 :=
  tickMs + durationMs.toUInt32

/-- `automation_time_reached`, which compares across the wrap of the
counter. -/
def automationTimeReached (tickMs deadlineMs : UInt32) : Bool :=
  0 ≤ (tickMs - deadlineMs).toInt32

/-! ## Validation -/

def automationValidAction (value : Int32) : Bool := value = 0 || value = 1

def automationValidOperator (op : UInt8) : Bool := op < automationOpMax

def automationValidMode (mode : UInt8) : Bool := mode < automationModeMax

/-- The modes that measure a time. -/
def automationModeIsTimed (mode : UInt8) : Bool :=
  mode = AutomationMode.pulseMs.code ||
    mode = AutomationMode.onDelayMs.code ||
    mode = AutomationMode.offDelayMs.code

/-- `automation_rules_equal`, which compares every field. -/
def automationRulesEqual (left right : AutomationNode) : Bool := left = right

def automationModeIsForcePair (mode : UInt8) : Bool :=
  mode = AutomationMode.forceOn.code || mode = AutomationMode.forceOff.code

def automationRuleConflicts (existing candidate : AutomationNode) : Bool :=
  if existing.output ≠ candidate.output ||
      automationRulesEqual existing candidate then
    false
  else if automationModeIsForcePair existing.mode &&
      automationModeIsForcePair candidate.mode then
    existing.mode = candidate.mode
  else true

end Endap.Automation
