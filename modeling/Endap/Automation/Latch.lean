import Endap.Automation.Effects
import Endap.Automation.Runtime

/-!
# Automation and the fail-safe latch

While an output is latched, no rule and no command of another node moves it.
One dispatch for the latched output is refused by the guard; one for another
output changes neither the latch nor the value of the latched one.  Sweeps
carry both facts from visit to visit, so that events, ticks and the replay
after a new rule keep them, in any order.
-/

namespace Endap.Automation

open Endap.Cluster
open Endap.Failsafe
open Endap.Library
open Endap.State

/-- The output is latched and has the given value. -/
def Plant.HoldsLatched (output : UInt16) (value : Int32) (plant : Plant) :
    Prop :=
  Latched plant.failsafe output ∧ plant.store.intValues output = value

/-- The output is latched and has the given value. -/
def Runtime.HoldsLatched
    (output : UInt16) (value : Int32) (runtime : Runtime) : Prop :=
  Latched runtime.failsafe output ∧ runtime.store.intValues output = value

section

variable {latchedId : UInt16} {held : Int32}

theorem guarded_write_keeps
    {failsafe : FailsafeTable} (latched : Latched failsafe latchedId)
    (store : StateStore) {output : UInt16} {value : Int32}
    (allowed : (failsafeGuardCommand failsafe output value).1.allowed = true)
    (written : Int32) :
    (stateSetInt store output written).intValues latchedId =
      store.intValues latchedId := by
  apply stateSetInt_other
  rintro rfl
  rw [(failsafeGuardCommand_latched latched value).1] at allowed
  cases allowed

variable {plant : Plant}

theorem dispatchLocal_keeps
    (holds : plant.HoldsLatched latchedId held)
    (output : UInt16) (value : Int32) :
    (dispatchLocal plant output value).plant.HoldsLatched
      latchedId held := by
  have latched := failsafeGuardCommand_keeps_latched holds.1 output value
  rcases dispatchLocal_plant plant output value with
    refused | ⟨allowed, effectiveValue, written⟩
  · rw [refused]
    exact ⟨latched, holds.2⟩
  · rw [written]
    exact
      ⟨latched,
        (guarded_write_keeps holds.1 plant.store allowed _).trans holds.2⟩

theorem dispatchRemote_keeps
    (holds : plant.HoldsLatched latchedId held)
    (around : Surroundings) (output : UInt16) (value : Int32) :
    (dispatchRemote around plant output value).plant.HoldsLatched
      latchedId held := by
  rcases dispatchRemote_plant around plant output value with ⟨queue, same⟩
  rw [same]
  exact holds

theorem automationDispatchOutput_keeps
    (holds : plant.HoldsLatched latchedId held)
    (around : Surroundings) (purpose : Purpose) (value : Int32)
    (rule : AutomationRule) :
    (automationDispatchOutput around purpose value plant
      rule).1.HoldsLatched latchedId held := by
  rw [automationDispatchOutput]
  simp only
  split
  · apply dispatchLocal_keeps
    exact holds
  · apply dispatchRemote_keeps
    exact holds

theorem Effect.keeps
    {around : Surroundings} {after : Plant} {rule : AutomationRule}
    {allowed : Purpose → Prop}
    (effect : Effect around plant rule allowed after)
    (holds : plant.HoldsLatched latchedId held) :
    after.HoldsLatched latchedId held := by
  cases effect with
  | idle => exact holds
  | dispatch purpose value changed sameNode sameInterlock permitted =>
      exact automationDispatchOutput_keeps holds around purpose value changed

/-! ## Events, ticks and commands -/

variable {runtime : Runtime}

theorem Runtime.sweep_keeps
    (holds : runtime.HoldsLatched latchedId held)
    {visit : Plant → AutomationRule → Plant × AutomationRule}
    (kept :
      ∀ plant rule,
        plant.HoldsLatched latchedId held →
        (visit plant rule).1.HoldsLatched latchedId held) :
    (runtime.sweep visit).1.HoldsLatched latchedId held := by
  have started : runtime.plant.HoldsLatched latchedId held := holds
  exact
    Sweep.run_invariant (Plant.HoldsLatched latchedId held) kept started
      runtime.automation.rules

theorem automationEventHandler_keeps
    (holds : runtime.HoldsLatched latchedId held)
    (around : Surroundings) (event : EndapEvent) :
    (automationEventHandler around event runtime).1.HoldsLatched
      latchedId held := by
  rw [automationEventHandler]
  split
  · exact holds
  · apply Runtime.sweep_keeps
    · apply Runtime.sweep_keeps holds
      intro plant rule before
      exact (triggerVisit_effect _ event).keeps before
    · intro plant rule before
      exact (guardVisit_effect event).keeps before

theorem automationEngineTick1ms_keeps
    (holds : runtime.HoldsLatched latchedId held)
    (around : Surroundings) :
    (automationEngineTick1ms around runtime).1.HoldsLatched
      latchedId held := by
  have advanced : runtime.advance.HoldsLatched latchedId held := holds
  apply Runtime.sweep_keeps advanced
  intro plant rule before
  exact (tickVisit_anyEffect around _ plant rule).keeps before

theorem automationEngineAddRule_keeps
    (holds : runtime.HoldsLatched latchedId held)
    (around : Surroundings) (request : RuleRequest)
    (outcome : NvsOutcome) :
    (automationEngineAddRule around request outcome
      runtime).runtime.HoldsLatched latchedId held := by
  have ends := automationEngineAddRule_ends around request outcome runtime
  generalize automationEngineAddRule around request outcome runtime = added
    at ends
  cases ends with
  | replayed _ _ room =>
      have stored :
          (runtime.storing request.candidate room outcome).HoldsLatched
            latchedId held :=
        holds
      exact automationEventHandler_keeps stored around _
  | _ => exact holds

theorem automationHandleOutputCommand_keeps
    (holds : runtime.HoldsLatched latchedId held)
    (around : Surroundings) (command : ProtocolOutputCommand) :
    (automationHandleOutputCommand around command runtime).HoldsLatched
      latchedId held := by
  rw [automationHandleOutputCommand]
  split
  · simp only
    split
    · next allowed =>
        constructor
        · exact failsafeGuardCommand_keeps_latched holds.1 _ _
        · exact
            (guarded_write_keeps holds.1 runtime.store allowed _).trans holds.2
    · constructor
      · exact failsafeGuardCommand_keeps_latched holds.1 _ _
      · exact holds.2
  · exact holds

/-! ## Runs -/

/-- The calls that may change the value of a latched output. -/
inductive Call.Moves (output : UInt16) : Call → Prop
  | fault (reason : FailsafeReason) :
      Call.Moves output (.applyForReasonAll reason)
  | stateWrite (value : Int32) :
      Call.Moves output (.stateWrite output value)

theorem Runtime.call_keeps_latched_value
    {output : UInt16}
    (latched : Latched runtime.failsafe output)
    {call : Call} (other : ¬ call.Moves output) :
    (runtime.call call).1.store.intValues output =
      runtime.store.intValues output := by
  have holds : runtime.HoldsLatched output (runtime.store.intValues output) :=
    ⟨latched, rfl⟩
  cases call with
  | event around event =>
      exact (automationEventHandler_keeps holds around event).2
  | tick around => exact (automationEngineTick1ms_keeps holds around).2
  | addRule around request outcome =>
      exact (automationEngineAddRule_keeps holds around request outcome).2
  | outputCommand around command =>
      exact (automationHandleOutputCommand_keeps holds around command).2
  | applyForReasonAll reason => exact absurd (.fault reason) other
  | stateWrite id value =>
      apply stateSetInt_other
      rintro rfl
      exact other (.stateWrite value)
  | _ => rfl

end

/--
Along every run, a latched output changes its value only in a call that
applies the fail-safe policies, or when another component writes it.
-/
theorem automation_respects_latch
    (start : Runtime) (calls : List Call) (output : UInt16) :
    ∀ transition ∈ Run.history Runtime.call start calls,
      Latched transition.before.failsafe output →
      transition.after.store.intValues output ≠
          transition.before.store.intValues output →
        transition.action.Moves output := by
  intro transition member latched changed
  have isCall := Run.eq_call_of_mem_history member
  by_contra other
  apply changed
  rw [isCall]
  exact Runtime.call_keeps_latched_value latched other

/-! ## A latched output -/

def followsInput : AutomationNode where
  input := 10
  output := 100
  threshold := 0
  op := 0
  mode := AutomationMode.follow.code
  durationMs := 0
  onTrue := 1
  onFalse := 0

def latchedRuntime : Runtime where
  automation :=
    { rules := [AutomationRule.fresh followsInput]
      tickMs := 0
      persistedConfig := false
      savedRules := none
      remoteQueue := none
      fits := Nat.succ_le_succ (Nat.zero_le _) }
  failsafe := FailsafeTable.switchOff 100 1
  store := stateSetInt stateInit 100 1

def surroundings : Surroundings where
  clusterIo := clusterIoInit 7
  metricsSelfNode := 7
  clusterNodes := []
  nodeRegistryIsKnown := fun _ => true
  isValidInput := fun id => id = 10
  isValidOutput := fun id => id = 100
  scaledValue := fun _ => 0
  nowMs := 0

def inputOff : Call :=
  .event surroundings { type := .stateChange, source := 10, data := 0 }

def remoteOff : Call :=
  .outputCommand surroundings
    { targetNode := 7, requesterNode := 9, outputId := 100, value := 0 }

/--
The rule and the remote command are refused, then a runtime fault switches
off.
-/
theorem automation_respects_latch_refusedRule :
    (latchedRuntime.call inputOff).1.automation.rules.map
        (fun rule => rule.diag.lastActionResult) = [.blockedFailsafe] ∧
      ∃ transition ∈
          Run.history Runtime.call latchedRuntime
            [inputOff, remoteOff, .applyForReasonAll .runtimeFault],
        Latched transition.before.failsafe 100 ∧
        transition.before.store.intValues 100 = 1 ∧
        transition.after.store.intValues 100 = 0 ∧
        transition.action.Moves 100 := by
  have member :=
    Run.call_mem_history Runtime.call latchedRuntime [inputOff, remoteOff]
      (.applyForReasonAll .runtimeFault) []
  have latched :
      Latched
        (Run.final Runtime.call latchedRuntime [inputOff, remoteOff]).failsafe
          100 := by
    decide +kernel
  refine
    ⟨by decide +kernel, _, member, latched, by decide +kernel,
      by decide +kernel, ?_⟩
  exact
    automation_respects_latch latchedRuntime _ 100 _ member latched
      (by decide +kernel)

end Endap.Automation
