import Endap.Automation.Effects
import Endap.Automation.Runtime

/-!
# Automation and the interlocks

A rule that switches its output on should do so only while its interlock
permits it.  The trigger loop asks the interlock first, and the continuous
guard never switches on.  The tick loop does not ask: a delayed rule whose
timer was started with permission switches on when the delay ends, also when
the permission has gone in the meantime.

The main theorem says that this is the only way: a run respects the
interlocks exactly when no visit of a tick loop finds a delayed rule that is
due without permission.
-/

namespace Endap.Automation

open Endap.Cluster
open Endap.Failsafe
open Endap.Library
open Endap.State

/-- An energising action was dispatched without permission. -/
def Dispatch.Forbidden (dispatch : Dispatch) : Prop :=
  dispatch.purpose.energises = true ∧
  automationEvalInterlock dispatch.store dispatch.interlock = false

/-- One of the dispatches was forbidden. -/
def AnyForbidden (dispatches : List Dispatch) : Prop :=
  ∃ dispatch ∈ dispatches, dispatch.Forbidden

theorem anyForbidden_append (first second : List Dispatch) :
    AnyForbidden (first ++ second) ↔
    AnyForbidden first ∨ AnyForbidden second := by
  simp only [AnyForbidden, List.mem_append, or_and_right, exists_or]

theorem not_anyForbidden_nil : ¬ AnyForbidden [] := by
  rintro ⟨dispatch, member, -⟩
  cases member

/-! ## One dispatch -/

theorem dispatchLocal_dispatches
    (plant : Plant) (output : UInt16) (value : Int32) :
    (dispatchLocal plant output value).plant.dispatches =
      plant.dispatches := by
  rcases dispatchLocal_plant plant output value with
    refused | ⟨_, _, written⟩
  · rw [refused]
  · rw [written]

theorem dispatchRemote_dispatches
    (around : Surroundings) (plant : Plant) (output : UInt16)
    (value : Int32) :
    (dispatchRemote around plant output value).plant.dispatches =
      plant.dispatches := by
  rcases dispatchRemote_plant around plant output value with ⟨_, same⟩
  rw [same]

theorem automationDispatchOutput_dispatches
    (around : Surroundings) (purpose : Purpose) (value : Int32)
    (plant : Plant) (rule : AutomationRule) :
    (automationDispatchOutput around purpose value plant rule).1.dispatches =
      plant.dispatches ++
        [{ purpose := purpose
           node := rule.node
           interlock := rule.interlock
           value := value
           store := plant.store }] := by
  rw [automationDispatchOutput]
  simp only
  split
  · rw [dispatchLocal_dispatches]
  · rw [dispatchRemote_dispatches]

theorem automationDispatchOutput_anyForbidden
    (around : Surroundings) (purpose : Purpose) (value : Int32)
    (plant : Plant) (rule : AutomationRule) :
    AnyForbidden
        (automationDispatchOutput around purpose value plant
          rule).1.dispatches ↔
    AnyForbidden plant.dispatches ∨
    purpose.energises = true ∧
    automationEvalInterlock plant.store rule.interlock = false := by
  rw [automationDispatchOutput_dispatches, anyForbidden_append]
  simp [AnyForbidden, Dispatch.Forbidden]

theorem Effect.anyForbidden
    {around : Surroundings} {plant after : Plant} {rule : AutomationRule}
    {allowed : Purpose → Prop}
    (effect : Effect around plant rule allowed after)
    (permission :
      ∀ purpose,
        allowed purpose → purpose.energises = true →
        automationEvalInterlock plant.store rule.interlock = true) :
    AnyForbidden after.dispatches ↔ AnyForbidden plant.dispatches := by
  cases effect with
  | idle => exact Iff.rfl
  | dispatch purpose value changed sameNode sameInterlock permitted =>
      rw [automationDispatchOutput_anyForbidden, sameInterlock]
      constructor
      · rintro (before | ⟨energises, forbidden⟩)
        · exact before
        · rw [permission purpose permitted energises] at forbidden
          cases forbidden
      · exact Or.inl

/-! ## One visit of the tick loop -/

/-- A visit finds a delayed rule that is due without permission. -/
def ExpiresForbidden (tickMs : UInt32) (found : Plant × AutomationRule) :
    Prop :=
  OnDelayExpires tickMs found.2 ∧
  automationEvalInterlock found.1.store found.2.interlock = false

theorem tickVisit_anyForbidden
    (around : Surroundings) (tickMs : UInt32) (plant : Plant)
    (rule : AutomationRule) :
    AnyForbidden (tickVisit around tickMs plant rule).1.dispatches ↔
    AnyForbidden plant.dispatches ∨
    ExpiresForbidden tickMs (plant, rule) := by
  by_cases expires : OnDelayExpires tickMs rule
  · rcases tickVisit_onDelayExpires around plant expires with
      ⟨changed, -, sameInterlock, same⟩
    rw [same, automationApplyOutput, automationDispatchOutput_anyForbidden,
      sameInterlock]
    apply or_congr_right
    constructor
    · rintro ⟨-, forbidden⟩
      exact ⟨expires, forbidden⟩
    · rintro ⟨-, forbidden⟩
      exact ⟨rfl, forbidden⟩
  · rw [(tickVisit_effect around plant expires).anyForbidden]
    · constructor
      · exact Or.inl
      · rintro (before | ⟨switchesOn, -⟩)
        · exact before
        · exact absurd switchesOn expires
    · rintro purpose rfl energises
      cases energises

/-! ## One call -/

/-- A tick finds no delayed rule that is due without permission. -/
def Runtime.TickPermitted (runtime : Runtime) (around : Surroundings) :
    Prop :=
  ∀ found ∈
      Sweep.visits (tickVisit around runtime.advance.automation.tickMs)
        runtime.advance.plant runtime.advance.automation.rules,
    ¬ ExpiresForbidden runtime.advance.automation.tickMs found

theorem automationEngineTick1ms_anyForbidden
    (around : Surroundings) (runtime : Runtime) :
    AnyForbidden (automationEngineTick1ms around runtime).2 ↔
    ¬ runtime.TickPermitted around := by
  have swept :=
    Sweep.run_iff (fun plant => AnyForbidden plant.dispatches) _
      (tickVisit_anyForbidden around runtime.advance.automation.tickMs)
      runtime.advance.plant runtime.advance.automation.rules
  refine swept.trans ?_
  constructor
  · rintro (before | ⟨found, member, forbidden⟩) permitted
    · exact not_anyForbidden_nil before
    · exact permitted found member forbidden
  · intro notPermitted
    simpa [Runtime.TickPermitted] using Or.inr notPermitted

theorem Runtime.sweep_not_anyForbidden
    (runtime : Runtime)
    {visit : Plant → AutomationRule → Plant × AutomationRule}
    (visited :
      ∀ plant rule,
        AnyForbidden (visit plant rule).1.dispatches ↔
        AnyForbidden plant.dispatches) :
    ¬ AnyForbidden (runtime.sweep visit).2 := by
  have kept :
      ∀ plant rule,
        ¬ AnyForbidden plant.dispatches →
        ¬ AnyForbidden (visit plant rule).1.dispatches := by
    intro plant rule before after
    exact before ((visited plant rule).mp after)
  have started : ¬ AnyForbidden runtime.plant.dispatches := not_anyForbidden_nil
  exact
    Sweep.run_invariant
      (fun plant : Plant => ¬ AnyForbidden plant.dispatches) kept started
      runtime.automation.rules

theorem automationEventHandler_not_anyForbidden
    (around : Surroundings) (event : EndapEvent) (runtime : Runtime) :
    ¬ AnyForbidden (automationEventHandler around event runtime).2 := by
  rw [automationEventHandler]
  split
  · exact not_anyForbidden_nil
  · simp only [anyForbidden_append, not_or]
    constructor
    · apply Runtime.sweep_not_anyForbidden
      intro plant rule
      exact (triggerVisit_effect _ event).anyForbidden fun _ => id
    · apply Runtime.sweep_not_anyForbidden
      intro plant rule
      apply (guardVisit_effect event).anyForbidden
      rintro purpose rfl energises
      cases energises

theorem automationEngineAddRule_not_anyForbidden
    (around : Surroundings) (request : RuleRequest) (outcome : NvsOutcome)
    (runtime : Runtime) :
    ¬ AnyForbidden
      (automationEngineAddRule around request outcome
        runtime).dispatches := by
  have ends := automationEngineAddRule_ends around request outcome runtime
  generalize automationEngineAddRule around request outcome runtime = added
    at ends
  cases ends with
  | replayed => exact automationEventHandler_not_anyForbidden around _ _
  | _ => exact not_anyForbidden_nil

/-- A call dispatches something forbidden only as a tick, and then exactly
when it finds a delayed rule that is due without permission. -/
theorem Runtime.call_anyForbidden (runtime : Runtime) (call : Call) :
    AnyForbidden (runtime.call call).2 ↔
    ∃ around, call = .tick around ∧ ¬ runtime.TickPermitted around := by
  constructor
  · intro forbidden
    cases call with
    | event around event =>
        exact
          absurd forbidden
            (automationEventHandler_not_anyForbidden around event runtime)
    | tick around =>
        exact
          ⟨around, rfl,
            (automationEngineTick1ms_anyForbidden around runtime).mp forbidden⟩
    | addRule around request outcome =>
        exact
          absurd forbidden
            (automationEngineAddRule_not_anyForbidden around request
              outcome runtime)
    | _ => exact absurd forbidden not_anyForbidden_nil
  · rintro ⟨around, rfl, notPermitted⟩
    exact (automationEngineTick1ms_anyForbidden around runtime).mpr notPermitted

/-! ## Runs -/

/--
A run dispatches energising actions only with the permission of the rule's
interlock exactly when each of its ticks finds no delayed rule that is due
while its interlock forbids it.
-/
theorem interlocks_respected_iff (start : Runtime) (calls : List Call) :
    (∀ transition ∈ Run.history Runtime.call start calls,
        ∀ dispatch ∈ transition.output,
          dispatch.purpose.energises = true →
          automationEvalInterlock dispatch.store dispatch.interlock = true) ↔
      ∀ transition ∈ Run.history Runtime.call start calls,
        ∀ around,
          transition.action = .tick around →
          transition.before.TickPermitted around := by
  apply forall₂_congr
  intro transition member
  have isCall := Run.eq_call_of_mem_history member
  have cause := Runtime.call_anyForbidden transition.before transition.action
  have output :
      (transition.before.call transition.action).2 = transition.output := by
    rw [isCall]
    rfl
  rw [output] at cause
  constructor
  · intro respected around isTick
    by_contra notPermitted
    rcases cause.mpr ⟨around, isTick, notPermitted⟩ with
      ⟨dispatch, made, energises, forbidden⟩
    rw [respected dispatch made energises] at forbidden
    cases forbidden
  · intro permitted dispatch made energises
    by_contra forbidden
    rcases cause.mp
        ⟨dispatch, made, energises, Bool.eq_false_iff.mpr forbidden⟩ with
      ⟨around, isTick, notPermitted⟩
    exact notPermitted (permitted around isTick)

/-! ## A permission lost during the delay -/

/-- An empty store; output 100 has an unlatched policy. -/
def idleRuntime : Runtime where
  automation :=
    { rules := []
      tickMs := 0
      persistedConfig := false
      savedRules := none
      remoteQueue := none
      fits := Nat.zero_le _ }
  failsafe := FailsafeTable.switchOff 100 0
  store := stateInit

/-- A node without a cluster, with inputs 10 and 11 and output 100. -/
def standalone : Surroundings where
  clusterIo := clusterIoInit 0
  metricsSelfNode := 0
  clusterNodes := []
  nodeRegistryIsKnown := fun _ => false
  isValidInput := fun id => id = 10 || id = 11
  isValidOutput := fun id => id = 100
  scaledValue := fun _ => 0
  nowMs := 0

def delayedRule : RuleRequest where
  input := 10
  op := 2
  mode := AutomationMode.onDelayMs.code
  threshold := 1
  durationMs := 1
  output := 100
  onTrue := 1
  onFalse := 0

def doorClosed : AutomationInterlock where
  enabled := 1
  logicOp := 0
  condCount := 1
  reserved := 0
  conditions := Vector.replicate _ { channel := 11, op := 2, targetVal := 1 }
  condCountFits := by decide

def changeState (id : UInt16) (value : Int32) : List Call :=
  [.stateWrite id value,
    .event standalone { type := .stateChange, source := id, data := value }]

/-- The permission is given, the delay starts, the permission is taken away,
and the delay ends. -/
def permissionLost : List Call :=
  [.addRule standalone delayedRule .committed,
    .setInterlockAt 0 (some doorClosed) .committed] ++
    changeState 11 1 ++ changeState 10 1 ++ changeState 11 0 ++
    [.tick standalone]

/-- The last tick switches output 100 on although input 11 forbids it. -/
theorem interlock_not_respected_permissionLost :
    (¬ ∀ transition ∈ Run.history Runtime.call idleRuntime permissionLost,
        ∀ dispatch ∈ transition.output,
          dispatch.purpose.energises = true →
          automationEvalInterlock dispatch.store dispatch.interlock = true) ∧
      (Run.final Runtime.call idleRuntime permissionLost).store.intValues
          100 = 1 ∧
      (Run.final Runtime.call idleRuntime permissionLost).store.intValues
          11 = 0 := by
  refine ⟨?_, ?_, ?_⟩
  · decide +kernel
  · decide +kernel
  · decide +kernel

end Endap.Automation
