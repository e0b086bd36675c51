import Endap.Automation.Engine

/-!
# What a visit does

A visit of the trigger loop, of the continuous guard or of the tick loop
leaves the plant as it is or makes one dispatch for its rule.  The lemmas say
which purposes each loop dispatches for; everything later about the effects
of events and ticks rests on them.
-/

namespace Endap.Automation

open Endap.Cluster
open Endap.Failsafe
open Endap.State

/-! ## One dispatch -/

theorem dispatchLocal_plant
    (plant : Plant) (output : UInt16) (value : Int32) :
    let guarded := failsafeGuardCommand plant.failsafe output value
    (dispatchLocal plant output value).plant =
        { plant with failsafe := guarded.2 } ∨
      guarded.1.allowed = true ∧
      ∃ effectiveValue,
        (dispatchLocal plant output value).plant =
          { plant with
            failsafe := guarded.2
            store := stateSetInt plant.store output effectiveValue } := by
  intro guarded
  rw [dispatchLocal]
  simp only
  split
  · next allowed => exact Or.inr ⟨allowed, _, rfl⟩
  · exact Or.inl rfl

theorem dispatchRemote_plant
    (around : Surroundings) (plant : Plant) (output : UInt16)
    (value : Int32) :
    ∃ queue,
      (dispatchRemote around plant output value).plant =
        { plant with remoteQueue := queue } := by
  rw [dispatchRemote]
  simp only
  split
  · exact ⟨_, rfl⟩
  · split
    · exact ⟨_, rfl⟩
    · split
      · exact ⟨_, rfl⟩
      · split
        · exact ⟨_, rfl⟩
        · exact ⟨_, rfl⟩

/-! ## One visit -/

/-- The purposes that energise an output. -/
def Purpose.energises : Purpose → Bool
  | .apply conditionTrue => conditionTrue
  | .toggle => true
  | .forceOn => true
  | .forceOff => false
  | .interlockLost => false

/-- A visit leaves the plant or dispatches once, for an allowed purpose. -/
inductive Effect
    (around : Surroundings) (plant : Plant) (rule : AutomationRule)
    (allowed : Purpose → Prop) : Plant → Prop
  | idle : Effect around plant rule allowed plant
  | dispatch
      (purpose : Purpose) (value : Int32) (changed : AutomationRule)
      (sameNode : changed.node = rule.node)
      (sameInterlock : changed.interlock = rule.interlock)
      (permitted : allowed purpose) :
      Effect around plant rule allowed
        (automationDispatchOutput around purpose value plant changed).1

section

variable
    {around : Surroundings} {plant : Plant} {rule : AutomationRule}
    {allowed : Purpose → Prop}

theorem Effect.apply
    (conditionTrue : Bool) (changed : AutomationRule)
    (sameNode : changed.node = rule.node)
    (sameInterlock : changed.interlock = rule.interlock)
    (permitted : allowed (.apply conditionTrue)) :
    Effect around plant rule allowed
      (automationApplyOutput around conditionTrue plant changed).1 :=
  .dispatch _ _ changed sameNode sameInterlock permitted

theorem triggerMode_effect
    (tickMs : UInt32) {conditionNow risingEdge : Bool}
    (edge : risingEdge = true → conditionNow = true)
    (changed : AutomationRule)
    (sameNode : changed.node = rule.node)
    (sameInterlock : changed.interlock = rule.interlock) :
    Effect around plant rule
      (fun purpose => purpose.energises = true → conditionNow = true)
      (triggerMode around tickMs conditionNow risingEdge plant
        changed).1 := by
  rw [triggerMode]
  split
  · exact Effect.apply _ _ sameNode sameInterlock id
  · split
    · next rising =>
        exact Effect.apply _ _ sameNode sameInterlock fun _ => edge rising
    · exact .idle
  · split
    · apply Effect.apply _ _ sameNode sameInterlock
      intro energised
      cases energised
    · apply Effect.apply _ _ sameNode sameInterlock
      intro energised
      cases energised
  · split
    · next holds =>
        exact Effect.apply _ _ sameNode sameInterlock fun _ => holds
    · exact .idle
  · split
    · next rising =>
        exact .dispatch _ _ _ sameNode sameInterlock fun _ => edge rising
    · exact .idle
  · split
    · next rising =>
        exact .dispatch _ _ _ sameNode sameInterlock fun _ => edge rising
    · exact .idle
  · split
    · next rising =>
        exact .dispatch _ _ _ sameNode sameInterlock fun _ => edge rising
    · exact .idle
  · exact .idle

theorem Effect.weaken
    {stronger : Purpose → Prop} {after : Plant}
    (effect : Effect around plant rule stronger after)
    (implied : ∀ purpose, stronger purpose → allowed purpose) :
    Effect around plant rule allowed after := by
  cases effect with
  | idle => exact .idle
  | dispatch purpose value changed sameNode sameInterlock permitted =>
      exact
        .dispatch purpose value changed sameNode sameInterlock
          (implied purpose permitted)

theorem triggerVisit_effect (tickMs : UInt32) (event : EndapEvent) :
    Effect around plant rule
      (fun purpose =>
        purpose.energises = true →
        automationEvalInterlock plant.store rule.interlock = true)
      (triggerVisit around tickMs event plant rule).1 := by
  rw [triggerVisit]
  split
  · exact .idle
  · simp only
    split
    · exact .idle
    · next notBlocked =>
        apply Effect.weaken
        · apply triggerMode_effect
          · intro rising
            exact (Bool.and_eq_true_iff.mp rising).1
          · rfl
          · rfl
        · intro purpose energised energises
          have holds := energised energises
          rw [holds, Bool.true_or, Bool.true_and] at notBlocked
          simpa using notBlocked

theorem triggerVisit_permitted
    (tickMs : UInt32) {event : EndapEvent}
    (isInput : event.source = rule.node.input)
    (permitted : automationEvalInterlock plant.store rule.interlock = true) :
    let conditionNow :=
      automationEvalRule rule.node
        (pveGetScaledValue around.scaledValue event.source event.data)
    triggerVisit around tickMs event plant rule =
      triggerMode around tickMs conditionNow
        (conditionNow && !rule.runtime.condition) plant
        (rule.evaluated conditionNow around.nowMs) := by
  intro conditionNow
  rw [triggerVisit, if_neg (by simp [isInput])]
  simp only
  rw [if_neg (by simp [permitted])]

/-- A permitted `FOLLOW` rule applies its condition to the output. -/
theorem triggerVisit_follow
    (tickMs : UInt32) {event : EndapEvent}
    (isInput : event.source = rule.node.input)
    (permitted : automationEvalInterlock plant.store rule.interlock = true)
    (follow : rule.node.mode = AutomationMode.follow.code) :
    let conditionNow :=
      automationEvalRule rule.node
        (pveGetScaledValue around.scaledValue event.source event.data)
    (triggerVisit around tickMs event plant rule).1 =
      (automationApplyOutput around conditionNow plant
        (rule.evaluated conditionNow around.nowMs)).1 := by
  intro conditionNow
  have isFollow :
      AutomationMode.ofCode
          (rule.evaluated conditionNow around.nowMs).node.mode =
        some .follow := by
    change AutomationMode.ofCode rule.node.mode = some .follow
    rw [follow]
    rfl
  rw [triggerVisit_permitted tickMs isInput permitted, triggerMode, isFollow]

theorem guardVisit_effect (event : EndapEvent) :
    Effect around plant rule (fun purpose => purpose = .interlockLost)
      (guardVisit around event plant rule).1 := by
  rw [guardVisit]
  split
  · exact .idle
  · split
    · exact .dispatch _ _ _ rfl rfl rfl
    · exact .idle

end

/-- The timer of an `ON_DELAY_MS` rule expires with its condition true. -/
def OnDelayExpires (tickMs : UInt32) (rule : AutomationRule) : Prop :=
  AutomationMode.ofCode rule.node.mode = some .onDelayMs ∧
  rule.runtime.timerActive = true ∧
  automationTimeReached tickMs rule.runtime.deadlineMs = true ∧
  rule.runtime.condition = true

instance (tickMs : UInt32) (rule : AutomationRule) :
    Decidable (OnDelayExpires tickMs rule) :=
  inferInstanceAs (Decidable (_ ∧ _))

theorem tickVisit_effect
    (around : Surroundings) {tickMs : UInt32} (plant : Plant)
    {rule : AutomationRule} (quiet : ¬ OnDelayExpires tickMs rule) :
    Effect around plant rule (fun purpose => purpose = .apply false)
      (tickVisit around tickMs plant rule).1 := by
  rw [tickVisit]
  split
  · exact .idle
  · next running =>
      split
      · exact .idle
      · next reached =>
          simp only
          split
          · split
            · exact Effect.apply _ _ rfl rfl rfl
            · exact .idle
          · next isOnDelay =>
              split
              · next condition =>
                  refine absurd ⟨isOnDelay, ?_, ?_, condition⟩ quiet
                  · simpa using running
                  · simpa using reached
              · exact .idle
          · split
            · exact Effect.apply _ _ rfl rfl rfl
            · exact .idle
          · exact .idle

theorem tickVisit_onDelayExpires
    (around : Surroundings) {tickMs : UInt32} (plant : Plant)
    {rule : AutomationRule} (expires : OnDelayExpires tickMs rule) :
    ∃ changed : AutomationRule,
      changed.node = rule.node ∧ changed.interlock = rule.interlock ∧
      (tickVisit around tickMs plant rule).1 =
        (automationApplyOutput around true plant changed).1 := by
  rcases expires with ⟨isOnDelay, running, reached, condition⟩
  refine
    ⟨(rule.withRuntime fun runtime =>
        { runtime with timerActive := false }).withRuntime fun runtime =>
          { runtime with latchedTrue := true },
      rfl, rfl, ?_⟩
  simp [tickVisit, isOnDelay, running, reached, condition]

theorem tickVisit_anyEffect
    (around : Surroundings) (tickMs : UInt32) (plant : Plant)
    (rule : AutomationRule) :
    Effect around plant rule (fun _ => True)
      (tickVisit around tickMs plant rule).1 := by
  by_cases expires : OnDelayExpires tickMs rule
  · rcases tickVisit_onDelayExpires around plant expires with
      ⟨changed, sameNode, sameInterlock, same⟩
    rw [same]
    exact Effect.apply _ changed sameNode sameInterlock trivial
  · exact (tickVisit_effect around plant expires).weaken fun _ _ => trivial

end Endap.Automation
