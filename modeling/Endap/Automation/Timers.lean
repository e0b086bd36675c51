import Endap.Automation.Interlock
import Endap.Automation.RuleStore

/-!
# Timers

A timer is armed with a deadline, which is the present tick plus the duration
of the rule, and expires in the first tick that has reached the deadline.  Both
are words of 32 bits, compared by the sign of their difference.

A rule has no name of its own: it is where it is stored, and it moves to the
slot before when a rule in front of it is removed.  A run is therefore watched
together with the place of one rule.
-/

namespace Endap.Automation

open Endap.Library
open Endap.Library.Run
open Endap.State

/-! ## Deadlines -/

theorem automationTimeReached_iff
    (start : UInt32) (duration : UInt16) {passed : Nat}
    (within : passed ≤ duration.toNat) :
    automationTimeReached (start + UInt32.ofNat passed)
        (automationDeadlineAfter start duration) = true ↔
    passed = duration.toNat := by
  have small : duration.toNat < 65536 := duration.toNat_lt
  have difference :
      start + UInt32.ofNat passed - (start + duration.toUInt32) =
        UInt32.ofNat passed - duration.toUInt32 := by
    grind
  have distance :
      (UInt32.ofNat passed - duration.toUInt32).toNat =
        (4294967296 - duration.toNat + passed) % 4294967296 := by
    rw [UInt32.toNat_sub, UInt32.toNat_ofNat', UInt16.toNat_toUInt32]
    omega
  have value :
      (UInt32.ofNat passed - duration.toUInt32).toInt32.toInt =
        (passed : Int) - duration.toNat := by
    change BitVec.toInt (UInt32.ofNat passed - duration.toUInt32).toBitVec = _
    rw [BitVec.toInt_eq_toNat_cond, UInt32.toNat_toBitVec, distance]
    split
    · omega
    · omega
  unfold automationTimeReached automationDeadlineAfter
  rw [decide_eq_true_eq, Int32.le_iff_toInt_le, difference, value,
    Int32.toInt_zero]
  omega

/-- The timer of a rule. -/
structure Timer where
  active : Bool
  deadlineMs : UInt32
deriving DecidableEq

/-- `timer_active` and `deadline_ms` of a rule. -/
def AutomationRule.timer (rule : AutomationRule) : Timer where
  active := rule.runtime.timerActive
  deadlineMs := rule.runtime.deadlineMs

/-- A timer that is armed at a tick. -/
def armedAt (tickMs : UInt32) (duration : UInt16) : Timer where
  active := true
  deadlineMs := automationDeadlineAfter tickMs duration

/-! ## One visit -/

section

variable (around : Surroundings) (plant : Plant) (rule : AutomationRule)

theorem triggerMode_timer
    (tickMs : UInt32) (conditionNow risingEdge : Bool) :
    let after :=
      (triggerMode around tickMs conditionNow risingEdge plant rule).2
    after.timer = rule.timer ∨ after.timer.active = false ∨
    after.timer = armedAt tickMs rule.node.durationMs := by
  dsimp only
  rw [triggerMode]
  split
  · exact .inr (.inl rfl)
  · split
    · exact .inr (.inr rfl)
    · exact .inl rfl
  · split
    · exact .inr (.inr rfl)
    · exact .inr (.inl rfl)
  · split
    · exact .inr (.inl rfl)
    · exact .inr (.inr rfl)
  · split
    · exact .inl rfl
    · exact .inl rfl
  · split
    · exact .inl rfl
    · exact .inl rfl
  · split
    · exact .inl rfl
    · exact .inl rfl
  · exact .inl rfl

theorem triggerVisit_timer (tickMs : UInt32) (event : EndapEvent) :
    let after := (triggerVisit around tickMs event plant rule).2
    after.timer = rule.timer ∨ after.timer.active = false ∨
    after.timer = armedAt tickMs rule.node.durationMs := by
  dsimp only
  rw [triggerVisit]
  split
  · exact .inl rfl
  · dsimp only
    split
    · exact .inl rfl
    · exact triggerMode_timer around plant (rule.evaluated _ _) tickMs _ _

theorem guardVisit_timer (event : EndapEvent) :
    let after := (guardVisit around event plant rule).2
    after.timer = rule.timer ∨ after.timer.active = false := by
  dsimp only
  rw [guardVisit]
  split
  · exact .inl rfl
  · split
    · exact .inr rfl
    · exact .inl rfl

theorem tickVisit_timer (tickMs : UInt32) :
    (tickVisit around tickMs plant rule).2.timer =
      { active :=
          rule.timer.active &&
            !automationTimeReached tickMs rule.timer.deadlineMs
        deadlineMs := rule.timer.deadlineMs } := by
  have timer :
      rule.timer =
        { active := rule.runtime.timerActive
          deadlineMs := rule.runtime.deadlineMs } :=
    rfl
  rw [tickVisit, timer]
  dsimp only
  cases running : rule.runtime.timerActive with
  | false =>
      rw [if_pos (by decide), timer, running]
      rfl
  | true =>
      cases reached :
          automationTimeReached tickMs rule.runtime.deadlineMs with
      | false =>
          rw [if_neg (by decide), if_pos (by decide), timer, running]
          rfl
      | true =>
          rw [if_neg (by decide), if_neg (by decide)]
          split
          · split
            · rfl
            · rfl
          · split
            · rfl
            · rfl
          · split
            · rfl
            · rfl
          · rfl

end

/-! ## One call -/

theorem Runtime.sweep_rule
    (runtime : Runtime)
    (visit : Plant → AutomationRule → Plant × AutomationRule)
    {index : Nat} {rule : AutomationRule}
    (held : runtime.automation.rules[index]? = some rule) :
    ∃ plant,
      (runtime.sweep visit).1.automation.rules[index]? =
        some (visit plant rule).2 := by
  obtain ⟨plant, _, left⟩ :=
    @Sweep.run_getElem? _ _ visit _ index rule held runtime.plant
  exact ⟨plant, left⟩

theorem automationEventHandler_timer
    (around : Surroundings) (event : EndapEvent) {runtime : Runtime}
    {index : Nat} {rule : AutomationRule}
    (held : runtime.automation.rules[index]? = some rule) :
    ∃ after,
      (automationEventHandler around event
          runtime).1.automation.rules[index]? = some after ∧
      after.config = rule.config ∧
      (after.timer = rule.timer ∨ after.timer.active = false ∨
      after.timer =
        armedAt runtime.automation.tickMs rule.node.durationMs) := by
  rw [automationEventHandler]
  split
  · exact ⟨rule, held, rfl, .inl rfl⟩
  · obtain ⟨plant, triggered⟩ :=
      runtime.sweep_rule
        (triggerVisit around runtime.automation.tickMs event) held
    obtain ⟨later, guarded⟩ :=
      Runtime.sweep_rule _ (guardVisit around event) triggered
    refine ⟨_, guarded, ?_, ?_⟩
    · exact
        (guardVisit_config around later _ event).trans
          (triggerVisit_config around plant rule _ event)
    · rcases guardVisit_timer around later
          (triggerVisit around runtime.automation.tickMs event plant
            rule).2 event with same | stopped
      · rw [same]
        exact triggerVisit_timer around plant rule _ event
      · exact .inr (.inl stopped)

theorem automationEngineTick1ms_timer
    (around : Surroundings) {runtime : Runtime} {index : Nat}
    {rule : AutomationRule}
    (held : runtime.automation.rules[index]? = some rule) :
    ∃ after,
      (automationEngineTick1ms around runtime).1.automation.rules[index]? =
          some after ∧
      after.timer =
        { active :=
            rule.timer.active &&
              !automationTimeReached (runtime.automation.tickMs + 1)
                rule.timer.deadlineMs
          deadlineMs := rule.timer.deadlineMs } := by
  have advanced : runtime.advance.automation.rules[index]? = some rule := held
  obtain ⟨plant, left⟩ :=
    Runtime.sweep_rule runtime.advance
      (tickVisit around runtime.advance.automation.tickMs) advanced
  exact ⟨_, left, tickVisit_timer around plant rule _⟩

/-! ## The place of a rule -/

/-- Where a call moves the rule at a place, if it stays. -/
def Call.moves (call : Call) (automation : AutomationStore)
    (place : Nat) : Option Nat :=
  match call with
  | .removeNodeAt index _ =>
      if automation.HasIndex index then
        if index.toInt.toNat = place then none
        else if index.toInt.toNat < place then some (place - 1)
        else some place
      else some place
  | .clear _ => none
  | _ => some place

/-- The runtime, with the place of one rule as long as it is stored. -/
structure Watch where
  runtime : Runtime
  place : Option Nat

/-- The effect of one call on the runtime and on the place. -/
def Watch.call (watch : Watch) (call : Call) : Watch × List Dispatch :=
  ({ runtime := (watch.runtime.call call).1
     place := watch.place.bind (call.moves watch.runtime.automation) },
    (watch.runtime.call call).2)

/-- The rule that is watched. -/
def Watch.rule? (watch : Watch) : Option AutomationRule :=
  watch.place.bind fun index => watch.runtime.automation.rules[index]?

/-- The timer of the rule that is watched. -/
def Watch.timer? (watch : Watch) : Option Timer :=
  watch.rule?.map AutomationRule.timer

/-- The calls that hand an event to the rules. -/
def Call.handles : Call → Bool
  | .event _ _ => true
  | .addRule _ _ _ => true
  | _ => false

/-- The calls that let time pass. -/
def Call.isTick : Call → Bool
  | .tick _ => true
  | _ => false

/-- The number of ticks in a run. -/
def ticks (calls : List Call) : Nat := calls.countP Call.isTick

theorem getElem?_eraseIdx_moved
    {rules : List AutomationRule} {index place : Nat}
    (other : index ≠ place) :
    (rules.eraseIdx index)[if index < place then place - 1 else place]? =
      rules[place]? := by
  rw [List.getElem?_eraseIdx]
  split_ifs with before inside
  · omega
  · congr 1
    omega
  · rfl
  · omega

theorem Watch.removeNodeAt_rule?
    {watch : Watch} {index : Int32} {outcome : NvsOutcome}
    (stays : (watch.call (.removeNodeAt index outcome)).1.place ≠ none) :
    (watch.call (.removeNodeAt index outcome)).1.rule? = watch.rule? := by
  obtain ⟨runtime, place⟩ := watch
  cases place with
  | none => exact absurd rfl stays
  | some place =>
      change
        ((Call.removeNodeAt index outcome).moves runtime.automation
            place).bind
          (fun moved =>
            (automationEngineRemoveNodeAt index outcome
              runtime.automation).rules[moved]?) =
          runtime.automation.rules[place]?
      change
        (Call.removeNodeAt index outcome).moves runtime.automation place ≠
          none at stays
      unfold Call.moves at stays ⊢
      unfold automationEngineRemoveNodeAt
      dsimp only at stays ⊢
      split_ifs at stays ⊢ with found same before
      · exact absurd rfl stays
      · have moved :=
          @getElem?_eraseIdx_moved runtime.automation.rules
            index.toInt.toNat place same
        rw [if_pos before] at moved
        exact moved
      · have moved :=
          @getElem?_eraseIdx_moved runtime.automation.rules
            index.toInt.toNat place same
        rw [if_neg before] at moved
        exact moved
      · rfl

theorem automationEngineSetInterlockAt_timers
    (index : Int32) (interlock : Option AutomationInterlock)
    (outcome : NvsOutcome) (automation : AutomationStore) (place : Nat) :
    (automationEngineSetInterlockAt index interlock outcome
        automation).rules[place]?.map AutomationRule.timer =
      automation.rules[place]?.map AutomationRule.timer := by
  unfold automationEngineSetInterlockAt
  split_ifs
  · change
      (automation.rules.modify index.toInt.toNat _)[place]?.map _ = _
    rw [List.getElem?_modify]
    cases automation.rules[place]? with
    | none => rfl
    | some rule =>
        dsimp only [Option.map_eq_map, Option.map_some]
        split_ifs
        · rfl
        · rfl
  · rfl

theorem Watch.timer?_congr
    {first second : Watch} (place : first.place = second.place)
    (rules :
      first.runtime.automation.rules = second.runtime.automation.rules) :
    first.timer? = second.timer? := by
  unfold Watch.timer? Watch.rule?
  rw [place, rules]

/-- Only events, the replay of one and ticks reach the timer of a rule that
stays. -/
theorem Watch.call_timer?
    {watch : Watch} {call : Call} (quiet : call.handles = false)
    (timeless : call.isTick = false)
    (stays : (watch.call call).1.place ≠ none) :
    (watch.call call).1.timer? = watch.timer? := by
  have unmoved : (watch.place.bind fun place => some place) = watch.place := by
    cases watch.place <;> rfl
  cases call with
  | event around event => cases quiet
  | tick around => cases timeless
  | addRule around request outcome => cases quiet
  | removeNodeAt index outcome =>
      exact
        congrArg (Option.map AutomationRule.timer)
          (Watch.removeNodeAt_rule? stays)
  | setInterlockAt index interlock outcome =>
      obtain ⟨runtime, place⟩ := watch
      cases place with
      | none => rfl
      | some place =>
          exact
            automationEngineSetInterlockAt_timers index interlock outcome
              runtime.automation place
  | clear outcome =>
      exfalso
      apply stays
      exact Option.bind_eq_none_iff.mpr fun _ _ => rfl
  | outputCommand around command =>
      have same :=
        automationHandleOutputCommand_automation around command watch.runtime
      exact Watch.timer?_congr unmoved (congrArg AutomationStore.rules same)
  | _ => exact Watch.timer?_congr unmoved rfl

theorem Watch.tick_timer?
    (watch : Watch) (around : Surroundings) :
    (watch.call (.tick around)).1.timer? =
      watch.timer?.map fun timer =>
        { active :=
            timer.active &&
              !automationTimeReached
                (watch.runtime.automation.tickMs + 1) timer.deadlineMs
          deadlineMs := timer.deadlineMs } := by
  obtain ⟨runtime, place⟩ := watch
  cases place with
  | none => rfl
  | some place =>
      change
        (automationEngineTick1ms around
            runtime).1.automation.rules[place]?.map _ =
          (runtime.automation.rules[place]?.map _).map _
      cases held : runtime.automation.rules[place]? with
      | none =>
          have short :
              (automationEngineTick1ms around
                runtime).1.automation.rules[place]? = none := by
            rw [List.getElem?_eq_none_iff] at held ⊢
            refine le_of_eq_of_le ?_ held
            exact Sweep.run_length _ _
          rw [short]
          rfl
      | some rule =>
          obtain ⟨after, left, timer⟩ :=
            automationEngineTick1ms_timer around held
          rw [left, Option.map_some, timer]
          rfl

theorem Runtime.call_tickMs (runtime : Runtime) (call : Call) :
    (runtime.call call).1.automation.tickMs =
      if call.isTick then runtime.automation.tickMs + 1
      else runtime.automation.tickMs := by
  have handled (around : Surroundings) (event : EndapEvent)
      (stored : Runtime) :
      (automationEventHandler around event stored).1.automation.tickMs =
        stored.automation.tickMs := by
    rw [automationEventHandler]
    split
    · rfl
    · rfl
  cases call with
  | event around event => exact handled around event runtime
  | tick around => rfl
  | addRule around request outcome =>
      change
        (automationEngineAddRule around request outcome
          runtime).runtime.automation.tickMs = _
      have ends := automationEngineAddRule_ends around request outcome runtime
      generalize
        automationEngineAddRule around request outcome runtime = added
        at ends
      cases ends with
      | replayed => exact handled around _ _
      | _ => rfl
  | removeNodeAt index outcome =>
      change
        (automationEngineRemoveNodeAt index outcome
          runtime.automation).tickMs = runtime.automation.tickMs
      unfold automationEngineRemoveNodeAt
      split_ifs
      · rfl
      · rfl
  | setInterlockAt index interlock outcome =>
      change
        (automationEngineSetInterlockAt index interlock outcome
          runtime.automation).tickMs = runtime.automation.tickMs
      unfold automationEngineSetInterlockAt
      split_ifs
      · rfl
      · rfl
  | outputCommand around command =>
      exact
        congrArg AutomationStore.tickMs
          (automationHandleOutputCommand_automation around command runtime)
  | _ => rfl

/-! ## Arming -/

theorem automationEventHandler_length
    (around : Surroundings) (event : EndapEvent) (runtime : Runtime) :
    (automationEventHandler around event runtime).1.automation.rules.length =
      runtime.automation.rules.length := by
  have configs := automationEventHandler_configs around event runtime
  have lengths := congrArg List.length configs
  rw [AutomationStore.configs, AutomationStore.configs, List.length_map,
    List.length_map] at lengths
  exact lengths

/-- A timer that runs after an event ran before it, or the event has armed it
at the present tick. -/
theorem automationEventHandler_running
    {around : Surroundings} {event : EndapEvent} {runtime : Runtime}
    {place : Nat} {rule : AutomationRule}
    (left :
      (automationEventHandler around event
        runtime).1.automation.rules[place]? = some rule)
    (active : rule.timer.active = true) :
    (∃ before,
      runtime.automation.rules[place]? = some before ∧
      before.timer = rule.timer) ∨
      rule.timer =
        armedAt runtime.automation.tickMs rule.node.durationMs := by
  have inside : place < runtime.automation.rules.length := by
    rw [← automationEventHandler_length around event runtime]
    exact (List.getElem?_eq_some_iff.mp left).1
  obtain ⟨before, held⟩ :
      ∃ before, runtime.automation.rules[place]? = some before :=
    ⟨_, List.getElem?_eq_getElem inside⟩
  obtain ⟨found, isFound, config, same | stopped | armed⟩ :=
    automationEventHandler_timer around event held
  · rw [left] at isFound
    cases isFound
    exact .inl ⟨before, held, same.symm⟩
  · rw [left] at isFound
    cases isFound
    rw [active] at stopped
    cases stopped
  · rw [left] at isFound
    cases isFound
    have node : rule.node = before.node := congrArg Prod.fst config
    rw [node]
    exact .inr armed

theorem timer_of_append
    {rules : List AutomationRule} {candidate : AutomationNode}
    {place : Nat} {rule : AutomationRule}
    (held : (rules ++ [AutomationRule.fresh candidate])[place]? = some rule)
    (active : rule.timer.active = true) :
    rules[place]? = some rule := by
  rw [List.getElem?_append] at held
  split at held
  · exact held
  · rw [List.getElem?_singleton] at held
    split at held
    · cases held
      cases active
    · cases held

theorem automationEngineAddRule_running
    {around : Surroundings} {request : RuleRequest} {outcome : NvsOutcome}
    {runtime : Runtime} {place : Nat} {rule : AutomationRule}
    (left :
      (automationEngineAddRule around request outcome
        runtime).runtime.automation.rules[place]? = some rule)
    (active : rule.timer.active = true) :
    (∃ before,
      runtime.automation.rules[place]? = some before ∧
      before.timer = rule.timer) ∨
      rule.timer =
        armedAt runtime.automation.tickMs rule.node.durationMs := by
  have ends := automationEngineAddRule_ends around request outcome runtime
  generalize automationEngineAddRule around request outcome runtime = added
    at ends left
  cases ends with
  | stored => exact .inl ⟨rule, timer_of_append left active, rfl⟩
  | replayed =>
      rcases automationEventHandler_running left active with
        ⟨before, held, same⟩ | armed
      · rw [← same] at active
        exact .inl ⟨before, timer_of_append held active, same⟩
      · exact .inr armed
  | _ => exact .inl ⟨rule, left, rfl⟩

/-- A call hands an event to the rule that is watched, and the timer of the rule
runs after it as it did not before. -/
structure Arms (watch : Watch) (arming : Call) (rule : AutomationRule) :
    Prop where
  handles : arming.handles = true
  left : (watch.call arming).1.rule? = some rule
  active : rule.timer.active = true
  changed : watch.timer? ≠ some rule.timer

theorem Arms.armedNow
    {watch : Watch} {arming : Call} {rule : AutomationRule}
    (arms : Arms watch arming rule) :
    rule.timer =
      armedAt watch.runtime.automation.tickMs rule.node.durationMs := by
  obtain ⟨handles, left, active, changed⟩ := arms
  obtain ⟨runtime, place⟩ := watch
  cases place with
  | none => cases left
  | some place =>
      have running :
          (∃ before,
            runtime.automation.rules[place]? = some before ∧
            before.timer = rule.timer) ∨
            rule.timer =
              armedAt runtime.automation.tickMs rule.node.durationMs := by
        cases arming with
        | event around event =>
            exact automationEventHandler_running left active
        | addRule around request outcome =>
            exact automationEngineAddRule_running left active
        | _ => cases handles
      rcases running with ⟨before, held, same⟩ | armed
      · exfalso
        apply changed
        change runtime.automation.rules[place]?.map AutomationRule.timer = _
        rw [held, Option.map_some, same]
      · exact armed

/-! ## Runs -/

/-- A call neither arms nor stops the timer through an event, and does not
remove the rule. -/
structure LeavesTimer
    (made : Transition Watch Call (List Dispatch)) : Prop where
  handled : made.action.handles = true → made.after.timer? = made.before.timer?
  stays : made.after.place ≠ none

instance (made : Transition Watch Call (List Dispatch)) :
    Decidable (LeavesTimer made) :=
  decidable_of_iff
    ((made.action.handles = true →
        made.after.timer? = made.before.timer?) ∧
      made.after.place ≠ none)
    ⟨fun both => ⟨both.1, both.2⟩, fun leaves =>
      ⟨leaves.handled, leaves.stays⟩⟩

/-- A tick in which the timer stops. -/
structure Expires
    (made : Transition Watch Call (List Dispatch)) : Prop where
  tick : made.action.isTick = true
  running : made.before.timer?.map Timer.active = some true
  stopped : made.after.timer?.map Timer.active = some false

/-- The watch at a number of ticks after a timer was armed. -/
structure TimerAt (start : UInt32) (duration : UInt16) (passed : Nat)
    (watch : Watch) : Prop where
  tickMs : watch.runtime.automation.tickMs = start + UInt32.ofNat passed
  timer :
    watch.timer? =
      some
        { active := decide (passed < duration.toNat)
          deadlineMs := automationDeadlineAfter start duration }

theorem TimerAt.tick
    {start : UInt32} {duration : UInt16} {passed : Nat} {watch : Watch}
    (present : TimerAt start duration passed watch)
    (around : Surroundings) :
    TimerAt start duration (passed + 1) (watch.call (.tick around)).1 := by
  have next :
      watch.runtime.automation.tickMs + 1 =
        start + UInt32.ofNat (passed + 1) := by
    rw [present.tickMs, UInt32.ofNat_add, ← UInt32.add_assoc]
    rfl
  constructor
  · exact next
  · have active :
        (decide (passed < duration.toNat) &&
            !automationTimeReached (start + UInt32.ofNat (passed + 1))
              (automationDeadlineAfter start duration)) =
          decide (passed + 1 < duration.toNat) := by
      by_cases pending : passed < duration.toNat
      · have reached :=
          @automationTimeReached_iff start duration (passed + 1) pending
        rw [decide_eq_true pending, Bool.true_and, Bool.eq_iff_iff,
          Bool.not_eq_true', ← Bool.not_eq_true, reached,
          decide_eq_true_eq]
        omega
      · rw [decide_eq_false pending, Bool.false_and, eq_comm,
          decide_eq_false_iff_not]
        omega
    rw [Watch.tick_timer?, present.timer, Option.map_some, next]
    dsimp only
    rw [active]

theorem TimerAt.call
    {start : UInt32} {duration : UInt16} {passed : Nat} {watch : Watch}
    (present : TimerAt start duration passed watch) {call : Call}
    (leaves : LeavesTimer (Run.call Watch.call watch call)) :
    TimerAt start duration (passed + ticks [call])
      (watch.call call).1 := by
  cases timed : call.isTick with
  | true =>
      cases call with
      | tick around => exact present.tick around
      | _ => cases timed
  | false =>
      have none : ticks [call] = 0 := by
        rw [ticks, List.countP_singleton, timed]
        rfl
      rw [none]
      constructor
      · have tickMs := watch.runtime.call_tickMs call
        rw [timed] at tickMs
        exact tickMs.trans present.tickMs
      · refine Eq.trans ?_ present.timer
        cases handles : call.handles with
        | true => exact leaves.handled handles
        | false => exact Watch.call_timer? handles timed leaves.stays

theorem TimerAt.run
    {start : UInt32} {duration : UInt16} {watch : Watch}
    (armed : TimerAt start duration 0 watch) {calls : List Call}
    (leaves : ∀ made ∈ history Watch.call watch calls, LeavesTimer made) :
    TimerAt start duration (ticks calls)
      (final Watch.call watch calls) := by
  induction calls using List.reverseRecOn with
  | nil => exact armed
  | append_singleton earlier last induction =>
      rw [history_snoc] at leaves
      have before :=
        induction fun made member =>
          leaves made (List.mem_append_left _ member)
      have counted : ticks (earlier ++ [last]) = ticks earlier + ticks [last] :=
        List.countP_append
      rw [final_snoc, counted]
      exact
        before.call
          (leaves _ (List.mem_append_right _ (List.mem_singleton_self _)))

theorem TimerAt.expires_iff
    {start : UInt32} {duration : UInt16} {passed : Nat} {watch : Watch}
    (present : TimerAt start duration passed watch)
    (around : Surroundings) :
    Expires (Run.call Watch.call watch (.tick around)) ↔
    passed + 1 = duration.toNat := by
  have next := present.tick around
  have before :
      watch.timer?.map Timer.active =
        some (decide (passed < duration.toNat)) := by
    rw [present.timer]
    rfl
  have after :
      (watch.call (.tick around)).1.timer?.map Timer.active =
        some (decide (passed + 1 < duration.toNat)) := by
    rw [next.timer]
    rfl
  constructor
  · rintro ⟨_, running, stopped⟩
    change watch.timer?.map Timer.active = some true at running
    change
      (watch.call (.tick around)).1.timer?.map Timer.active =
        some false at stopped
    rw [before, Option.some_inj, decide_eq_true_eq] at running
    rw [after, Option.some_inj, decide_eq_false_iff_not] at stopped
    omega
  · intro complete
    refine ⟨rfl, before.trans ?_, after.trans ?_⟩
    · rw [Option.some_inj, decide_eq_true_eq]
      omega
    · rw [Option.some_inj, decide_eq_false_iff_not]
      omega

/-- A timer that is armed, and then neither armed again, nor stopped, nor
removed, expires in the tick that completes the duration of its rule, and in no
other tick of the run. -/
theorem armed_timer_expires_once
    {watch : Watch} {arming : Call} {rule : AutomationRule}
    (arms : Arms watch arming rule)
    (positive : rule.node.durationMs ≠ 0) {calls : List Call}
    (leaves :
      ∀ made ∈ history Watch.call (watch.call arming).1 calls, LeavesTimer made)
    {earlier later : List Call} {around : Surroundings}
    (isRun : calls = earlier ++ .tick around :: later) :
    Expires
        (Run.call Watch.call
          (final Watch.call (watch.call arming).1 earlier)
          (.tick around)) ↔
    ticks earlier + 1 = rule.node.durationMs.toNat := by
  have duration : 0 < rule.node.durationMs.toNat := by
    rw [Nat.pos_iff_ne_zero]
    intro zero
    exact positive (UInt16.toNat_inj.mp zero)
  have armed :
      TimerAt watch.runtime.automation.tickMs rule.node.durationMs 0
        (watch.call arming).1 := by
    constructor
    · have tickMs := watch.runtime.call_tickMs arming
      have timeless : arming.isTick = false := by
        have handles := arms.handles
        cases arming with
        | tick around => cases handles
        | _ => rfl
      rw [timeless] at tickMs
      refine tickMs.trans ?_
      exact (UInt32.add_zero _).symm
    · unfold Watch.timer?
      rw [arms.left, Option.map_some, arms.armedNow, armedAt,
        decide_eq_true duration]
  subst isRun
  rw [history_append] at leaves
  exact
    (armed.run fun made member =>
      leaves made (List.mem_append_left _ member)).expires_iff around

def otherRule : AutomationNode where
  input := 11
  output := 101
  threshold := 0
  op := 0
  mode := AutomationMode.follow.code
  durationMs := 0
  onTrue := 1
  onFalse := 0

def pulseRule : AutomationNode where
  input := 10
  output := 100
  threshold := 0
  op := 0
  mode := AutomationMode.pulseMs.code
  durationMs := 2
  onTrue := 1
  onFalse := 0

def lastTick : Watch where
  runtime :=
    { idleRuntime with
      automation :=
        { idleRuntime.automation with
          rules :=
            [AutomationRule.fresh otherRule, AutomationRule.fresh pulseRule]
          tickMs := 4294967295
          fits := by decide } }
  place := some 1

def pulseBegins : Call :=
  .event standalone { type := .stateChange, source := 10, data := 1 }

def overTheWrap : List Call :=
  [.tick standalone, .removeNodeAt 0 .committed, .tick standalone]

theorem pulse_ends_over_the_wrap :
    Expires
      (Run.call Watch.call
        (final Watch.call (lastTick.call pulseBegins).1
          [.tick standalone, .removeNodeAt 0 .committed])
        (.tick standalone)) := by
  have held : ((lastTick.call pulseBegins).1.rule?).isSome = true := by
    decide +kernel
  obtain ⟨rule, isRule⟩ := Option.isSome_iff_exists.mp held
  have node : rule.node = pulseRule := by
    have same :
        (lastTick.call pulseBegins).1.rule?.map AutomationRule.node =
          some pulseRule := by
      decide +kernel
    rw [isRule] at same
    exact Option.some.inj same
  have timer : rule.timer = armedAt 4294967295 2 := by
    have same :
        (lastTick.call pulseBegins).1.timer? =
          some (armedAt 4294967295 2) := by
      decide +kernel
    unfold Watch.timer? at same
    rw [isRule] at same
    exact Option.some.inj same
  have arms : Arms lastTick pulseBegins rule :=
    { handles := rfl
      left := isRule
      active := by
        rw [timer]
        rfl
      changed := by
        rw [timer]
        decide +kernel }
  have duration : rule.node.durationMs = 2 := by
    rw [node]
    rfl
  have leaves :
      ∀ made ∈
          history Watch.call (lastTick.call pulseBegins).1 overTheWrap,
        LeavesTimer made := by
    decide +kernel
  apply
    (armed_timer_expires_once arms (by rw [duration]; decide) leaves rfl).mpr
  rw [duration]
  rfl

end Endap.Automation
