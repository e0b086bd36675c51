import Endap.Library.Run
import Mathlib.Data.Fintype.Defs
import Mathlib.Data.List.Count
import Mathlib.Logic.Function.Basic

/-!
# Changes announced outside of the lock

A component keeps what it holds behind a lock and has listeners that want to
hear of every change.  A task operates on it inside the lock; if that changed
its value, the task reads the listeners in a second section and then calls
them, one after the other, with the lock released.

Any number of tasks do so, and between two steps of one task the others may
take any number of theirs.  What a listener hears of one task is what that
task changed, in its order, each change once.  Across the tasks the order is
only right when no task changes the value while another still has something
to announce.
-/

namespace Endap.Library.Announce

variable {Task Held Operation Value Listener : Type*}

/-- What is behind the lock: how it is operated on, its value, and who is to
hear of a change. -/
structure Component (Held Operation Value Listener : Type*) where
  operate : Held → Operation → Held
  value : Held → Value
  listeners : Held → List Listener

/-- What a task has yet to do about its last change. -/
inductive Duty (Value Listener : Type*) where
  | free
  | changed (value : Value)
  | calling (value : Value) (listeners : List Listener)
deriving DecidableEq

/-- What the component holds, and where every task stands. -/
structure State (Task Held Value Listener : Type*) where
  held : Held
  duty : Task → Duty Value Listener

/-- A task enters the first section, the second one, or calls a listener. -/
inductive Action (Task Operation : Type*) where
  | operate (task : Task) (operation : Operation)
  | read (task : Task)
  | call (task : Task)

/-- What the others see of a step. -/
inductive Output (Task Value Listener : Type*) where
  | quiet
  | changed (task : Task) (value : Value)
  | told (task : Task) (listener : Listener) (value : Value)

section

variable [DecidableEq Task]

/-- One task goes on to `duty`. -/
def State.setDuty
    (state : State Task Held Value Listener) (task : Task)
    (duty : Duty Value Listener) : State Task Held Value Listener :=
  { state with duty := Function.update state.duty task duty }

@[simp]
theorem setDuty_held
    (state : State Task Held Value Listener) (task : Task)
    (duty : Duty Value Listener) :
    (state.setDuty task duty).held = state.held :=
  rfl

@[simp]
theorem setDuty_duty_self
    (state : State Task Held Value Listener) (task : Task)
    (duty : Duty Value Listener) :
    (state.setDuty task duty).duty task = duty :=
  Function.update_self ..

theorem setDuty_duty_other
    (state : State Task Held Value Listener) {task other : Task}
    (different : other ≠ task) (duty : Duty Value Listener) :
    (state.setDuty task duty).duty other = state.duty other :=
  Function.update_of_ne different ..

section

variable [DecidableEq Value]

/-- The first section of a task that has nothing left to announce. -/
def operate
    (component : Component Held Operation Value Listener)
    (state : State Task Held Value Listener) (task : Task)
    (operation : Operation) :
    State Task Held Value Listener × Output Task Value Listener :=
  let held := component.operate state.held operation
  if component.value state.held = component.value held then
    ({ state with held := held }, .quiet)
  else
    ({ state with held := held }.setDuty task
        (.changed (component.value held)),
      .changed task (component.value held))

theorem operate_held
    (component : Component Held Operation Value Listener)
    (state : State Task Held Value Listener) (task : Task)
    (operation : Operation) :
    (operate component state task operation).1.held =
      component.operate state.held operation := by
  simp only [operate]
  split
  · rfl
  · rfl

/-- One step of one task. -/
def step
    (component : Component Held Operation Value Listener)
    (state : State Task Held Value Listener) :
    Action Task Operation →
    State Task Held Value Listener × Output Task Value Listener
  | .operate task operation =>
      match state.duty task with
      | .free => operate component state task operation
      | _ => (state, .quiet)
  | .read task =>
      match state.duty task with
      | .changed value =>
          (state.setDuty task
              (.calling value (component.listeners state.held)),
            .quiet)
      | _ => (state, .quiet)
  | .call task =>
      match state.duty task with
      | .calling value (listener :: rest) =>
          (state.setDuty task (.calling value rest), .told task listener value)
      | .calling _ [] => (state.setDuty task .free, .quiet)
      | _ => (state, .quiet)

/-! ## One step -/

variable {component : Component Held Operation Value Listener}

/-- Only a task with nothing to announce does something to the component. -/
theorem step_held
    (component : Component Held Operation Value Listener)
    (state : State Task Held Value Listener)
    (action : Action Task Operation) :
    (step component state action).1.held =
      match action with
      | .operate task operation =>
          match state.duty task with
          | .free => component.operate state.held operation
          | _ => state.held
      | _ => state.held := by
  cases action with
  | operate task operation =>
      cases duty : state.duty task with
      | free =>
          simp only [step, duty]
          exact operate_held component state task operation
      | _ => simp only [step, duty]
  | read task =>
      cases duty : state.duty task <;> simp only [step, duty, setDuty_held]
  | call task =>
      cases duty : state.duty task with
      | calling value listeners =>
          cases listeners <;> simp only [step, duty, setDuty_held]
      | _ => simp only [step, duty]

/-- All that one step can do. -/
inductive Effect
    (component : Component Held Operation Value Listener)
    (before : State Task Held Value Listener) :
    State Task Held Value Listener → Output Task Value Listener → Prop where
  | nothing : Effect component before before .quiet
  | operated (operation : Operation)
      (same :
        component.value before.held =
          component.value (component.operate before.held operation)) :
      Effect component before
        { before with held := component.operate before.held operation }
        .quiet
  | changed (task : Task) (operation : Operation)
      (wasFree : before.duty task = .free)
      (differs :
        component.value before.held ≠
          component.value (component.operate before.held operation)) :
      Effect component before
        ({ before with
            held := component.operate before.held operation }.setDuty task
          (.changed
            (component.value (component.operate before.held operation))))
        (.changed task
          (component.value (component.operate before.held operation)))
  | read (task : Task) (value : Value)
      (owing : before.duty task = .changed value) :
      Effect component before
        (before.setDuty task (.calling value (component.listeners before.held)))
        .quiet
  | told (task : Task) (value : Value) (listener : Listener)
      (rest : List Listener)
      (owing : before.duty task = .calling value (listener :: rest)) :
      Effect component before
        (before.setDuty task (.calling value rest))
        (.told task listener value)
  | finished (task : Task) (value : Value)
      (owing : before.duty task = .calling value []) :
      Effect component before (before.setDuty task .free) .quiet

omit [DecidableEq Value] in
theorem Effect.held
    (property : Held → Prop)
    (kept :
      ∀ held operation,
        property held → property (component.operate held operation))
    {before after : State Task Held Value Listener}
    {output : Output Task Value Listener}
    (effect : Effect component before after output)
    (holds : property before.held) :
    property after.held := by
  cases effect with
  | operated operation => exact kept _ operation holds
  | changed task operation => exact kept _ operation holds
  | _ => exact holds

theorem step_effect
    (component : Component Held Operation Value Listener)
    (state : State Task Held Value Listener)
    (action : Action Task Operation) :
    Effect component state (step component state action).1
      (step component state action).2 := by
  cases action with
  | operate task operation =>
      cases duty : state.duty task with
      | free =>
          simp only [step, duty, operate]
          split
          · next same => exact .operated operation same
          · next differs => exact .changed task operation duty differs
      | changed value | calling value listeners =>
          simp only [step, duty]
          exact .nothing
  | read task =>
      cases duty : state.duty task with
      | changed value =>
          simp only [step, duty]
          exact .read task value duty
      | free | calling value listeners =>
          simp only [step, duty]
          exact .nothing
  | call task =>
      cases duty : state.duty task with
      | calling value listeners =>
          cases listeners with
          | nil =>
              simp only [step, duty]
              exact .finished task value duty
          | cons listener rest =>
              simp only [step, duty]
              exact .told task value listener rest duty
      | free | changed value =>
          simp only [step, duty]
          exact .nothing

end

end

/-! ## What is heard, changed and owed -/

section

variable [DecidableEq Task] [DecidableEq Listener]

/-- The listener is told something by the task. -/
def Output.heard? (listener : Listener) (task : Task) :
    Output Task Value Listener → Option Value
  | .told teller hearer value =>
      if teller = task ∧ hearer = listener then some value else none
  | _ => none

/-- The task changes the value. -/
def Output.changed? (task : Task) :
    Output Task Value Listener → Option Value
  | .changed changer value => if changer = task then some value else none
  | _ => none

/-- The listener is told something by anyone. -/
def Output.heardFromAny? (listener : Listener) :
    Output Task Value Listener → Option Value
  | .told _ hearer value => if hearer = listener then some value else none
  | _ => none

/-- The value changes. -/
def Output.changedByAny? : Output Task Value Listener → Option Value
  | .changed _ value => some value
  | _ => none

/-- What the task still has to tell the listener. -/
def Duty.owed (listener : Listener) : Duty Value Listener → List Value
  | .free => []
  | .changed value => [value]
  | .calling value listeners =>
      List.replicate (listeners.count listener) value

end

/-- What a run shows of itself through one kind of output. -/
def shown {Machine Move Result Item : Type*}
    (item? : Result → Option Item)
    (past : List (Run.Transition Machine Move Result)) : List Item :=
  past.filterMap fun made => item? made.output

theorem shown_snoc {Machine Move Result Item : Type*}
    (item? : Result → Option Item)
    (past : List (Run.Transition Machine Move Result))
    (made : Run.Transition Machine Move Result) :
    shown item? (past ++ [made]) =
      shown item? past ++ (item? made.output).toList := by
  rw [shown, List.filterMap_append]
  cases shows : item? made.output with
  | _ => simp [shown, shows]

/-! ## Runs -/

section

variable [DecidableEq Task] [DecidableEq Value]
    {component : Component Held Operation Value Listener}

theorem value_eq_last_change
    (start : State Task Held Value Listener)
    (actions : List (Action Task Operation)) :
    component.value (Run.final (step component) start actions).held =
      (shown Output.changedByAny?
          (Run.history (step component) start actions)).getLastD
        (component.value start.held) := by
  refine
    Run.history_induction
      (motive := fun past (state : State Task Held Value Listener) =>
        component.value state.held =
          (shown Output.changedByAny? past).getLastD
            (component.value start.held))
      rfl ?_ actions
  intro past state action value
  rw [shown_snoc]
  have effect := step_effect component state action
  change
    component.value (step component state action).1.held =
      (shown Output.changedByAny? past ++
        (step component state action).2.changedByAny?.toList).getLastD _
  generalize (step component state action).1 = after,
    (step component state action).2 = output at effect ⊢
  cases effect with
  | operated operation same => simpa [Output.changedByAny?, same] using value
  | changed task operation => simp [Output.changedByAny?]
  | _ => simpa [Output.changedByAny?] using value

end

section

variable [DecidableEq Task] [DecidableEq Listener]
    {component : Component Held Operation Value Listener}
    {listener : Listener}

/-- The listener is to hear of every change, once. -/
def Listed
    (component : Component Held Operation Value Listener)
    (listener : Listener) (held : Held) : Prop :=
  (component.listeners held).count listener = 1

/-- What no operation of the component does: it forgets no listener, and lists
none a second time. -/
def KeepsListed
    (component : Component Held Operation Value Listener)
    (listener : Listener) : Prop :=
  ∀ held operation,
    Listed component listener held →
    Listed component listener (component.operate held operation)

/-- What a listener hears of a task, and is still owed by it, grows with what
the task changes. -/
theorem Effect.heard
    {before after : State Task Held Value Listener}
    {output : Output Task Value Listener}
    (effect : Effect component before after output)
    (listed : Listed component listener before.held) (task : Task) :
    (output.heard? listener task).toList ++ (after.duty task).owed listener =
      (before.duty task).owed listener ++
        (output.changed? task).toList := by
  cases effect with
  | changed worker operation wasFree =>
      by_cases own : task = worker
      · subst own
        simp [Output.heard?, Output.changed?, wasFree, Duty.owed]
      · rw [setDuty_duty_other _ own]
        simp [Output.heard?, Output.changed?, Ne.symm own]
  | read worker value owing =>
      by_cases own : task = worker
      · subst own
        have once : (component.listeners before.held).count listener = 1 :=
          listed
        simp [Output.heard?, Output.changed?, owing, Duty.owed, once]
      · rw [setDuty_duty_other _ own]
        simp [Output.heard?, Output.changed?]
  | told worker value hearer rest owing =>
      by_cases own : task = worker
      · subst own
        by_cases hears : hearer = listener
        · subst hears
          simp [Output.heard?, Output.changed?, owing, Duty.owed,
            List.replicate_succ]
        · simp [Output.heard?, Output.changed?, owing, Duty.owed, hears]
      · rw [setDuty_duty_other _ own]
        simp [Output.heard?, Output.changed?, Ne.symm own]
  | finished worker value owing =>
      by_cases own : task = worker
      · subst own
        simp [Output.heard?, Output.changed?, owing, Duty.owed]
      · rw [setDuty_duty_other _ own]
        simp [Output.heard?, Output.changed?]
  | _ => simp [Output.heard?, Output.changed?]

variable [DecidableEq Value]

/--
However the tasks interleave, a listener hears of each task what it owed at
the start and then what it changed, in this order and each once, up to what
the task still owes.
-/
theorem heard_exactly
    (kept : KeepsListed component listener)
    {start : State Task Held Value Listener}
    (listed : Listed component listener start.held)
    (task : Task) (actions : List (Action Task Operation)) :
    shown (Output.heard? listener task)
          (Run.history (step component) start actions) ++
        ((Run.final (step component) start actions).duty task).owed listener =
      (start.duty task).owed listener ++
        shown (Output.changed? task)
          (Run.history (step component) start actions) := by
  refine
    (Run.history_induction
      (motive := fun past (state : State Task Held Value Listener) =>
        Listed component listener state.held ∧
        shown (Output.heard? listener task) past ++
            (state.duty task).owed listener =
          (start.duty task).owed listener ++ shown (Output.changed? task) past)
      ⟨listed, ?_⟩ ?_ actions).2
  · simp [shown]
  · rintro past state action ⟨listed, balance⟩
    have effect := step_effect component state action
    refine ⟨effect.held (Listed component listener) kept listed, ?_⟩
    have grown := effect.heard listed task
    rw [shown_snoc, shown_snoc, List.append_assoc]
    refine (congrArg (_ ++ ·) grown).trans ?_
    rw [← List.append_assoc, balance, List.append_assoc]
    rfl

end

/-! ## One announcement at a time -/

section

variable [DecidableEq Listener] {listener : Listener}

/-- If the step changes the value, no task had anything left to announce. -/
def Alone
    (made :
      Run.Transition (State Task Held Value Listener)
        (Action Task Operation) (Output Task Value Listener)) :
    Prop :=
  made.output.changedByAny? ≠ none → ∀ task, made.before.duty task = .free

instance [Fintype Task] [DecidableEq Value]
    (made :
      Run.Transition (State Task Held Value Listener)
        (Action Task Operation) (Output Task Value Listener)) :
    Decidable (Alone made) :=
  inferInstanceAs
    (Decidable
      (made.output.changedByAny? ≠ none →
      ∀ task, made.before.duty task = .free))

/-- At most one task is announcing, and the listener has heard of every change
but what that task still owes. -/
def Serial
    (listener : Listener) (heard changes : List Value)
    (state : State Task Held Value Listener) : Prop :=
  (∀ task, state.duty task = .free) ∧ heard = changes ∨
  ∃ worker,
    (∀ other, other ≠ worker → state.duty other = .free) ∧
    heard ++ (state.duty worker).owed listener = changes

/-- When no task announces, the listener has heard of every change. -/
theorem Serial.settled
    {heard changes : List Value} {state : State Task Held Value Listener}
    (serial : Serial listener heard changes state)
    (free : ∀ task, state.duty task = .free) :
    heard = changes := by
  rcases serial with ⟨_, same⟩ | ⟨worker, _, balance⟩
  · exact same
  · simpa [free worker, Duty.owed] using balance

/-- A task that is not free is the one that announces. -/
theorem Serial.announcing
    {heard changes : List Value} {state : State Task Held Value Listener}
    (serial : Serial listener heard changes state)
    {task : Task} (busy : state.duty task ≠ .free) :
    (∀ other, other ≠ task → state.duty other = .free) ∧
    heard ++ (state.duty task).owed listener = changes := by
  rcases serial with ⟨free, _⟩ | ⟨worker, free, balance⟩
  · exact absurd (free task) busy
  · have isWorker : task = worker := by
      by_contra different
      exact busy (free task different)
    subst isWorker
    exact ⟨free, balance⟩

end

section

variable [DecidableEq Task] [DecidableEq Listener]
    {component : Component Held Operation Value Listener}
    {listener : Listener}
    {heard changes : List Value}
    {before after : State Task Held Value Listener}
    {output : Output Task Value Listener}

/-- The one task that announces goes on with it. -/
theorem Serial.next
    (serial : Serial listener heard changes before)
    {task : Task} (busy : before.duty task ≠ .free)
    {duty : Duty Value Listener} {told : List Value}
    (owed : (before.duty task).owed listener = told ++ duty.owed listener) :
    Serial listener (heard ++ told) changes (before.setDuty task duty) := by
  rcases serial.announcing busy with ⟨free, balance⟩
  refine .inr ⟨task, fun other different => ?_, ?_⟩
  · exact (setDuty_duty_other before different duty).trans
      (free other different)
  · rw [setDuty_duty_self, List.append_assoc, ← owed]
    exact balance

theorem Effect.serial
    (effect : Effect component before after output)
    (listed : Listed component listener before.held)
    (serial : Serial listener heard changes before)
    (alone : output.changedByAny? ≠ none → ∀ task, before.duty task = .free) :
    Serial listener (heard ++ (output.heardFromAny? listener).toList)
      (changes ++ output.changedByAny?.toList) after := by
  cases effect with
  | nothing =>
      simpa only [Output.heardFromAny?, Output.changedByAny?,
        Option.toList_none, List.append_nil] using serial
  | operated operation =>
      have same :
          Serial listener heard changes
            { before with
              held := component.operate before.held operation } :=
        serial
      simpa only [Output.heardFromAny?, Output.changedByAny?,
        Option.toList_none, List.append_nil] using same
  | changed task operation =>
      have free := alone (by simp [Output.changedByAny?])
      have same := serial.settled free
      refine .inr ⟨task, fun other different => ?_, ?_⟩
      · exact (setDuty_duty_other _ different _).trans (free other)
      · simp [Output.heardFromAny?, Output.changedByAny?, Duty.owed, same]
  | read task value owing =>
      have once : (component.listeners before.held).count listener = 1 := listed
      have next :
          Serial listener (heard ++ []) changes
            (before.setDuty task
              (.calling value (component.listeners before.held))) :=
        serial.next (by simp [owing]) (by simp [owing, Duty.owed, once])
      simpa [Output.heardFromAny?, Output.changedByAny?] using next
  | told task value hearer rest owing =>
      have busy : before.duty task ≠ .free := by simp [owing]
      simp only [Output.changedByAny?, Option.toList_none, List.append_nil]
      refine serial.next busy ?_
      by_cases hears : hearer = listener
      · simp [Output.heardFromAny?, owing, Duty.owed, hears,
          List.replicate_succ]
      · simp [Output.heardFromAny?, owing, Duty.owed, hears]
  | finished task value owing =>
      have next :
          Serial listener (heard ++ []) changes (before.setDuty task .free) :=
        serial.next (by simp [owing]) (by simp [owing, Duty.owed])
      simpa [Output.heardFromAny?, Output.changedByAny?] using next

variable [DecidableEq Value]

/--
When no task changes the value while another still announces, a listener that
is owed nothing hears of every change in order, and what it heard last is the
value.
-/
theorem heard_in_order
    (kept : KeepsListed component listener)
    {start : State Task Held Value Listener}
    (listed : Listed component listener start.held)
    (atRest : ∀ task, start.duty task = .free)
    (actions : List (Action Task Operation))
    (alone : ∀ made ∈ Run.history (step component) start actions, Alone made)
    (settled :
      ∀ task, (Run.final (step component) start actions).duty task = .free) :
    shown (Output.heardFromAny? listener)
          (Run.history (step component) start actions) =
        shown Output.changedByAny?
          (Run.history (step component) start actions) ∧
    component.value (Run.final (step component) start actions).held =
      (shown (Output.heardFromAny? listener)
          (Run.history (step component) start actions)).getLastD
        (component.value start.held) := by
  have serial :
      (∀ made ∈ Run.history (step component) start actions, Alone made) →
      Serial listener
        (shown (Output.heardFromAny? listener)
          (Run.history (step component) start actions))
        (shown Output.changedByAny?
          (Run.history (step component) start actions))
        (Run.final (step component) start actions) := by
    refine
      (Run.history_induction
        (motive := fun past (state : State Task Held Value Listener) =>
          Listed component listener state.held ∧
          ((∀ made ∈ past, Alone made) →
          Serial listener (shown (Output.heardFromAny? listener) past)
            (shown Output.changedByAny? past) state))
        ⟨listed, fun _ => .inl ⟨atRest, rfl⟩⟩ ?_ actions).2
    rintro past state action ⟨listed, serial⟩
    have effect := step_effect component state action
    refine
      ⟨effect.held (Listed component listener) kept listed, fun alone => ?_⟩
    rw [shown_snoc, shown_snoc]
    refine effect.serial listed (serial fun made member => ?_) ?_
    · exact alone made (List.mem_append_left _ member)
    · exact alone _ (List.mem_append_right _ (List.mem_singleton_self _))
  have heard := (serial alone).settled settled
  refine ⟨heard, ?_⟩
  rw [heard]
  exact value_eq_last_change start actions

end

end Endap.Library.Announce
