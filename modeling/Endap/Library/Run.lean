import Mathlib.Data.List.Induction

/-!
# Runs of a component

A component is a total function from its state and one call to the next state
and the value the call returns.  A run is a finite list of calls; its history
records, call by call, the state before, what was returned and the state
after.

The module gives the two rules by which a property of one call becomes a
property of a whole run: a relation between the history and the state reached
is carried from call to call, and an invariant holds before every call.
-/

namespace Endap.Library.Run

variable {State Action Output : Type*}

/-- One call of a component, with the states on both sides of it. -/
structure Transition (State Action Output : Type*) where
  before : State
  action : Action
  output : Output
  after : State

/-- The transition made by one call. -/
def call
    (component : State → Action → State × Output)
    (state : State) (action : Action) :
    Transition State Action Output where
  before := state
  action := action
  output := (component state action).2
  after := (component state action).1

/-- The state after a list of calls. -/
def final
    (component : State → Action → State × Output) :
    State → List Action → State
  | state, [] => state
  | state, action :: rest =>
      final component (component state action).1 rest

/-- The transitions of a list of calls, oldest first. -/
def history
    (component : State → Action → State × Output) :
    State → List Action → List (Transition State Action Output)
  | _, [] => []
  | state, action :: rest =>
      call component state action ::
        history component (component state action).1 rest

section

variable (component : State → Action → State × Output)

theorem final_append
    (start : State) (first second : List Action) :
    final component start (first ++ second) =
      final component (final component start first) second := by
  induction first generalizing start with
  | nil => rfl
  | cons action rest induction =>
      exact induction _

theorem history_append
    (start : State) (first second : List Action) :
    history component start (first ++ second) =
      history component start first ++
        history component (final component start first) second := by
  induction first generalizing start with
  | nil => rfl
  | cons action rest induction =>
      simp [history, final, induction]

/-- A run grows by one call at its end. -/
theorem history_snoc
    (start : State) (actions : List Action) (action : Action) :
    history component start (actions ++ [action]) =
      history component start actions ++
        [call component (final component start actions) action] := by
  rw [history_append]
  rfl

/-- Every call of a run is in its history, from the state it is made in. -/
theorem call_mem_history
    (start : State) (earlier : List Action) (action : Action)
    (later : List Action) :
    call component (final component start earlier) action ∈
      history component start (earlier ++ action :: later) := by
  rw [history_append]
  exact List.mem_append_right _ (List.mem_cons_self ..)

/-- The calls of a part of a run are calls of the run. -/
theorem mem_history_of_part
    (start : State) (earlier part later : List Action)
    {made : Transition State Action Output}
    (member : made ∈ history component (final component start earlier) part) :
    made ∈ history component start (earlier ++ part ++ later) := by
  rw [history_append, history_append]
  exact List.mem_append_left _ (List.mem_append_right _ member)

theorem final_snoc
    (start : State) (actions : List Action) (action : Action) :
    final component start (actions ++ [action]) =
      (component (final component start actions) action).1 := by
  rw [final_append]
  rfl

end

/-! ## Two components -/

section

variable {Abstract : Type*}
    {component : State → Action → State × Output}
    {specification : Abstract → Action → Abstract × Output}

/-- A component that does in each call what its specification does. -/
def Refines
    (component : State → Action → State × Output)
    (specification : Abstract → Action → Abstract × Output)
    (view : State → Abstract) : Prop :=
  ∀ state action,
    Prod.map view id (component state action) =
      specification (view state) action

/-- A run of the component, viewed, is the run of its specification. -/
theorem Refines.final
    {view : State → Abstract}
    (refines : Refines component specification view)
    (start : State) (actions : List Action) :
    view (final component start actions) =
      Run.final specification (view start) actions := by
  induction actions generalizing start with
  | nil => rfl
  | cons action rest induction =>
      have next := congrArg Prod.fst (refines start action)
      exact (induction _).trans (congrArg (Run.final _ · rest) next)

theorem Refines.outputs
    {view : State → Abstract}
    (refines : Refines component specification view)
    (start : State) (actions : List Action) :
    (history component start actions).map Transition.output =
      (history specification (view start) actions).map
        Transition.output := by
  induction actions generalizing start with
  | nil => rfl
  | cons action rest induction =>
      have next := congrArg Prod.fst (refines start action)
      have returned := congrArg Prod.snd (refines start action)
      refine congrArg₂ List.cons returned ((induction _).trans ?_)
      exact
        congrArg
          (fun state =>
            (history specification state rest).map Transition.output)
          next

/--
A component that does in each call what its specification does, as long as
it keeps an invariant, keeps the invariant and returns what the specification
returns along every run.
-/
theorem refines_along
    {view : State → Abstract} (invariant : State → Prop)
    (step :
      ∀ state action,
        invariant state →
        invariant (component state action).1 ∧
        Prod.map view id (component state action) =
          specification (view state) action)
    {start : State} (holds : invariant start) (actions : List Action) :
    invariant (Run.final component start actions) ∧
    view (Run.final component start actions) =
        Run.final specification (view start) actions ∧
    (history component start actions).map Transition.output =
      (history specification (view start) actions).map
        Transition.output := by
  induction actions generalizing start with
  | nil => exact ⟨holds, rfl, rfl⟩
  | cons action rest induction =>
      rcases step start action holds with ⟨kept, same⟩
      have next := congrArg Prod.fst same
      have returned := congrArg Prod.snd same
      rcases induction kept with ⟨still, reached, outputs⟩
      refine ⟨still, ?_, ?_⟩
      · exact reached.trans (congrArg (Run.final _ · rest) next)
      · refine congrArg₂ List.cons returned (outputs.trans ?_)
        exact
          congrArg
            (fun state =>
              (history specification state rest).map Transition.output)
            next

end

variable {component : State → Action → State × Output}

/--
Induction along a run: a relation between the history and the state reached
holds of every run once it holds of the empty run and is kept by one more
call.
-/
theorem history_induction
    {motive : List (Transition State Action Output) → State → Prop}
    {start : State}
    (empty : motive [] start)
    (extend :
      ∀ past state action,
        motive past state →
        motive (past ++ [call component state action])
          (component state action).1)
    (actions : List Action) :
    motive (history component start actions)
      (final component start actions) := by
  induction actions using List.reverseRecOn with
  | nil => exact empty
  | append_singleton earlier action induction =>
      rw [history_snoc, final_snoc]
      exact extend _ _ action induction

/-- An invariant that every call keeps holds where a run ends. -/
theorem final_invariant
    (invariant : State → Prop)
    {start : State}
    (holds : invariant start)
    (kept :
      ∀ state action, invariant state → invariant (component state action).1)
    (actions : List Action) :
    invariant (final component start actions) :=
  history_induction (motive := fun _ state => invariant state) holds
    (fun _ => kept) actions

/-- Every transition of a run starts in a state that satisfies the invariant. -/
theorem history_invariant
    (invariant : State → Prop)
    {start : State}
    (holds : invariant start)
    (kept :
      ∀ state action, invariant state → invariant (component state action).1)
    {actions : List Action}
    {transition : Transition State Action Output}
    (member : transition ∈ history component start actions) :
    invariant transition.before ∧
    transition =
      call component transition.before transition.action := by
  induction actions generalizing start with
  | nil => cases member
  | cons action rest induction =>
      rcases List.mem_cons.mp member with rfl | later
      · exact ⟨holds, rfl⟩
      · exact induction (kept start action holds) later

/--
An invariant that the allowed calls keep holds along every run of allowed
calls.
-/
theorem allowed_invariant
    (invariant : State → Prop) (allowed : State → Action → Prop)
    (kept :
      ∀ state action,
        invariant state → allowed state action →
        invariant (component state action).1)
    {start : State} (holds : invariant start) {actions : List Action}
    (permitted :
      ∀ transition ∈ history component start actions,
        allowed transition.before transition.action) :
    invariant (final component start actions) ∧
    ∀ transition ∈ history component start actions,
      invariant transition.before := by
  induction actions generalizing start with
  | nil => exact ⟨holds, fun _ member => by cases member⟩
  | cons action rest induction =>
      have next := kept start action holds (permitted _ (List.mem_cons_self ..))
      rcases
        induction next fun transition member =>
          permitted transition (List.mem_cons_of_mem _ member) with
        ⟨reached, along⟩
      refine ⟨reached, ?_⟩
      intro transition member
      rcases List.mem_cons.mp member with rfl | later
      · exact holds
      · exact along transition later

/--
When a call is good exactly if it is allowed, and a good call keeps the
invariant, the calls of a run are all good exactly if all of them are allowed.
-/
theorem history_good_iff
    (invariant : State → Prop)
    (good : Transition State Action Output → Prop)
    (allowed : State → Action → Prop)
    (step :
      ∀ state action,
        invariant state →
        (good (call component state action) ↔ allowed state action))
    (kept :
      ∀ state action,
        invariant state → good (call component state action) →
        invariant (component state action).1)
    {start : State} (holds : invariant start) (actions : List Action) :
    (∀ transition ∈ history component start actions, good transition) ↔
    ∀ transition ∈ history component start actions,
      allowed transition.before transition.action := by
  induction actions generalizing start with
  | nil => simp [history]
  | cons action rest induction =>
      rw [history, List.forall_mem_cons, List.forall_mem_cons]
      constructor
      · rintro ⟨first, later⟩
        exact
          ⟨(step start action holds).mp first,
            (induction (kept start action holds first)).mp later⟩
      · rintro ⟨permitted, later⟩
        have first := (step start action holds).mpr permitted
        exact ⟨first, (induction (kept start action holds first)).mpr later⟩

/--
When a call keeps the invariant exactly if it is allowed, the invariant holds
after every call of a run exactly if all of them are allowed.
-/
theorem history_invariant_iff
    (invariant : State → Prop) (allowed : State → Action → Prop)
    (step :
      ∀ state action,
        invariant state →
        (invariant (component state action).1 ↔ allowed state action))
    {start : State} (holds : invariant start) (actions : List Action) :
    (∀ transition ∈ history component start actions,
        invariant transition.after) ↔
      ∀ transition ∈ history component start actions,
        allowed transition.before transition.action :=
  history_good_iff invariant (fun made => invariant made.after) allowed step
    (fun _ _ _ kept => kept) holds actions

/-- A transition of a run is the call it records. -/
theorem eq_call_of_mem_history
    {start : State} {actions : List Action}
    {transition : Transition State Action Output}
    (member : transition ∈ history component start actions) :
    transition = call component transition.before transition.action :=
  (history_invariant (fun _ => True) trivial (fun _ _ _ => trivial) member).2

/-! ## Calls that take several steps -/

section

variable {Call : Type*} {component : State → Action → State × Output}

/-- The last call that was opened is `call`, and `since` is what came after
it. -/
def Since
    (opens : Output → Option Call) (call : Call)
    (past since : List (Transition State Action Output)) : Prop :=
  ∃ earlier opening,
    past = earlier ++ opening :: since ∧
    opens opening.output = some call ∧
    ∀ transition ∈ since, opens transition.output = none

theorem Since.snoc
    {opens : Output → Option Call} {call : Call}
    {past since : List (Transition State Action Output)}
    (open' : Since opens call past since)
    {transition : Transition State Action Output}
    (other : opens transition.output = none) :
    Since opens call (past ++ [transition]) (since ++ [transition]) := by
  rcases open' with ⟨earlier, opening, rfl, opened, others⟩
  refine ⟨earlier, opening, by simp, opened, ?_⟩
  intro later member
  rcases List.mem_append.mp member with inSince | isLast
  · exact others later inSince
  · rw [List.mem_singleton.mp isLast]
    exact other

/-- What a component must do for an invariant of its open call. -/
structure KeepsCall
    (component : State → Action → State × Output)
    (current : State → Option Call) (opens : Output → Option Call)
    (allowed : State → Action → Prop)
    (invariant : Call → List (Transition State Action Output) → State → Prop) :
    Prop where
  opened :
    ∀ state action call,
      current state = none → allowed state action →
      current (component state action).1 = some call →
      opens (component state action).2 = some call ∧
      invariant call [] (component state action).1
  kept :
    ∀ state action call since,
      current state = some call → invariant call since state →
      current (component state action).1 = none ∨
      current (component state action).1 = some call ∧
      opens (component state action).2 = none ∧
      invariant call
        (since ++ [Run.call component state action])
        (component state action).1

/--
In every run of allowed steps, the invariant relates the open call, what came
since it was opened, and the state reached.
-/
theorem KeepsCall.since
    {current : State → Option Call} {opens : Output → Option Call}
    {allowed : State → Action → Prop}
    {invariant :
      Call → List (Transition State Action Output) → State → Prop}
    (keeps : KeepsCall component current opens allowed invariant)
    {start : State} (closed : current start = none)
    (actions : List Action)
    (permitted :
      ∀ transition ∈ history component start actions,
        allowed transition.before transition.action)
    {call : Call}
    (isOpen : current (final component start actions) = some call) :
    ∃ since,
      Since opens call (history component start actions) since ∧
      invariant call since (final component start actions) := by
  induction actions using List.reverseRecOn generalizing call with
  | nil =>
      rw [final, closed] at isOpen
      cases isOpen
  | append_singleton earlier action induction =>
      rw [history_snoc] at permitted ⊢
      rw [final_snoc] at isOpen ⊢
      have before := fun transition member =>
        permitted transition (List.mem_append_left _ member)
      have here :=
        permitted _ (List.mem_append_right _ (List.mem_singleton_self _))
      cases was : current (final component start earlier) with
      | none =>
          rcases keeps.opened _ action call was here isOpen with
            ⟨opening, holds⟩
          refine ⟨[], ⟨_, _, rfl, opening, ?_⟩, holds⟩
          intro _ member
          cases member
      | some previous =>
          rcases induction before was with ⟨since, open', holds⟩
          rcases keeps.kept _ action previous since was holds with
            ended | ⟨still, other, next⟩
          · rw [ended] at isOpen
            cases isOpen
          · rw [still] at isOpen
            cases isOpen
            exact ⟨_, open'.snoc other, next⟩

end

/-- A property that holds where a run starts and not where it ends is given
up by one of its calls. -/
theorem exists_leaving
    {property : State → Prop} {start : State}
    (holds : property start) {actions : List Action}
    (ends : ¬ property (final component start actions)) :
    ∃ made ∈ history component start actions,
      property made.before ∧ ¬ property made.after := by
  induction actions generalizing start with
  | nil => exact absurd holds ends
  | cons action rest induction =>
      by_cases kept : property (component start action).1
      · rcases induction kept ends with ⟨made, member, leaving⟩
        exact ⟨made, List.mem_cons_of_mem _ member, leaving⟩
      · exact ⟨call component start action, List.mem_cons_self .., holds, kept⟩

/-! ## Costs along a run -/

/-- The sum of what the transitions of a run cost. -/
def total (cost : Transition State Action Output → Nat)
    (made : List (Transition State Action Output)) : Nat :=
  made.foldr (fun transition sum => cost transition + sum) 0

/--
When every call pays its cost from what it earns and from a potential of the
state, a run pays its costs from what it earns and from the potential it
starts with.
-/
theorem total_cost_le
    {potential : State → Nat}
    {cost income : Transition State Action Output → Nat}
    {start : State} {actions : List Action}
    (pays :
      ∀ made ∈ history component start actions,
        cost made + potential made.after ≤
          potential made.before + income made) :
    total cost (history component start actions) +
        potential (final component start actions) ≤
      potential start + total income (history component start actions) := by
  induction actions generalizing start with
  | nil => exact Nat.le_of_eq (Nat.zero_add _)
  | cons action actions induction =>
      have first := pays _ (List.mem_cons_self ..)
      have later :=
        induction fun made member =>
          pays made (List.mem_cons_of_mem _ member)
      simp only [total, history, final, List.foldr_cons] at later ⊢
      simp only [call] at first later ⊢
      omega

end Endap.Library.Run
