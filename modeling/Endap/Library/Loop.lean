import Mathlib.Tactic.Common

/-!
# Loops

A loop body reads the loop state and either goes on with a new state or stops
with a final one.  A loop whose body decreases a measure terminates; `run`
executes it with as many iterations as the measure allows, and `run_stop` and
`run_next` show that this is the loop itself.

The rules below reason about whole loops.  The invariant rule carries a
property from the entry to the exit, and a relation goes back from the exit to
the entry.  The lockstep rule compares two loops that take the same branches
as long as the first one ends well.
-/

namespace Endap.Library.Loop

variable {State Other : Type*}

/-- What an iteration does. -/
inductive Flow (State : Type*) where
  | next (state : State)
  | stop (state : State)

/-- At most the given number of iterations. -/
def iterate (body : State → Flow State) : Nat → State → State
  | 0, state => state
  | fuel + 1, state =>
      match body state with
      | .stop last => last
      | .next after => iterate body fuel after

/-- The body decreases the measure whenever the loop goes on. -/
def Decreasing (measure : State → Nat) (body : State → Flow State) : Prop :=
  ∀ state after, body state = .next after → measure after < measure state

/-- The loop. -/
def run
    (measure : State → Nat) (body : State → Flow State) (state : State) :
    State :=
  iterate body (measure state + 1) state

section

variable {measure : State → Nat} {body : State → Flow State}

theorem iterate_stable
    (decreasing : Decreasing measure body)
    {first second : Nat} {state : State}
    (enoughFirst : measure state < first)
    (enoughSecond : measure state < second) :
    iterate body first state = iterate body second state := by
  induction first generalizing second state with
  | zero => exact (Nat.not_lt_zero _ enoughFirst).elim
  | succ first induction =>
      cases second with
      | zero => exact (Nat.not_lt_zero _ enoughSecond).elim
      | succ second =>
          rw [iterate, iterate]
          cases flow : body state with
          | stop last => rfl
          | next after =>
              have smaller := decreasing state after flow
              exact induction (by omega) (by omega)

theorem run_stop
    {state last : State} (flow : body state = .stop last) :
    run measure body state = last := by
  rw [run, iterate, flow]

theorem run_next
    (decreasing : Decreasing measure body)
    {state after : State} (flow : body state = .next after) :
    run measure body state = run measure body after := by
  have smaller := decreasing state after flow
  rw [run, iterate, flow]
  exact iterate_stable decreasing smaller (Nat.lt_succ_self _)

/-- The invariant rule. -/
theorem run_invariant
    (decreasing : Decreasing measure body)
    (invariant finished : State → Prop)
    (goesOn :
      ∀ state after,
        invariant state → body state = .next after → invariant after)
    (stops :
      ∀ state last, invariant state → body state = .stop last → finished last)
    {state : State} (holds : invariant state) :
    finished (run measure body state) := by
  induction bound : measure state using Nat.strongRecOn
    generalizing state with
  | ind count induction =>
      cases flow : body state with
      | stop last =>
          rw [run_stop flow]
          exact stops state last holds flow
      | next after =>
          rw [run_next decreasing flow]
          have smaller := decreasing state after flow
          rw [bound] at smaller
          exact
            induction (measure after) smaller
              (goesOn state after holds flow) rfl

/-- The same for a relation between where a loop is and where it ends. -/
theorem run_relates
    (decreasing : Decreasing measure body)
    (related : State → State → Prop)
    (goesOn :
      ∀ state after last,
        body state = .next after → related after last → related state last)
    (stops : ∀ state last, body state = .stop last → related state last)
    (state : State) :
    related state (run measure body state) := by
  induction bound : measure state using Nat.strongRecOn
    generalizing state with
  | ind count induction =>
      cases flow : body state with
      | stop last =>
          rw [run_stop flow]
          exact stops state last flow
      | next after =>
          rw [run_next decreasing flow]
          have smaller := decreasing state after flow
          rw [bound] at smaller
          exact
            goesOn state after _ flow
              (induction (measure after) smaller after rfl)

/-- The loop comes from one state to another. -/
inductive Reaches (body : State → Flow State) : State → State → Prop where
  | here (state : State) : Reaches body state state
  | later {state after last : State}
      (flow : body state = .next after) (rest : Reaches body after last) :
      Reaches body state last

/-- An invariant holds wherever the loop comes. -/
theorem Reaches.invariant
    {invariant : State → Prop}
    (goesOn :
      ∀ state after,
        invariant state → body state = .next after → invariant after)
    {state last : State} (reaches : Reaches body state last)
    (holds : invariant state) : invariant last := by
  induction reaches with
  | here => exact holds
  | later flow _ induction => exact induction (goesOn _ _ holds flow)

/-- A loop ends where it ends from any state that it comes to. -/
theorem Reaches.run_eq
    (decreasing : Decreasing measure body) {state after : State}
    (reaches : Reaches body state after) :
    run measure body state = run measure body after := by
  induction reaches with
  | here => rfl
  | later flow _ induction => exact (run_next decreasing flow).trans induction

end

section

variable {measure : State → Nat} {body : State → Flow State}
variable {otherMeasure : Other → Nat} {otherBody : Other → Flow Other}

/-- One iteration of two loops in lockstep. -/
inductive Together
    (related finished : State → Other → Prop) :
    Flow State → Flow Other → Prop where
  | goOn {state : State} {other : Other} (still : related state other) :
      Together related finished (.next state) (.next other)
  | stop {state : State} {other : Other} (ended : finished state other) :
      Together related finished (.stop state) (.stop other)

/--
The lockstep rule.  Each iteration may assume how the first loop ends from
where it is.
-/
theorem run_lockstep
    (decreasing : Decreasing measure body)
    (otherDecreasing : Decreasing otherMeasure otherBody)
    {related finished : State → Other → Prop} {ends : State → Prop}
    (together :
      ∀ state other,
        related state other →
        ends (run measure body state) →
        Together related finished (body state) (otherBody other))
    {state : State} {other : Other}
    (holds : related state other)
    (well : ends (run measure body state)) :
    finished (run measure body state)
      (run otherMeasure otherBody other) := by
  induction bound : measure state using Nat.strongRecOn
    generalizing state other with
  | ind count induction =>
      have iteration := together state other holds well
      cases flow : body state with
      | stop last =>
          cases otherFlow : otherBody other with
          | stop otherLast =>
              rw [flow, otherFlow] at iteration
              rw [run_stop flow, run_stop otherFlow]
              cases iteration with
              | stop ended => exact ended
          | next otherAfter =>
              rw [flow, otherFlow] at iteration
              cases iteration
      | next after =>
          cases otherFlow : otherBody other with
          | stop otherLast =>
              rw [flow, otherFlow] at iteration
              cases iteration
          | next otherAfter =>
              rw [flow, otherFlow] at iteration
              rw [run_next decreasing flow] at well
              rw [run_next decreasing flow, run_next otherDecreasing otherFlow]
              have smaller := decreasing state after flow
              rw [bound] at smaller
              cases iteration with
              | goOn still =>
                  exact induction (measure after) smaller still well rfl

end

end Endap.Library.Loop
