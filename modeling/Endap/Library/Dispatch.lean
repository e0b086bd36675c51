import Endap.Library.Run
import Mathlib.Data.List.Flatten

/-!
# A bounded queue and its dispatcher

Items are published into a queue of bounded capacity; an item that finds the
queue full is dropped.  A dispatcher that is called with a budget takes items
from the queue and makes the visits of each item, one at a time, until the
budget is used up or the queue is empty.

The dispatcher does one thing at a time, and items may be published between
any two of its steps, by a visit or by anyone else.  There is one dispatcher:
a call that is made during another one is not made.
-/

namespace Endap.Library.Dispatch

variable {Item Visit Budget : Type*}

/-- What a queue and its dispatcher depend on. -/
structure Rules (Item Visit Budget : Type*) where
  capacity : Nat
  visits : Item → List Visit
  amount : Budget → Nat

/-- A call of the dispatcher: the budget that is left, and during an item the
visits that are left of it. -/
structure Call (Visit : Type*) where
  remaining : Nat
  visits : Option (List Visit)

/-- The items that wait, oldest first, and the call that is running. -/
structure State (Item Visit : Type*) where
  waiting : List Item
  call : Option (Call Visit)

/-- Something is published, the dispatcher is called, or it takes a step. -/
inductive Action (Item Budget : Type*) where
  | publish (item : Item)
  | dispatch (budget : Budget)
  | advance

/-- The dispatcher takes a step. -/
def Action.isAdvance : Action Item Budget → Bool
  | .advance => true
  | _ => false

/-- What an action does. -/
inductive Output (Item Visit : Type*) where
  | accepted (item : Item)
  | dropped (item : Item)
  | started
  | taken (item : Item)
  | visited (visit : Visit)
  | finished
  | returned
  | idle

/-- One step of a call. -/
def advance (rules : Rules Item Visit Budget) (waiting : List Item) :
    Call Visit → State Item Visit × Output Item Visit
  | { remaining, visits := some (visit :: rest) } =>
      ({ waiting := waiting
         call := some { remaining := remaining, visits := some rest } },
        .visited visit)
  | { remaining, visits := some [] } =>
      ({ waiting := waiting
         call := some { remaining := remaining, visits := none } },
        .finished)
  | { remaining := 0, visits := none } =>
      ({ waiting := waiting, call := none }, .returned)
  | { remaining := remaining + 1, visits := none } =>
      match waiting with
      | [] => ({ waiting := [], call := none }, .returned)
      | item :: rest =>
          ({ waiting := rest
             call :=
              some
                { remaining := remaining
                  visits := some (rules.visits item) } },
            .taken item)

/-- One action on the queue. -/
def step (rules : Rules Item Visit Budget) (state : State Item Visit) :
    Action Item Budget → State Item Visit × Output Item Visit
  | .publish item =>
      if state.waiting.length = rules.capacity then (state, .dropped item)
      else
        ({ state with waiting := state.waiting ++ [item] }, .accepted item)
  | .dispatch budget =>
      match state.call with
      | some _ => (state, .idle)
      | none =>
          if rules.amount budget = 0 then (state, .returned)
          else
            ({ state with
                call :=
                  some { remaining := rules.amount budget, visits := none } },
              .started)
  | .advance =>
      match state.call with
      | none => (state, .idle)
      | some call => advance rules state.waiting call

/-! ## What a run did -/

/-- The item that was accepted. -/
def Output.accepted? : Output Item Visit → Option Item
  | .accepted item => some item
  | _ => none

/-- The item that was taken from the queue. -/
def Output.taken? : Output Item Visit → Option Item
  | .taken item => some item
  | _ => none

/-- The visit that was made. -/
def Output.visited? : Output Item Visit → Option Visit
  | .visited visit => some visit
  | _ => none

/-- The items that were accepted, in order. -/
def accepted (outputs : List (Output Item Visit)) : List Item :=
  outputs.filterMap Output.accepted?

/-- The items that were taken, in order. -/
def taken (outputs : List (Output Item Visit)) : List Item :=
  outputs.filterMap Output.taken?

/-- The visits that were made, in order. -/
def visited (outputs : List (Output Item Visit)) : List Visit :=
  outputs.filterMap Output.visited?

def outputs {Machine : Type*}
    (component : Machine → Action Item Budget → Machine × Output Item Visit)
    (start : Machine) (actions : List (Action Item Budget)) :
    List (Output Item Visit) :=
  (Run.history component start actions).map Run.Transition.output

/-- The visits that are left of the item that was taken last. -/
def State.inFlight (state : State Item Visit) : List Visit :=
  (state.call.bind Call.visits).getD []

/-- The budget that is left. -/
def State.left (state : State Item Visit) : Nat :=
  (state.call.map Call.remaining).getD 0

/-! ## One step -/

section

variable (rules : Rules Item Visit Budget)

/-- What an action does to the items that wait and to the visits that are
left. -/
structure StepEffect (before after : State Item Visit)
    (output : Output Item Visit) : Prop where
  items : before.waiting ++ accepted [output] = taken [output] ++ after.waiting
  visits :
    before.inFlight ++ (taken [output]).flatMap rules.visits =
      visited [output] ++ after.inFlight

theorem advance_effect (waiting : List Item) (call : Call Visit) :
    StepEffect rules { waiting := waiting, call := some call }
      (advance rules waiting call).1 (advance rules waiting call).2 := by
  rcases call with ⟨remaining, _ | _ | ⟨visit, rest⟩⟩
  · cases remaining with
    | zero => exact ⟨List.append_nil _, rfl⟩
    | succ remaining =>
        cases waiting with
        | nil => exact ⟨rfl, rfl⟩
        | cons item waiting =>
            exact ⟨List.append_nil _, List.append_nil _⟩
  · exact ⟨List.append_nil _, rfl⟩
  · exact ⟨List.append_nil _, List.append_nil _⟩

theorem step_effect
    (state : State Item Visit) (action : Action Item Budget) :
    StepEffect rules state (step rules state action).1
      (step rules state action).2 := by
  cases action with
  | publish item =>
      rw [step]
      split
      · exact ⟨List.append_nil _, List.append_nil _⟩
      · exact ⟨rfl, List.append_nil _⟩
  | dispatch budget =>
      rcases state with ⟨waiting, _ | call⟩
      · simp only [step]
        split
        · exact ⟨List.append_nil _, rfl⟩
        · exact ⟨List.append_nil _, rfl⟩
      · exact ⟨List.append_nil _, List.append_nil _⟩
  | advance =>
      rcases state with ⟨waiting, _ | call⟩
      · exact ⟨List.append_nil _, rfl⟩
      · exact advance_effect rules waiting call

/-- An item is dropped exactly when the queue is full. -/
theorem publish_dropped_iff (state : State Item Visit) (item : Item) :
    (step rules state (.publish item)).2 = .dropped item ↔
    state.waiting.length = rules.capacity := by
  rw [step]
  split
  · next full => exact iff_of_true rfl full
  · next room => exact iff_of_false (fun same => by cases same) room

/-- An action leaves a running call running and takes its items from the
budget, or it ends the call. -/
theorem step_running
    {state : State Item Visit} (running : state.call ≠ none)
    (action : Action Item Budget) :
    ((step rules state action).1.call ≠ none ∧
        (step rules state action).1.left +
            (taken [(step rules state action).2]).length =
          state.left) ∨
      (step rules state action).1.call = none ∧
      (step rules state action).2 = .returned ∧
      (state.left = 0 ∨ state.waiting = []) := by
  rcases state with ⟨waiting, _ | ⟨remaining, visits⟩⟩
  · exact absurd rfl running
  · cases action with
    | publish item =>
        left
        rw [step]
        split
        · exact ⟨running, rfl⟩
        · exact ⟨running, rfl⟩
    | dispatch budget => exact Or.inl ⟨running, rfl⟩
    | advance =>
        rcases visits with _ | _ | ⟨visit, rest⟩
        · cases remaining with
          | zero => exact Or.inr ⟨rfl, rfl, Or.inl rfl⟩
          | succ remaining =>
              cases waiting with
              | nil => exact Or.inr ⟨rfl, rfl, Or.inr rfl⟩
              | cons item waiting => exact Or.inl ⟨nofun, rfl⟩
        · exact Or.inl ⟨nofun, rfl⟩
        · exact Or.inl ⟨nofun, rfl⟩

end

/-! ## Runs -/

theorem accepted_cons
    (output : Output Item Visit) (rest : List (Output Item Visit)) :
    accepted (output :: rest) = accepted [output] ++ accepted rest :=
  List.filterMap_append (l := [output])

theorem taken_cons
    (output : Output Item Visit) (rest : List (Output Item Visit)) :
    taken (output :: rest) = taken [output] ++ taken rest :=
  List.filterMap_append (l := [output])

theorem visited_cons
    (output : Output Item Visit) (rest : List (Output Item Visit)) :
    visited (output :: rest) = visited [output] ++ visited rest :=
  List.filterMap_append (l := [output])

section

variable (rules : Rules Item Visit Budget)

/-- The items come out in the order in which they were accepted, and those
that did not come out wait. -/
theorem run_items
    (start : State Item Visit) (actions : List (Action Item Budget)) :
    start.waiting ++ accepted (outputs (step rules) start actions) =
      taken (outputs (step rules) start actions) ++
        (Run.final (step rules) start actions).waiting := by
  induction actions generalizing start with
  | nil => exact List.append_nil _
  | cons action rest induction =>
      have later := induction (step rules start action).1
      have here := (step_effect rules start action).items
      calc
        start.waiting ++
              accepted (outputs (step rules) start (action :: rest)) =
            (start.waiting ++ accepted [(step rules start action).2]) ++
              accepted
                (outputs (step rules) (step rules start action).1 rest) := by
          rw [List.append_assoc, ← accepted_cons]
          rfl
        _ =
            taken [(step rules start action).2] ++
              ((step rules start action).1.waiting ++
                accepted
                  (outputs (step rules) (step rules start action).1
                    rest)) := by
          rw [here, List.append_assoc]
        _ = _ := by
          rw [later, ← List.append_assoc, ← taken_cons]
          rfl

/-- The visits of the items that were taken are made in order; those that
were not made are left. -/
theorem run_visits
    (start : State Item Visit) (actions : List (Action Item Budget)) :
    start.inFlight ++
        (taken (outputs (step rules) start actions)).flatMap rules.visits =
      visited (outputs (step rules) start actions) ++
        (Run.final (step rules) start actions).inFlight := by
  induction actions generalizing start with
  | nil => exact List.append_nil _
  | cons action rest induction =>
      have later := induction (step rules start action).1
      have here := (step_effect rules start action).visits
      calc
        start.inFlight ++
              (taken
                (outputs (step rules) start (action :: rest))).flatMap
                rules.visits =
            (start.inFlight ++
                (taken [(step rules start action).2]).flatMap rules.visits) ++
              (taken
                (outputs (step rules) (step rules start action).1
                  rest)).flatMap rules.visits := by
          rw [List.append_assoc, ← List.flatMap_append, ← taken_cons]
          rfl
        _ =
            visited [(step rules start action).2] ++
              ((step rules start action).1.inFlight ++
                (taken
                  (outputs (step rules) (step rules start action).1
                    rest)).flatMap rules.visits) := by
          rw [here, List.append_assoc]
        _ = _ := by
          rw [later, ← List.append_assoc, ← visited_cons]
          rfl

/--
The visits of all accepted items, in the order of the items, are those that
were made, those that are left of the present item and those of the items
that wait.
-/
theorem run_delivery
    (start : State Item Visit) (actions : List (Action Item Budget)) :
    start.inFlight ++
        (start.waiting ++
          accepted (outputs (step rules) start actions)).flatMap rules.visits =
      visited (outputs (step rules) start actions) ++
        (Run.final (step rules) start actions).inFlight ++
          (Run.final (step rules) start actions).waiting.flatMap
            rules.visits := by
  rw [run_items, List.flatMap_append, ← List.append_assoc, run_visits]

end

/-! ## Calls -/

/-- The component is busy before each of the actions, and not after them. -/
def Lasts {Machine Move Result : Type*}
    (component : Machine → Move → Machine × Result)
    (Busy : Machine → Prop) : Machine → List Move → Prop
  | state, [] => ¬ Busy state
  | state, action :: rest =>
      Busy state ∧ Lasts component Busy (component state action).1 rest

/-- A component and its specification are busy for the same time. -/
theorem lasts_iff_of_refines
    {Machine Abstract Move Result : Type*}
    {component : Machine → Move → Machine × Result}
    {specification : Abstract → Move → Abstract × Result}
    {view : Machine → Abstract}
    (refines : Run.Refines component specification view)
    {Busy : Machine → Prop} {Running : Abstract → Prop}
    (same : ∀ state, Busy state ↔ Running (view state))
    (state : Machine) (actions : List Move) :
    Lasts component Busy state actions ↔
    Lasts specification Running (view state) actions := by
  induction actions generalizing state with
  | nil => exact not_congr (same state)
  | cons action rest induction =>
      have next := congrArg Prod.fst (refines state action)
      refine and_congr (same state) ?_
      rw [← next]
      exact induction _

section

variable (rules : Rules Item Visit Budget)

/-- A call that ends has taken as many items as its budget allows, or all
there were. -/
theorem taken_length
    {start : State Item Visit} {actions : List (Action Item Budget)}
    (lasts :
      Lasts (step rules) (fun state => state.call ≠ none) start actions) :
    (taken (outputs (step rules) start actions)).length =
      min start.left
        (start.waiting ++
          accepted (outputs (step rules) start actions)).length := by
  induction actions generalizing start with
  | nil =>
      have closed : start.call = none := not_not.mp lasts
      rw [State.left, closed]
      exact (Nat.zero_min _).symm
  | cons action rest induction =>
      have items := congrArg List.length (step_effect rules start action).items
      have counted :
          (taken (outputs (step rules) start (action :: rest))).length =
            (taken [(step rules start action).2]).length +
              (taken
                (outputs (step rules) (step rules start action).1
                  rest)).length := by
        rw [← List.length_append, ← taken_cons]
        rfl
      have arrived :
          (accepted (outputs (step rules) start (action :: rest))).length =
            (accepted [(step rules start action).2]).length +
              (accepted
                (outputs (step rules) (step rules start action).1
                  rest)).length := by
        rw [← List.length_append, ← accepted_cons]
        rfl
      rw [List.length_append] at items
      rw [List.length_append] at items
      rw [List.length_append, counted, arrived]
      rcases step_running rules lasts.1 action with
        ⟨-, budget⟩ | ⟨closed, returned, ended⟩
      · have later := induction lasts.2
        rw [List.length_append] at later
        omega
      · -- the call is over, so no action is left
        have none : rest = [] := by
          cases rest with
          | nil => rfl
          | cons _ _ => exact absurd closed lasts.2.1
        rw [returned, none]
        show 0 = min start.left (start.waiting.length + (0 + 0))
        rcases ended with used | empty
        · omega
        · rw [empty]
          exact (Nat.min_zero _).symm

/--
A call that ends has taken the first items of those that waited when it began
or came since, as many as its budget allows.
-/
theorem taken_eq_take
    {start : State Item Visit} {actions : List (Action Item Budget)}
    (lasts :
      Lasts (step rules) (fun state => state.call ≠ none) start actions) :
    taken (outputs (step rules) start actions) =
      (start.waiting ++
        accepted (outputs (step rules) start actions)).take start.left := by
  have count := taken_length rules lasts
  rw [run_items] at count ⊢
  rw [List.length_append] at count
  rcases Nat.lt_or_ge
      (taken (outputs (step rules) start actions)).length start.left with
    unused | used
  · have empty :
        (Run.final (step rules) start actions).waiting = [] :=
      List.eq_nil_of_length_eq_zero (by omega)
    rw [empty, List.append_nil, List.take_of_length_le (by omega)]
  · rw [List.take_left' (by omega)]

/-- What is left of a call when no item has more visits than the bound. -/
def State.work (bound : Nat) (state : State Item Visit) : Nat :=
  match state.call with
  | none => 0
  | some { remaining, visits := none } => remaining * (bound + 2) + 1
  | some { remaining, visits := some visits } =>
      visits.length + 1 + (remaining * (bound + 2) + 1)

/-- Every step of the dispatcher is one step less to do; nothing else changes
that. -/
theorem step_work
    {bound : Nat} (bounded : ∀ item, (rules.visits item).length ≤ bound)
    {state : State Item Visit} (running : state.call ≠ none)
    (action : Action Item Budget) :
    (step rules state action).1.work bound +
        (if action.isAdvance then 1 else 0) ≤
      state.work bound := by
  rcases state with ⟨waiting, _ | ⟨remaining, visits⟩⟩
  · exact absurd rfl running
  · cases action with
    | publish item =>
        rw [step]
        split
        · exact Nat.le_refl _
        · exact Nat.le_refl _
    | dispatch budget => exact Nat.le_refl _
    | advance =>
        rcases visits with _ | _ | ⟨visit, rest⟩
        · cases remaining with
          | zero => exact Nat.le_add_left _ _
          | succ remaining =>
              cases waiting with
              | nil => exact Nat.le_add_left _ _
              | cons item waiting =>
                  have few := bounded item
                  have more := Nat.add_one_mul remaining (bound + 2)
                  simp only [step, advance, State.work, Action.isAdvance,
                    if_true]
                  omega
        · simp only [step, advance, State.work, Action.isAdvance, if_true,
            List.length_nil]
          omega
        · simp only [step, advance, State.work, Action.isAdvance, if_true,
            List.length_cons]
          omega

/-- A call is over once the dispatcher has taken enough steps, whatever else
happens. -/
theorem call_returns
    {bound : Nat} (bounded : ∀ item, (rules.visits item).length ≤ bound)
    {start : State Item Visit} {actions : List (Action Item Budget)}
    (enough : start.work bound ≤ actions.countP Action.isAdvance) :
    ∃ earlier later,
      actions = earlier ++ later ∧
      Lasts (step rules) (fun state => state.call ≠ none) start
        earlier := by
  induction actions generalizing start with
  | nil =>
      refine ⟨[], [], rfl, not_not.mpr ?_⟩
      rcases start with ⟨waiting, _ | ⟨remaining, _ | visits⟩⟩
      · rfl
      · exact absurd enough (Nat.not_succ_le_zero _)
      · exact absurd enough (Nat.not_succ_le_zero _)
  | cons action rest induction =>
      by_cases closed : start.call = none
      · exact ⟨[], action :: rest, rfl, not_not.mpr closed⟩
      · have less := step_work rules bounded closed action
        rw [List.countP_cons] at enough
        have later := Nat.le_of_add_le_add_right (Nat.le_trans less enough)
        rcases induction later with ⟨earlier, last, rfl, ended⟩
        exact ⟨action :: earlier, last, rfl, closed, ended⟩

/-- A call that is made has its whole budget, and no visits yet. -/
theorem dispatch_opens
    {state : State Item Visit} (idle : state.call = none)
    (budget : Budget) (bound : Nat) :
    (step rules state (.dispatch budget)).1.waiting = state.waiting ∧
    (step rules state (.dispatch budget)).1.left = rules.amount budget ∧
    (step rules state (.dispatch budget)).1.inFlight = [] ∧
    (step rules state (.dispatch budget)).1.work bound ≤
      rules.amount budget * (bound + 2) + 1 := by
  rcases state with ⟨waiting, _ | call⟩
  · simp only [step]
    split
    · next zero => exact ⟨rfl, zero.symm, rfl, Nat.zero_le _⟩
    · exact ⟨rfl, rfl, rfl, Nat.le_refl _⟩
  · cases idle

/-- A call that ends has made all visits of the items it took. -/
theorem visited_of_lasts
    {start : State Item Visit} {actions : List (Action Item Budget)}
    (lasts :
      Lasts (step rules) (fun state => state.call ≠ none) start actions) :
    start.inFlight ++
        (taken (outputs (step rules) start actions)).flatMap rules.visits =
      visited (outputs (step rules) start actions) := by
  have ended : (Run.final (step rules) start actions).inFlight = [] := by
    induction actions generalizing start with
    | nil =>
        have closed : start.call = none := not_not.mp lasts
        rw [Run.final, State.inFlight, closed]
        rfl
    | cons action rest induction => exact induction lasts.2
  rw [run_visits, ended, List.append_nil]

end

end Endap.Library.Dispatch
