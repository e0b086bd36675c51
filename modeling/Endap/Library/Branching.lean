import Mathlib.Tactic.Common

/-!
# Alternatives on a stack

A program may branch: a block runs its branches one after the other, each from
the value that the accumulator had before the block, and leaves the
disjunction of what they leave.  What the branches do to the rest of the
state, they do in order.

The text of such a program is flat.  A token starts a block, another goes on
to its next branch, and a third finishes it; a machine with a stack of bounded
height runs the tokens.  While the stack has room for the nesting of the
program, the machine does what the program says.

The tokens of some programs with little nesting are told from all others by
counting: the count of open blocks stays within the height of the stack, and
no token but a start comes where no block is open.
-/

namespace Endap.Library.Branching

universe u

/-- The tokens of a flat program. -/
inductive Token (Leaf : Type u) where
  | leaf (leaf : Leaf)
  | start
  | next
  | finish
deriving DecidableEq

mutual

/-- A program, instruction by instruction. -/
inductive Code (Leaf : Type u) where
  | done
  | leaf (leaf : Leaf) (rest : Code Leaf)
  | block (branches : Branches Leaf) (rest : Code Leaf)

/-- The branches of a block. -/
inductive Branches (Leaf : Type u) where
  | last (body : Code Leaf)
  | more (body : Code Leaf) (rest : Branches Leaf)

end

variable {Leaf : Type u} {Data : Type*}

mutual

/-- The tokens of a program. -/
def Code.flatten : Code Leaf → List (Token Leaf)
  | .done => []
  | .leaf leaf rest => .leaf leaf :: rest.flatten
  | .block branches rest => .start :: (branches.flatten ++ rest.flatten)

/-- The tokens of the branches, behind the start of their block. -/
def Branches.flatten : Branches Leaf → List (Token Leaf)
  | .last body => body.flatten ++ [.finish]
  | .more body rest => body.flatten ++ .next :: rest.flatten

end

mutual

/-- How deep blocks are nested. -/
def Code.depth : Code Leaf → Nat
  | .done => 0
  | .leaf _ rest => rest.depth
  | .block branches rest => max (branches.depth + 1) rest.depth

/-- How deep blocks are nested in the branches. -/
def Branches.depth : Branches Leaf → Nat
  | .last body => body.depth
  | .more body rest => max body.depth rest.depth

end

/-! ## Running a program -/

section

variable (act : Leaf → Bool × Data → Bool × Data)

mutual

/-- What a program does to the accumulator and to the rest of the state. -/
def Code.run : Code Leaf → Bool × Data → Bool × Data
  | .done, state => state
  | .leaf leaf rest, state => rest.run (act leaf state)
  | .block branches rest, state =>
      let outcomes := branches.outcomes state.1 state.2
      rest.run (outcomes.1.any id, outcomes.2)

/-- What the branches leave in the accumulator, in order, each from the value
that it had before the block. -/
def Branches.outcomes (logic : Bool) :
    Branches Leaf → Data → List Bool × Data
  | .last body, data =>
      let outcome := body.run (logic, data)
      ([outcome.1], outcome.2)
  | .more body rest, data =>
      let outcome := body.run (logic, data)
      let later := rest.outcomes logic outcome.2
      (outcome.1 :: later.1, later.2)

end

end

/-! ## The machine -/

/-- The accumulator, the open blocks with the innermost first, and the rest.
An open block has the value from before it and the disjunction so far. -/
@[ext]
structure Machine (Data : Type*) where
  accumulator : Bool
  stack : List (Bool × Bool)
  data : Data

/-- A token on the machine; a token that the stack cannot take is ignored. -/
def Machine.step (act : Leaf → Bool × Data → Bool × Data) (limit : Nat)
    (machine : Machine Data) : Token Leaf → Machine Data
  | .leaf leaf =>
      let after := act leaf (machine.accumulator, machine.data)
      { machine with accumulator := after.1, data := after.2 }
  | .start =>
      if machine.stack.length < limit then
        { machine with stack := (machine.accumulator, false) :: machine.stack }
      else machine
  | .next =>
      match machine.stack with
      | [] => machine
      | (logic, or) :: rest =>
          { machine with
            stack := (logic, or || machine.accumulator) :: rest
            accumulator := logic }
  | .finish =>
      match machine.stack with
      | [] => machine
      | (_, or) :: rest =>
          { machine with
            stack := rest
            accumulator := or || machine.accumulator }

/-- The tokens of a flat program, one after the other. -/
def Machine.run (act : Leaf → Bool × Data → Bool × Data) (limit : Nat)
    (machine : Machine Data) (tokens : List (Token Leaf)) : Machine Data :=
  tokens.foldl (Machine.step act limit) machine

section

variable {act : Leaf → Bool × Data → Bool × Data} {limit : Nat}

theorem Machine.run_cons (machine : Machine Data) (token : Token Leaf)
    (tokens : List (Token Leaf)) :
    machine.run act limit (token :: tokens) =
      (machine.step act limit token).run act limit tokens :=
  rfl

theorem Machine.run_append (machine : Machine Data)
    (first second : List (Token Leaf)) :
    machine.run act limit (first ++ second) =
      (machine.run act limit first).run act limit second :=
  List.foldl_append

mutual

/-- The machine does what the program says, and leaves the stack as it was. -/
theorem Machine.run_flatten (code : Code Leaf) (machine : Machine Data)
    (room : machine.stack.length + code.depth ≤ limit) :
    machine.run act limit code.flatten =
      { accumulator :=
          (code.run act (machine.accumulator, machine.data)).1
        stack := machine.stack
        data := (code.run act (machine.accumulator, machine.data)).2 } := by
  match code with
  | .done => rfl
  | .leaf leaf rest =>
      rw [Code.depth] at room
      rw [Code.flatten, Machine.run_cons]
      exact Machine.run_flatten rest (machine.step act limit (.leaf leaf)) room
  | .block branches rest =>
      rw [Code.depth] at room
      have pushed : machine.stack.length < limit := by omega
      rw [Code.flatten, Machine.run_cons, Machine.run_append]
      simp only [Machine.step, if_pos pushed]
      rw [Machine.run_branches branches machine.accumulator false
          machine.stack machine.data (by omega),
        Machine.run_flatten rest _ (by simp only; omega)]
      simp only [Code.run, Bool.false_or]

/-- The same for the branches of the innermost open block, which they
close. -/
theorem Machine.run_branches (branches : Branches Leaf) (logic or : Bool)
    (enclosing : List (Bool × Bool)) (data : Data)
    (room : enclosing.length + 1 + branches.depth ≤ limit) :
    ({ accumulator := logic, stack := (logic, or) :: enclosing, data := data }
        : Machine Data).run act limit branches.flatten =
      { accumulator :=
          or || (branches.outcomes act logic data).1.any id
        stack := enclosing
        data := (branches.outcomes act logic data).2 } := by
  match branches with
  | .last body =>
      rw [Branches.depth] at room
      rw [Branches.flatten, Machine.run_append,
        Machine.run_flatten body _ (by simpa using room)]
      simp [Machine.run, Machine.step, Branches.outcomes]
  | .more body rest =>
      rw [Branches.depth] at room
      rw [Branches.flatten, Machine.run_append,
        Machine.run_flatten body _ (by simp only [List.length_cons]; omega),
        Machine.run_cons]
      simp only [Machine.step]
      rw [Machine.run_branches rest logic _ enclosing _ (by omega)]
      simp [Branches.outcomes, Bool.or_assoc]

end

end

/-! ## Counting the open blocks -/

/-- The count of open blocks behind a token; `none` when the stack cannot take
the token. -/
def Token.height (limit : Nat) (height : Nat) : Token Leaf → Option Nat
  | .leaf _ => some height
  | .start => if height < limit then some (height + 1) else none
  | .next => if height = 0 then none else some height
  | .finish => if height = 0 then none else some (height - 1)

/-- The count of open blocks behind a sequence of tokens. -/
def heightAfter (limit : Nat) : Nat → List (Token Leaf) → Option Nat
  | height, [] => some height
  | height, token :: rest =>
      match token.height limit height with
      | none => none
      | some after => heightAfter limit after rest

/-- The tokens are those of a program with little nesting. -/
def Bracketed (limit : Nat) (tokens : List (Token Leaf)) : Prop :=
  ∃ code : Code Leaf, tokens = code.flatten ∧ code.depth ≤ limit

section

variable {limit : Nat}

theorem heightAfter_append (height : Nat)
    (first second : List (Token Leaf)) :
    heightAfter limit height (first ++ second) =
      (heightAfter limit height first).bind fun after =>
        heightAfter limit after second := by
  induction first generalizing height with
  | nil => rfl
  | cons token rest induction =>
      rw [List.cons_append, heightAfter, heightAfter]
      cases token.height limit height with
      | none => rfl
      | some after => exact induction after

mutual

theorem heightAfter_flatten (code : Code Leaf) {height : Nat}
    (fits : height ≤ limit) :
    heightAfter limit height code.flatten =
      if height + code.depth ≤ limit then some height else none := by
  match code with
  | .done => rw [Code.depth, if_pos (by omega)]; rfl
  | .leaf leaf rest =>
      rw [Code.flatten, Code.depth]
      exact heightAfter_flatten rest fits
  | .block branches rest =>
      rw [Code.flatten, Code.depth, heightAfter, Token.height]
      by_cases room : height < limit
      · rw [if_pos room]
        simp only
        rw [heightAfter_append, heightAfter_branches branches room]
        by_cases deep : height + 1 + branches.depth ≤ limit
        · rw [if_pos deep, Option.bind_some, heightAfter_flatten rest fits]
          congr 1
          simp only [eq_iff_iff]
          omega
        · rw [if_neg deep, if_neg (by omega)]
          rfl
      · rw [if_neg room, if_neg (by omega)]

theorem heightAfter_branches (branches : Branches Leaf) {height : Nat}
    (fits : height + 1 ≤ limit) :
    heightAfter limit (height + 1) branches.flatten =
      if height + 1 + branches.depth ≤ limit then some height else none := by
  match branches with
  | .last body =>
      rw [Branches.flatten, Branches.depth, heightAfter_append,
        heightAfter_flatten body fits]
      by_cases deep : height + 1 + body.depth ≤ limit
      · rw [if_pos deep, if_pos deep]
        rfl
      · rw [if_neg deep, if_neg deep]
        rfl
  | .more body rest =>
      rw [Branches.flatten, Branches.depth, heightAfter_append,
        heightAfter_flatten body fits]
      by_cases deep : height + 1 + body.depth ≤ limit
      · rw [if_pos deep, Option.bind_some]
        change heightAfter limit (height + 1) rest.flatten = _
        rw [heightAfter_branches rest fits]
        congr 1
        simp only [eq_iff_iff]
        omega
      · rw [if_neg deep, if_neg (by omega)]
        rfl

end

/-- Where a block is taken whole, the stack has room for it. -/
theorem room_of_heightAfter
    {height : Nat} {branches : Branches Leaf} {rest : List (Token Leaf)}
    {last : Nat}
    (taken :
      heightAfter limit height (.start :: (branches.flatten ++ rest)) =
        some last) :
    height + (branches.depth + 1) ≤ limit := by
  rw [heightAfter, Token.height] at taken
  by_cases room : height < limit
  · rw [if_pos room] at taken
    simp only at taken
    rw [heightAfter_append, heightAfter_branches branches room] at taken
    by_contra deep
    rw [if_neg (by omega)] at taken
    cases taken
  · rw [if_neg room] at taken
    cases taken

/-- Put more code before the first branch. -/
def Branches.precede (before : Code Leaf → Code Leaf) :
    Branches Leaf → Branches Leaf
  | .last body => .last (before body)
  | .more body rest => .more (before body) rest

theorem Branches.flatten_precede
    {before : Code Leaf → Code Leaf} {tokens : List (Token Leaf)}
    (precedes : ∀ code, (before code).flatten = tokens ++ code.flatten)
    (branches : Branches Leaf) :
    (branches.precede before).flatten = tokens ++ branches.flatten := by
  cases branches with
  | last body | more body rest =>
      rw [Branches.precede, Branches.flatten, Branches.flatten, precedes,
        List.append_assoc]

/-- The tokens are what some open blocks still have, and a program. -/
def Completes (height : Nat) (tokens : List (Token Leaf)) : Prop :=
  ∃ (opened : List (Branches Leaf)) (after : Code Leaf),
    opened.length = height ∧
    tokens = opened.flatMap Branches.flatten ++ after.flatten

/-- More code may come first, in the innermost open block or before the
program. -/
theorem Completes.precede
    {before : Code Leaf → Code Leaf} {tokens : List (Token Leaf)}
    (precedes : ∀ code, (before code).flatten = tokens ++ code.flatten)
    {height : Nat} {rest : List (Token Leaf)}
    (completes : Completes height rest) :
    Completes height (tokens ++ rest) := by
  rcases completes with ⟨opened, after, rfl, rfl⟩
  cases opened with
  | nil =>
      refine ⟨[], before after, rfl, ?_⟩
      rw [precedes]
      rfl
  | cons branches enclosing =>
      refine ⟨branches.precede before :: enclosing, after, rfl, ?_⟩
      rw [List.flatMap_cons, List.flatMap_cons,
        Branches.flatten_precede precedes]
      simp only [List.append_assoc]

theorem completes_of_heightAfter {tokens : List (Token Leaf)} {height : Nat}
    (closes : heightAfter limit height tokens = some 0) :
    Completes height tokens := by
  induction tokens generalizing height with
  | nil =>
      rw [heightAfter] at closes
      exact ⟨[], .done, (Option.some.inj closes).symm, rfl⟩
  | cons token rest induction =>
      rw [heightAfter] at closes
      cases token with
      | leaf leaf =>
          exact
            @Completes.precede _ (Code.leaf leaf) [.leaf leaf]
              (fun _ => rfl) _ _ (induction closes)
      | start =>
          by_cases room : height < limit
          · rw [Token.height, if_pos room] at closes
            rcases induction closes with ⟨opened, after, length, rfl⟩
            cases opened with
            | nil => cases length
            | cons branches enclosing =>
                have inner :=
                  @Completes.precede _ (Code.block branches)
                    (.start :: branches.flatten) (fun _ => rfl) _ _
                    ⟨enclosing, after, Nat.succ.inj length, rfl⟩
                rw [List.flatMap_cons, List.append_assoc]
                exact inner
          · rw [Token.height, if_neg room] at closes
            cases closes
      | next =>
          by_cases none : height = 0
          · rw [Token.height, if_pos none] at closes
            cases closes
          · rw [Token.height, if_neg none] at closes
            rcases induction closes with ⟨opened, after, rfl, rfl⟩
            cases opened with
            | nil => exact absurd rfl none
            | cons branches enclosing =>
                exact ⟨.more .done branches :: enclosing, after, rfl, rfl⟩
      | finish =>
          by_cases none : height = 0
          · rw [Token.height, if_pos none] at closes
            cases closes
          · rw [Token.height, if_neg none] at closes
            rcases induction closes with ⟨opened, after, length, rfl⟩
            exact
              ⟨.last .done :: opened, after,
                by rw [List.length_cons, length]; omega, rfl⟩

/-- Counting tells the tokens of the programs with little nesting. -/
theorem bracketed_iff (tokens : List (Token Leaf)) :
    Bracketed limit tokens ↔ heightAfter limit 0 tokens = some 0 := by
  constructor
  · rintro ⟨code, rfl, shallow⟩
    rw [heightAfter_flatten code (Nat.zero_le _), if_pos (by omega)]
  · intro closes
    rcases completes_of_heightAfter closes with ⟨opened, code, length, rfl⟩
    rw [List.length_eq_zero_iff.mp length] at closes ⊢
    refine ⟨code, rfl, ?_⟩
    by_contra deep
    have counted := heightAfter_flatten code (Nat.zero_le limit)
    rw [if_neg (by omega)] at counted
    exact absurd (counted.symm.trans closes) (by simp)

/-! ## Tokens that the machine ignores -/

variable {act : Leaf → Bool × Data → Bool × Data}

theorem Machine.step_height {machine : Machine Data} {token : Token Leaf}
    {after : Nat}
    (taken : token.height limit machine.stack.length = some after) :
    (machine.step act limit token).stack.length = after := by
  cases token with
  | leaf leaf => exact Option.some.inj taken
  | start =>
      by_cases room : machine.stack.length < limit
      · rw [Token.height, if_pos room] at taken
        simp only [Machine.step, if_pos room, List.length_cons]
        exact Option.some.inj taken
      · rw [Token.height, if_neg room] at taken
        cases taken
  | next | finish =>
      cases isStack : machine.stack with
      | nil =>
          rw [Token.height, isStack, if_pos List.length_nil] at taken
          cases taken
      | cons top rest =>
          rw [Token.height, isStack, if_neg (by simp)] at taken
          simp only [Machine.step, isStack]
          exact Option.some.inj taken

/-- The machine takes every token, and ends with a stack of some height, if
and only if the count says so. -/
theorem Machine.run_height_iff (tokens : List (Token Leaf))
    (machine : Machine Data) (last : Nat) :
    heightAfter limit machine.stack.length tokens = some last ↔
    (∀ before token after,
        tokens = before ++ token :: after →
        token.height limit (machine.run act limit before).stack.length ≠ none) ∧
      (machine.run act limit tokens).stack.length = last := by
  induction tokens generalizing machine with
  | nil =>
      simp [heightAfter, Machine.run]
  | cons token rest induction =>
      rw [heightAfter]
      cases taken : token.height limit machine.stack.length with
      | none =>
          constructor
          · intro absurdity
            cases absurdity
          · rintro ⟨takes, _⟩
            exact absurd taken (takes [] token rest rfl)
      | some after =>
          have height := @Machine.step_height _ _ _ act _ _ _ taken
          have later := induction (machine.step act limit token)
          rw [height] at later
          simp only
          rw [later, Machine.run_cons]
          refine and_congr_left fun _ => ?_
          constructor
          · intro takes before other behind split
            cases before with
            | nil =>
                cases split
                rw [Machine.run, List.foldl_nil, taken]
                exact Option.some_ne_none _
            | cons first before =>
                cases split
                exact takes before other behind rfl
          · intro takes before other behind split
            rw [← Machine.run_cons]
            exact
              takes (token :: before) other behind
                (congrArg (List.cons token) split)

end

end Endap.Library.Branching
