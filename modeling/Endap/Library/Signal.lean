import Mathlib.Tactic.Common

/-!
# Signals in rounds

A signal has one level in each round.  The rounds fall into runs of one level;
a rising edge is a round in which the signal is true and was not in the round
before.  A signal may be cleared between two rounds, which makes the round
before count as false.

The edges since the last clearing are counted round by round.

A device with a record answers a signal round by round, from the record that
the rounds before have left.
-/

namespace Endap.Library.Signal

/-! ## Runs -/

/-- The first round of the run of equal levels that a round lies in. -/
def runStart (signal : Nat → Bool) : Nat → Nat
  | 0 => 0
  | round + 1 =>
      if signal round = signal (round + 1) then runStart signal round
      else round + 1

/-- A round begins the run of equal levels that another round lies in. -/
structure RunBegins (signal : Nat → Bool) (first now : Nat) : Prop where
  notLater : first ≤ now
  constant : ∀ round, first ≤ round → round ≤ now → signal round = signal now
  begins : first = 0 ∨ signal (first - 1) ≠ signal now

variable {signal : Nat → Bool}

theorem runStart_succ_of_eq {round : Nat}
    (same : signal round = signal (round + 1)) :
    runStart signal (round + 1) = runStart signal round := by
  rw [runStart, if_pos same]

theorem runStart_succ_of_ne {round : Nat}
    (differs : signal round ≠ signal (round + 1)) :
    runStart signal (round + 1) = round + 1 := by
  rw [runStart, if_neg differs]

theorem runStart_begins (signal : Nat → Bool) (now : Nat) :
    RunBegins signal (runStart signal now) now := by
  induction now with
  | zero =>
      refine ⟨Nat.le_refl _, ?_, .inl rfl⟩
      intro round _ notLater
      rw [Nat.le_zero.mp notLater]
  | succ now induction =>
      by_cases same : signal now = signal (now + 1)
      · rw [runStart_succ_of_eq same]
        refine ⟨Nat.le_succ_of_le induction.notLater, ?_, ?_⟩
        · intro round inside notLater
          rcases Nat.le_succ_iff.mp notLater with earlier | rfl
          · exact (induction.constant round inside earlier).trans same
          · rfl
        · rw [← same]
          exact induction.begins
      · rw [runStart_succ_of_ne same]
        refine ⟨Nat.le_refl _, ?_, .inr same⟩
        intro round inside notLater
        rw [Nat.le_antisymm notLater inside]

theorem runStart_le (signal : Nat → Bool) (now : Nat) :
    runStart signal now ≤ now :=
  (runStart_begins signal now).notLater

/-! ## Edges -/

/-- The signal rises in a round; a clearing makes it rise when it stays. -/
def Edge (signal cleared : Nat → Bool) (round : Nat) : Prop :=
  signal round = true ∧
  (round = 0 ∨ cleared round = true ∨ signal (round - 1) = false)

instance (signal cleared : Nat → Bool) (round : Nat) :
    Decidable (Edge signal cleared round) :=
  inferInstanceAs (Decidable (_ ∧ _))

/-- A round was not followed by a clearing up to another. -/
def Uncleared (cleared : Nat → Bool) (now round : Nat) : Prop :=
  ∀ later ≤ now, round < later → cleared later = false

instance (cleared : Nat → Bool) (now round : Nat) :
    Decidable (Uncleared cleared now round) :=
  inferInstanceAs (Decidable (∀ later ≤ now, _))

/-- The edges up to a round since the last clearing. -/
def edgesSince (signal cleared : Nat → Bool) (now : Nat) : Nat :=
  (List.range (now + 1)).countP fun round =>
    Edge signal cleared round ∧ Uncleared cleared now round

variable {cleared : Nat → Bool}

theorem edgesSince_zero :
    edgesSince signal cleared 0 = if signal 0 = true then 1 else 0 := by
  have uncleared : Uncleared cleared 0 0 := by
    intro later notLater after
    omega
  simp [edgesSince, Edge, uncleared]

/-- One more round. -/
theorem edgesSince_succ (now : Nat) :
    edgesSince signal cleared (now + 1) =
      (if cleared (now + 1) = true then 0
        else edgesSince signal cleared now) +
        if Edge signal cleared (now + 1) then 1 else 0 := by
  have uncleared : Uncleared cleared (now + 1) (now + 1) := by
    intro later notLater after
    omega
  rw [edgesSince, List.range_succ, List.countP_append]
  congr 1
  · split
    · next isCleared =>
        rw [List.countP_eq_zero]
        intro round member
        have earlier := List.mem_range.mp member
        simp only [decide_eq_true_eq, not_and]
        intro _ kept
        have contrary := kept (now + 1) (Nat.le_refl _) earlier
        rw [isCleared] at contrary
        cases contrary
    · next notCleared =>
        rw [edgesSince]
        apply List.countP_congr
        intro round member
        have earlier := List.mem_range.mp member
        simp only [decide_eq_true_eq]
        refine and_congr_right fun _ => ?_
        constructor
        · intro kept later notLater after
          exact kept later (Nat.le_succ_of_le notLater) after
        · intro kept later notLater after
          rcases Nat.le_succ_iff.mp notLater with before | rfl
          · exact kept later before after
          · simpa using notCleared
  · simp [uncleared]

/-- Without a clearing there are no fewer edges. -/
theorem edgesSince_le_succ {now : Nat}
    (notCleared : cleared (now + 1) = false) :
    edgesSince signal cleared now ≤ edgesSince signal cleared (now + 1) := by
  rw [edgesSince_succ, notCleared]
  exact Nat.le_add_right _ _

/-- The edges that a round finds. -/
def edgesBefore (signal cleared : Nat → Bool) : Nat → Nat
  | 0 => 0
  | round + 1 =>
      if cleared (round + 1) = true then 0
      else edgesSince signal cleared round

/-- The level that a round finds. -/
def levelBefore (signal cleared : Nat → Bool) : Nat → Bool
  | 0 => false
  | round + 1 => signal round && !cleared (round + 1)

theorem edgesSince_eq (round : Nat) :
    edgesSince signal cleared round =
      edgesBefore signal cleared round +
        if Edge signal cleared round then 1 else 0 := by
  cases round with
  | zero => simp [edgesSince_zero, edgesBefore, Edge]
  | succ round => exact edgesSince_succ round

/-- A cleared level counts as false. -/
theorem edge_iff_levelBefore (round : Nat) :
    Edge signal cleared round ↔
    (signal round && !levelBefore signal cleared round) = true := by
  cases round with
  | zero => simp [Edge, levelBefore]
  | succ round =>
      simp only [Edge, levelBefore, Nat.add_sub_cancel, Nat.succ_ne_zero,
        false_or, Bool.and_eq_true, Bool.not_eq_true', Bool.and_eq_false_iff,
        Bool.not_eq_false']
      rw [or_comm]

/-- Without a clearing no edge follows an edge. -/
theorem Edge.not_succ {now : Nat} (rises : Edge signal cleared now)
    (notCleared : cleared (now + 1) = false) :
    ¬ Edge signal cleared (now + 1) := by
  rw [edge_iff_levelBefore, levelBefore, rises.1, notCleared]
  simp

/-! ## Devices -/

/-- The output of each round and the record after it come from the input and
the record before it. -/
structure Answers {Record : Type*}
    (step : Nat → Bool → Record → Bool × Record)
    (input output : Nat → Bool) (record : Nat → Record) : Prop where
  outputs : ∀ round, output round = (step round (input round) (record round)).1
  keeps :
    ∀ round, record (round + 1) = (step round (input round) (record round)).2

/-- The invariant rule for the record. -/
theorem Answers.invariant
    {Record : Type*} {step : Nat → Bool → Record → Bool × Record}
    {input output : Nat → Bool} {record : Nat → Record}
    (answers : Answers step input output record)
    (holds : Nat → Record → Prop) (initially : holds 0 (record 0))
    (preserved :
      ∀ round entry,
        holds round entry →
        holds (round + 1) (step round (input round) entry).2)
    (round : Nat) : holds round (record round) := by
  induction round with
  | zero => exact initially
  | succ round induction =>
      rw [answers.keeps]
      exact preserved round (record round) induction

end Endap.Library.Signal
