import Endap.Ladder.Counters

/-!
# Counting down

`CTD` loads its preset when the count is zero and takes one off at a rising
edge.  A count of zero stands for a counter that is not loaded and for one that
has counted down: the scan after the last edge loads the preset again.  The
output is true in the scans of every preset-th edge and in no other scan, where
that of a `CTU` stays true from the first of them onwards.
-/

namespace Endap.Ladder

open Endap.Library
open Endap.Library.Signal
open Endap.State

/-! ## The record -/

/-- The count that a scan takes an edge off. -/
def CounterState.reloaded (presetCnt : UInt16) (counter : CounterState) :
    Int32 :=
  if counter.currentCount = 0 then Int32.ofNat presetCnt.toNat
  else counter.currentCount

/-- A scan is that of an edge with a number that the preset divides. -/
def CountsOut (input cleared : Nat → Bool) (presetCnt : UInt16)
    (scan : Nat) : Prop :=
  Edge input cleared scan ∧ presetCnt.toNat ∣ edgesSince input cleared scan

instance (input cleared : Nat → Bool) (presetCnt : UInt16) (scan : Nat) :
    Decidable (CountsOut input cleared presetCnt scan) :=
  inferInstanceAs (Decidable (_ ∧ _))

/-- The count that a scan leaves. -/
def countLeft (input cleared : Nat → Bool) (presetCnt : UInt16)
    (scan : Nat) : Nat :=
  if CountsOut input cleared presetCnt scan then 0
  else presetCnt.toNat - edgesSince input cleared scan % presetCnt.toNat

/-- What the record of a `CTD` tells before a scan. -/
structure CountDownKeeps (input cleared : Nat → Bool) (presetCnt : UInt16)
    (scan : Nat) (counter : CounterState) : Prop where
  last : counter.lastAcc = levelBefore input cleared scan
  count :
    counter.reloaded presetCnt =
      Int32.ofNat
        (presetCnt.toNat - edgesBefore input cleared scan % presetCnt.toNat)

section

variable {count : Nat}

theorem ofNat_eq_zero_iff (small : count < 2 ^ 31) :
    Int32.ofNat count = 0 ↔ count = 0 := by
  rw [← Int32.toInt_inj, Int32.toInt_ofNat_of_lt small, Int32.toInt_zero]
  exact Int.natCast_eq_zero

theorem ofNat_pos (small : count < 2 ^ 31) (positive : 0 < count) :
    Int32.ofNat count > 0 := by
  rw [gt_iff_lt, Int32.lt_iff_toInt_lt, Int32.toInt_ofNat_of_lt small,
    Int32.toInt_zero]
  exact Int.natCast_pos.mpr positive

theorem ofNat_sub_one (positive : 0 < count) :
    Int32.ofNat count - 1 = Int32.ofNat (count - 1) := by
  have parts : Int32.ofNat count = Int32.ofNat (count - 1) + 1 := by
    calc
      Int32.ofNat count = Int32.ofNat (count - 1 + 1) := by
        rw [Nat.sub_add_cancel positive]
      _ = Int32.ofNat (count - 1) + 1 := Int32.ofNat_add _ _
  rw [parts, Int32.add_sub_cancel]

end

section

variable {input cleared : Nat → Bool} {presetCnt : UInt16} {scan : Nat}
variable (positive : 0 < presetCnt.toNat)

theorem countLeft_small : countLeft input cleared presetCnt scan < 2 ^ 31 := by
  have bounded := presetCnt.toNat_lt
  rw [countLeft]
  split
  · decide
  · omega

theorem countLeft_of_not_edge (level : ¬ Edge input cleared scan) :
    countLeft input cleared presetCnt scan =
      presetCnt.toNat -
          edgesBefore input cleared scan % presetCnt.toNat := by
  have none : edgesSince input cleared scan =
      edgesBefore input cleared scan := by
    rw [edgesSince_eq, if_neg level, Nat.add_zero]
  rw [countLeft, if_neg fun counted => level counted.1, none]

include positive

theorem countLeft_of_edge (rises : Edge input cleared scan) :
    countLeft input cleared presetCnt scan =
      presetCnt.toNat -
          edgesBefore input cleared scan % presetCnt.toNat - 1 := by
  have one : edgesSince input cleared scan =
      edgesBefore input cleared scan + 1 := by
    rw [edgesSince_eq, if_pos rises]
  have inside := Nat.mod_lt (edgesBefore input cleared scan) positive
  have next :
      (edgesBefore input cleared scan + 1) % presetCnt.toNat =
        (edgesBefore input cleared scan % presetCnt.toNat + 1) %
          presetCnt.toNat :=
    (Nat.mod_add_mod _ _ _).symm
  have counted :
      CountsOut input cleared presetCnt scan ↔
      (edgesBefore input cleared scan % presetCnt.toNat + 1) %
        presetCnt.toNat = 0 := by
    rw [CountsOut, one, Nat.dvd_iff_mod_eq_zero, next]
    exact and_iff_right rises
  simp only [countLeft, counted, one, next]
  rcases Nat.eq_or_lt_of_le inside with full | small
  · rw [← Nat.succ_eq_add_one, full, Nat.mod_self, if_pos rfl]
    omega
  · rw [Nat.mod_eq_of_lt small, if_neg (Nat.succ_ne_zero _)]
    omega

theorem countLeft_eq_zero_iff :
    countLeft input cleared presetCnt scan = 0 ↔
    CountsOut input cleared presetCnt scan := by
  have inside := Nat.mod_lt (edgesSince input cleared scan) positive
  rw [countLeft]
  split
  · next counted => exact iff_of_true rfl counted
  · next counted =>
      refine iff_of_false ?_ counted
      omega

variable {counter : CounterState}

theorem countDownStep_counts
    (keeps : CountDownKeeps input cleared presetCnt scan counter) :
    (countDownStep (input scan) presetCnt counter).2 =
      { counter with
        lastAcc := input scan
        currentCount :=
          Int32.ofNat (countLeft input cleared presetCnt scan) } := by
  have bounded := presetCnt.toNat_lt
  have inside := Nat.mod_lt (edgesBefore input cleared scan) positive
  have rises := @edge_iff_levelBefore input cleared scan
  rw [← keeps.last] at rises
  have isCount := keeps.count
  rw [CounterState.reloaded] at isCount
  have loaded : 0 < presetCnt.toNat -
      edgesBefore input cleared scan % presetCnt.toNat := by
    omega
  simp only [countDownStep, isCount,
    decide_eq_true (ofNat_pos (by omega) loaded), Bool.and_true]
  congr 1
  by_cases edge : Edge input cleared scan
  · rw [if_pos (rises.mp edge), ofNat_sub_one loaded,
      countLeft_of_edge positive edge]
  · rw [if_neg fun both => edge (rises.mpr both), countLeft_of_not_edge edge]

theorem countDownStep_output
    (keeps : CountDownKeeps input cleared presetCnt scan counter) :
    (countDownStep (input scan) presetCnt counter).1 = true ↔
    CountsOut input cleared presetCnt scan := by
  have isDone :
      (countDownStep (input scan) presetCnt counter).1 =
        decide
          ((countDownStep (input scan) presetCnt counter).2.currentCount = 0) :=
    rfl
  rw [isDone, countDownStep_counts positive keeps, decide_eq_true_eq,
    ofNat_eq_zero_iff countLeft_small, countLeft_eq_zero_iff positive]

theorem clearedIf_countDownKeeps
    (isLast : counter.lastAcc = input scan)
    (isCount :
      counter.currentCount =
        Int32.ofNat (countLeft input cleared presetCnt scan)) :
    CountDownKeeps input cleared presetCnt (scan + 1)
      (counter.clearedIf (cleared (scan + 1))) := by
  cases isCleared : cleared (scan + 1) with
  | true =>
      constructor
      · simp [CounterState.clearedIf, CounterState.cleared, levelBefore,
          isCleared]
      · simp [CounterState.clearedIf, CounterState.cleared,
          CounterState.reloaded, edgesBefore, isCleared]
  | false =>
      constructor
      · simp [CounterState.clearedIf, levelBefore, isCleared, isLast]
      · simp only [CounterState.clearedIf, CounterState.reloaded,
          edgesBefore, isCleared, Bool.false_eq_true, if_false, isCount,
          ofNat_eq_zero_iff countLeft_small,
          countLeft_eq_zero_iff positive]
        split
        · next counted =>
            rw [Nat.dvd_iff_mod_eq_zero.mp counted.2, Nat.sub_zero]
        · next counted => rw [countLeft, if_neg counted]

end

/-! ## Scans -/

/-- The output of a scan says whether the edges have reached the preset. -/
def SaysDone (input output cleared : Nat → Bool) (presetCnt : UInt16)
    (scan : Nat) : Prop :=
  output scan = true ↔ presetCnt.toNat ≤ edgesSince input cleared scan

/-- When the output of a `CTD` says that the edges have reached the preset: in
the scans in front of the one with the last edge, in that scan, and later only
in the scans of every further preset-th edge. -/
structure CountDownLaw (input output cleared : Nat → Bool)
    (presetCnt : UInt16) : Prop where
  saysDone :
    ∀ scan,
      SaysDone input output cleared presetCnt scan ↔
      edgesSince input cleared scan < presetCnt.toNat ∨
      CountsOut input cleared presetCnt scan
  throughout :
    (∀ scan, cleared scan = false) →
    ∀ last,
      (∀ scan ≤ last, SaysDone input output cleared presetCnt scan) ↔
      ∀ scan < last, edgesSince input cleared scan < presetCnt.toNat

theorem CountsOut.reached
    {input cleared : Nat → Bool} {presetCnt : UInt16} {scan : Nat}
    (counted : CountsOut input cleared presetCnt scan) :
    presetCnt.toNat ≤ edgesSince input cleared scan := by
  apply Nat.le_of_dvd _ counted.2
  rw [edgesSince_eq, if_pos counted.1]
  exact Nat.succ_pos _

theorem countsOut_of_first
    {input cleared : Nat → Bool} {presetCnt : UInt16} {scan : Nat}
    (positive : 0 < presetCnt.toNat)
    (uncleared : ∀ scan, cleared scan = false)
    (earlier : ∀ other < scan, edgesSince input cleared other < presetCnt.toNat)
    (reached : presetCnt.toNat ≤ edgesSince input cleared scan) :
    CountsOut input cleared presetCnt scan := by
  have before : edgesBefore input cleared scan < presetCnt.toNat := by
    cases scan with
    | zero => exact positive
    | succ scan =>
        rw [edgesBefore, uncleared]
        exact earlier scan (Nat.lt_succ_self _)
  rw [edgesSince_eq] at reached
  by_cases rises : Edge input cleared scan
  · rw [if_pos rises] at reached
    have isPreset : edgesSince input cleared scan = presetCnt.toNat := by
      rw [edgesSince_eq, if_pos rises]
      omega
    exact ⟨rises, isPreset ▸ Nat.dvd_refl _⟩
  · rw [if_neg rises] at reached
    omega

section

variable {presetCnt : UInt16} {input output cleared : Nat → Bool}
variable {record : Nat → CounterState}
variable (positive : 0 < presetCnt.toNat)
variable
  (answers :
    Answers
      (fun scan accumulator counter =>
        ((countDownStep accumulator presetCnt counter).1,
          (countDownStep accumulator presetCnt counter).2.clearedIf
            (cleared (scan + 1))))
      input output record)
variable
  (fresh : (record 0).lastAcc = false ∧ (record 0).currentCount = 0)

include positive answers fresh

theorem countDown_keeps (scan : Nat) :
    CountDownKeeps input cleared presetCnt scan (record scan) := by
  have initially : CountDownKeeps input cleared presetCnt 0 (record 0) := by
    constructor
    · exact fresh.1
    · rw [CounterState.reloaded, if_pos fresh.2, edgesBefore, Nat.zero_mod,
        Nat.sub_zero]
  apply answers.invariant (CountDownKeeps input cleared presetCnt) initially
  intro round counter holds
  have counts := countDownStep_counts positive holds
  apply clearedIf_countDownKeeps positive
  · rw [counts]
  · rw [counts]

theorem countDown_output (scan : Nat) :
    output scan = true ↔ CountsOut input cleared presetCnt scan := by
  rw [answers.outputs scan]
  exact
    countDownStep_output positive (countDown_keeps positive answers fresh scan)

theorem countDown_saysDone (scan : Nat) :
    SaysDone input output cleared presetCnt scan ↔
    edgesSince input cleared scan < presetCnt.toNat ∨
    CountsOut input cleared presetCnt scan := by
  rw [SaysDone, countDown_output positive answers fresh]
  constructor
  · intro isRight
    rcases Nat.lt_or_ge (edgesSince input cleared scan)
      presetCnt.toNat with early | reached
    · exact .inl early
    · exact .inr (isRight.mpr reached)
  · rintro (early | counted)
    · refine iff_of_false ?_ (Nat.not_le.mpr early)
      intro counted
      exact Nat.not_le.mpr early counted.reached
    · exact iff_of_true counted counted.reached

/-- The output of a scan that has reached the preset is wrong, or that of the
next scan is, as no scan after an edge has an edge. -/
theorem countDown_early
    (uncleared : ∀ scan, cleared scan = false) {scan last : Nat}
    (isRight : ∀ scan ≤ last, SaysDone input output cleared presetCnt scan)
    (inside : scan < last) :
    edgesSince input cleared scan < presetCnt.toNat := by
  by_contra notEarly
  have counted {later : Nat}
      (reached : presetCnt.toNat ≤ edgesSince input cleared later)
      (notLast : later ≤ last) : CountsOut input cleared presetCnt later := by
    have early :=
      (countDown_saysDone positive answers fresh later).mp
        (isRight later notLast)
    exact early.resolve_left (Nat.not_lt.mpr reached)
  have reached := Nat.not_lt.mp notEarly
  have grows := Nat.le_trans reached (edgesSince_le_succ (uncleared _))
  have first := counted reached (Nat.le_of_lt inside)
  exact first.1.not_succ (uncleared (scan + 1)) (counted grows inside).1

theorem countDownLaw_of_answers :
    CountDownLaw input output cleared presetCnt := by
  have saysDone := countDown_saysDone positive answers fresh
  refine ⟨saysDone, fun uncleared last => ?_⟩
  constructor
  · intro isRight scan inside
    exact countDown_early positive answers fresh uncleared isRight inside
  · intro few scan inside
    rw [saysDone]
    rcases Nat.lt_or_ge (edgesSince input cleared scan)
      presetCnt.toNat with early | reached
    · exact .inl early
    · refine .inr (countsOut_of_first positive uncleared ?_ reached)
      intro other earlier
      exact few other (Nat.lt_of_lt_of_le earlier inside)

end

/-- The output of a `CTD` says that as many edges as the preset have come, since
the program is new or an `RST` on its tag was executed, until the scan after the
last of them. -/
theorem count_down_law
    {program : List UInt8} {start : LadderEngine}
    (starts : Starts program start)
    {before after : List Instruction} {tagId presetCnt : UInt16}
    (isProgram : instructions program = before ++ .ctd tagId presetCnt :: after)
    (alone : ∀ other ∈ before ++ after, other.counterTag? ≠ some tagId)
    (positive : 1 ≤ presetCnt) (scans : Nat → ScanInput) :
    let behind := offsetBehind (before ++ [.ctd tagId presetCnt])
    CountDownLaw (signalAt start scans (offsetBehind before))
      (signalAt start scans behind)
      (clearedAt start scans tagId before behind after) presetCnt := by
  have answers :=
    counter_answers starts scans (fun _ _ _ => rfl) isProgram rfl
      (fun _ _ => rfl) alone
  have fresh :=
    counter_starts starts scans isProgram fun other member =>
      alone other (List.mem_append_left after member)
  exact
    countDownLaw_of_answers (UInt16.le_iff_toNat_le.mp positive) answers fresh

/-- `LD 10`, `CTD 100` with a preset of one. -/
def plainCountDown : List UInt8 :=
  [0x45, 0x4E, 0x44, 0x50, 0x01, 0x01, 0x00, 0x0A, 0x33, 0x00, 0x64, 0x00,
    0x01, 0xFF]

/-- In the scan of the edge the output is true, and the scan behind it is the
first one that it fails in. -/
theorem plainCountDown_counts :
    signalAt (loadedWith plainCountDown) held 13 0 = true ∧
    ¬ ∀ scan ≤ 1,
        SaysDone (signalAt (loadedWith plainCountDown) held 8)
          (signalAt (loadedWith plainCountDown) held 13)
          (clearedAt (loadedWith plainCountDown) held 100 [.onTag .ld 10] 13 [])
          1 scan := by
  have isProgram :
      instructions plainCountDown = [.onTag .ld 10] ++ .ctd 100 1 :: [] := by
    decide +kernel
  have starts : Starts plainCountDown (loadedWith plainCountDown) :=
    .loaded _ _ _ _ (by decide +kernel)
  have law :=
    count_down_law starts isProgram (by decide +kernel) (by decide) held
  have uncleared (scan : Nat) :
      clearedAt (loadedWith plainCountDown) held 100 [.onTag .ld 10] 13 []
        scan = false := by
    cases scan <;> rfl
  constructor
  · have atEdge := (law.saysDone 0).mpr (.inr (by decide +kernel))
    exact atEdge.mpr (by decide +kernel)
  · intro throughout
    have few := (law.throughout uncleared 1).mp throughout 0 Nat.zero_lt_one
    exact absurd few (by decide +kernel)

/-- While the input stays true the output of a `CTD` is true in one scan, and
that of a `CTU` in the next one too. -/
theorem count_down_reloads :
    (instructions plainCountDown = [.onTag .ld 10, .ctd 100 1] ∧
        validateProgram plainCountDown = .ok) ∧
      (∀ scan ≤ 1,
        signalAt (loadedWith plainCountDown) held 8 scan = true ∧
        clearedAt (loadedWith plainCountDown) held 100 [.onTag .ld 10] 13 []
          scan = false) ∧
        (signalAt (loadedWith plainCountDown) held 13 0 = true ∧
        edgesSince (signalAt (loadedWith plainCountDown) held 8)
              (clearedAt (loadedWith plainCountDown) held 100
                [.onTag .ld 10] 13 [])
              1 = 1 ∧
        signalAt (loadedWith plainCountDown) held 13 1 = false) ∧
        (instructions plainCounter = [.onTag .ld 10, .ctu 100 1] ∧
        signalAt (loadedWith plainCounter) held 13 0 = true ∧
        signalAt (loadedWith plainCounter) held 13 1 = true) := by
  decide +kernel

end Endap.Ladder
