import Endap.Ladder.Timers

/-!
# Counters

A counter keeps a record under its tag, as a timer does.  `RST` on the tag
clears the record, in front of the counter instruction or behind it, as often
as a scan executes it.

`CTU` counts the rising edges of its input.  Since `RST` also clears the edge
memory, an input that stays true through it rises once more.
-/

namespace Endap.Ladder

open Endap.Library
open Endap.Library.Signal
open Endap.State

/-! ## Records -/

/-- The counter of a tag; one that is not in the table is fresh. -/
def Machine.counterOf (tagId : UInt16) (machine : Machine) : CounterState :=
  machine.counters.entryOf CounterState.tagId CounterState.fresh tagId

/-- A counter after `RST`. -/
def CounterState.cleared (counter : CounterState) : CounterState :=
  { counter with lastAcc := false, currentCount := 0 }

theorem counterOf_of_counters
    {tagId : UInt16} {machine after : Machine}
    (same : after.counters = machine.counters) :
    after.counterOf tagId = machine.counterOf tagId := by
  rw [Machine.counterOf, same, Machine.counterOf]

/-- `RST` clears the counter of its tag. -/
theorem counterOf_resetInstruction
    (tagId other : UInt16) (machine : Machine) :
    (resetInstruction other machine).counterOf tagId =
      if other = tagId ∧ machine.accumulator = true then
        (machine.counterOf tagId).cleared
      else machine.counterOf tagId := by
  rw [resetInstruction]
  by_cases executes : machine.accumulator = true
  · rw [if_pos executes]
    simp only [executes, and_true]
    by_cases isOwn : other = tagId
    · subst isOwn
      rw [if_pos rfl]
      apply KeyedTable.entryOf_modify_self
      · intro counter
        rfl
      · rfl
    · rw [if_neg isOwn]
      apply KeyedTable.entryOf_modify_of_ne _ _ (Ne.symm isOwn)
      intro counter
      rfl
  · simp [executes]

section

variable {step : Bool → UInt16 → CounterState → Bool × CounterState}
variable
  (keepsTag :
    ∀ accumulator preset counter,
      (step accumulator preset counter).2.tagId = counter.tagId)

include keepsTag

theorem counterOf_counterInstruction_of_ne
    {tagId other : UInt16} (different : tagId ≠ other) (preset : UInt16)
    (machine : Machine) :
    ((counterInstruction step other preset machine).getD
        machine).counterOf tagId =
      machine.counterOf tagId := by
  rw [counterInstruction]
  cases created : getOrCreateCounter machine.counters other with
  | none => rfl
  | some found =>
      have kept :=
        KeyedTable.getOrCreate_modify_entryOf (fun _ => rfl) created
          fun counter => keepsTag machine.accumulator preset counter
      exact kept.2.2 tagId different

theorem counterInstruction_own
    {final : Pass1} {machine : Machine}
    (within : TablesWithin final machine)
    (few : final.counterTags.length ≤ maxCounters)
    {tagId : UInt16} (counted : tagId ∈ final.counterTags)
    (preset : UInt16) :
    let answer := step machine.accumulator preset (machine.counterOf tagId)
    let after := (counterInstruction step tagId preset machine).getD machine
    after.accumulator = answer.1 ∧ after.counterOf tagId = answer.2 := by
  rcases KeyedTable.getOrCreate_keysWithin within.counters
    CounterState.fresh (fun _ => rfl) few counted with
    ⟨counter, counters, created, _, _⟩
  have kept :=
    KeyedTable.getOrCreate_modify_entryOf (fun _ => rfl) created
      fun counter => keepsTag machine.accumulator preset counter
  have isCounter : counter = machine.counterOf tagId := kept.1
  simp only [counterInstruction, getOrCreateCounter, created, Option.getD_some]
  rw [isCounter]
  exact ⟨rfl, kept.2.1⟩

end

theorem timerInstruction_counters
    (step : Bool → UInt16 → Int → TimerState → Bool × TimerState)
    (nowMs : Int) (tagId preset : UInt16) (machine : Machine) :
    ((timerInstruction step nowMs tagId preset machine).getD
        machine).counters = machine.counters := by
  rw [timerInstruction]
  cases getOrCreateTimer machine.timers tagId with
  | _ => rfl

/-- An instruction that does not count on the tag leaves its counter, unless
it is an `RST` that is executed. -/
theorem Instruction.run_counterOf
    {tagId : UInt16} {instruction : Instruction}
    (spares : instruction.counterTag? ≠ some tagId) (nowMs : Int)
    (machine : Machine) :
    (instruction.run nowMs machine).counterOf tagId =
      if instruction = .onTag .rst tagId ∧ machine.accumulator = true then
        (machine.counterOf tagId).cleared
      else machine.counterOf tagId := by
  have kept (notReset : instruction ≠ .onTag .rst tagId)
      (same :
        (instruction.run nowMs machine).counterOf tagId =
          machine.counterOf tagId) :
      (instruction.run nowMs machine).counterOf tagId =
        if instruction = .onTag .rst tagId ∧ machine.accumulator = true then
          (machine.counterOf tagId).cleared
        else machine.counterOf tagId := by
    rw [if_neg fun both => notReset both.1]
    exact same
  cases instruction with
  | onTag opcode other =>
      by_cases isReset : opcode = .rst
      · subst isReset
        simp only [Instruction.onTag.injEq, true_and]
        exact counterOf_resetInstruction tagId other machine
      · apply kept
        · rintro ⟨⟩
          exact isReset rfl
        · apply counterOf_of_counters
          refine (Instruction.run_sameTables rfl rfl ?_ nowMs machine).2
          rintro tagId ⟨⟩
          exact isReset rfl
  | ton other presetMs =>
      apply kept
      · rintro ⟨⟩
      · exact
          counterOf_of_counters
            (timerInstruction_counters onDelayStep nowMs other presetMs _)
  | tof other presetMs =>
      apply kept
      · rintro ⟨⟩
      · exact
          counterOf_of_counters
            (timerInstruction_counters offDelayStep nowMs other presetMs _)
  | ctu other presetCnt =>
      apply kept
      · rintro ⟨⟩
      · apply counterOf_counterInstruction_of_ne fun _ _ _ => rfl
        rintro rfl
        exact spares rfl
  | ctd other presetCnt =>
      apply kept
      · rintro ⟨⟩
      · apply counterOf_counterInstruction_of_ne fun _ _ _ => rfl
        rintro rfl
        exact spares rfl
  | _ =>
      apply kept
      · rintro ⟨⟩
      · apply counterOf_of_counters
        refine (Instruction.run_sameTables rfl rfl ?_ nowMs machine).2
        rintro tagId ⟨⟩

/-! ## Executed resets -/

/-- A scan executes an `RST` on the tag in the code at an offset. -/
def resetsAt (start : LadderEngine) (scans : Nat → ScanInput)
    (tagId : UInt16) (scan : Nat) : Nat → List Instruction → Bool
  | _, [] => false
  | offset, instruction :: rest =>
      (decide (instruction = .onTag .rst tagId) &&
          signalAt start scans offset scan) ||
        resetsAt start scans tagId scan (offset + instruction.width) rest

/-- An `RST` on the tag is executed since the instruction at an offset was:
in front of it in a scan, or behind it in the scan before. -/
def clearedAt (start : LadderEngine) (scans : Nat → ScanInput)
    (tagId : UInt16) (before : List Instruction) (behind : Nat)
    (after : List Instruction) : Nat → Bool
  | 0 => resetsAt start scans tagId 0 codeStart before
  | scan + 1 =>
      resetsAt start scans tagId (scan + 1) codeStart before ||
        resetsAt start scans tagId scan behind after

theorem offsetBehind_concat
    (before : List Instruction) (instruction : Instruction) :
    offsetBehind (before ++ [instruction]) =
      offsetBehind before + instruction.width := by
  simp only [offsetBehind, codeWidth, List.map_append, List.sum_append,
    List.map_cons, List.map_nil, List.sum_singleton]
  rw [Nat.add_assoc]

/-- A counter, cleared on a condition. -/
def CounterState.clearedIf (counter : CounterState) (clears : Bool) :
    CounterState :=
  if clears then counter.cleared else counter

theorem CounterState.clearedIf_clearedIf
    (counter : CounterState) (first second : Bool) :
    (counter.clearedIf first).clearedIf second =
      counter.clearedIf (second || first) := by
  cases first with
  | false => rw [Bool.or_false]; rfl
  | true =>
      cases second <;> rfl

section

variable {program : List UInt8} {start : LadderEngine}
variable (starts : Starts program start) (scans : Nat → ScanInput)
variable {tagId : UInt16}

include starts

/-- Code without a counter instruction on a tag clears the counter of the tag
or leaves it. -/
theorem counterOf_machineAt_append
    {before code after : List Instruction}
    (isProgram : instructions program = before ++ code ++ after)
    (spares : ∀ other ∈ code, other.counterTag? ≠ some tagId)
    (scan : Nat) :
    (machineAt start scans (offsetBehind (before ++ code)) scan).counterOf
        tagId =
      ((machineAt start scans (offsetBehind before) scan).counterOf
        tagId).clearedIf
          (resetsAt start scans tagId scan (offsetBehind before) code) := by
  induction code generalizing before with
  | nil =>
      rw [List.append_nil]
      rfl
  | cons instruction rest induction =>
      have first := spares instruction (List.mem_cons_self ..)
      have isNext :
          instructions program = before ++ [instruction] ++ rest ++ after := by
        rw [isProgram, List.append_cons before instruction rest]
      have isFirst :
          instructions program = before ++ [instruction] ++ (rest ++ after) := by
        rw [isNext, List.append_assoc]
      have later :=
        induction isNext fun other member =>
          spares other (List.mem_cons_of_mem _ member)
      have step :=
        machineAt_append starts.accepted starts.follows scans isFirst scan
      rw [← List.append_cons] at later
      rw [later, step, offsetBehind_concat, runInstructions, List.foldl_cons,
        List.foldl_nil, Instruction.run_counterOf first, resetsAt,
        Bool.or_comm, ← CounterState.clearedIf_clearedIf]
      congr 1
      simp [CounterState.clearedIf, signalAt]

theorem counterOf_machineOf_succ (scan : Nat) :
    (machineOf start scans (scan + 1)).counterOf tagId =
      (machineAt start scans (offsetBehind (instructions program))
        scan).counterOf tagId :=
  counterOf_of_counters
    (engineAt_succ_tables starts.accepted starts.follows scans scan).2

theorem Starts.counterOf :
    (machineOf start scans 0).counterOf tagId = CounterState.fresh tagId := by
  rcases starts.eq_holding with ⟨nonempty, fits, rfl⟩
  rfl

end

/-! ## The only counter instruction on a tag -/

section

variable {program : List UInt8} {start : LadderEngine}
variable (starts : Starts program start) (scans : Nat → ScanInput)
variable {step : Bool → UInt16 → CounterState → Bool × CounterState}
variable
  (keepsTag :
    ∀ accumulator preset counter,
      (step accumulator preset counter).2.tagId = counter.tagId)
variable {before after : List Instruction} {instruction : Instruction}
variable {tagId preset : UInt16}
variable
  (isProgram : instructions program = before ++ instruction :: after)
variable (isCounter : instruction.counterTag? = some tagId)
variable
  (isStep :
    ∀ nowMs machine,
      instruction.run nowMs machine =
        (counterInstruction step tagId preset machine).getD machine)
variable
  (alone : ∀ other ∈ before ++ after, other.counterTag? ≠ some tagId)

include starts isProgram

theorem counter_before
    (alone : ∀ other ∈ before, other.counterTag? ≠ some tagId)
    (scan : Nat) :
    (machineAt start scans (offsetBehind before) scan).counterOf tagId =
      ((machineOf start scans scan).counterOf tagId).clearedIf
        (resetsAt start scans tagId scan codeStart before) := by
  have isTail : instructions program = [] ++ before ++ instruction :: after :=
    isProgram
  have atStart :=
    machineAt_before starts.accepted starts.follows scans
      (List.nil_append (instructions program)).symm scan
  have walked := counterOf_machineAt_append starts scans isTail alone scan
  rw [atStart] at walked
  exact walked

include keepsTag isCounter isStep

theorem counter_scan (scan : Nat) :
    let input := signalAt start scans (offsetBehind before) scan
    let behind :=
      machineAt start scans (offsetBehind (before ++ [instruction])) scan
    let answer :=
      step input preset
        ((machineAt start scans (offsetBehind before) scan).counterOf tagId)
    behind.accumulator = answer.1 ∧ behind.counterOf tagId = answer.2 := by
  have isHead := isProgram.trans (List.append_cons before instruction after)
  have counted : tagId ∈ (pass1 program).counterTags :=
    (instruction_counted starts.accepted isProgram).counter tagId isCounter
  have own :=
    counterInstruction_own keepsTag
      (machineAt_tables starts.accepted starts.follows scans isProgram scan)
      (pass1_few program).2 counted preset
  rw [machineAt_append starts.accepted starts.follows scans isHead]
  simp only [runInstructions, List.foldl_cons, List.foldl_nil, isStep]
  exact own

include alone

/-- The instruction answers the signal in front of it, with the executed
resets in between. -/
theorem counter_answers :
    Answers
      (fun scan accumulator counter =>
        ((step accumulator preset counter).1,
          (step accumulator preset counter).2.clearedIf
            (clearedAt start scans tagId before
              (offsetBehind (before ++ [instruction])) after (scan + 1))))
      (signalAt start scans (offsetBehind before))
      (signalAt start scans (offsetBehind (before ++ [instruction])))
      (fun scan =>
        (machineAt start scans (offsetBehind before) scan).counterOf
          tagId) := by
  have isHead := isProgram.trans (List.append_cons before instruction after)
  have atTag := counter_scan starts scans keepsTag isProgram isCounter isStep
  constructor
  · intro scan
    exact (atTag scan).1
  · intro scan
    have wholeCode :
        instructions program = before ++ [instruction] ++ after ++ [] := by
      rw [isHead, List.append_nil]
    -- To the end of this scan, and from the start of the next one.
    have spares :=
      counterOf_machineAt_append starts scans wholeCode
        (fun other member => alone other (List.mem_append_right before member))
        scan
    have front :=
      counter_before starts scans isProgram
        (fun other member => alone other (List.mem_append_left after member))
        (scan + 1)
    rw [counterOf_machineOf_succ starts, isHead, spares, (atTag scan).2,
      CounterState.clearedIf_clearedIf] at front
    exact front

end

/-! ## Count up -/

/-- What the record of a `CTU` tells before a scan. -/
def CountUpKeeps (input cleared : Nat → Bool) :
    Nat → CounterState → Prop
  | 0, counter => counter.lastAcc = false ∧ counter.currentCount = 0
  | scan + 1, counter =>
      counter.lastAcc = (input scan && !cleared (scan + 1)) ∧
      counter.currentCount =
        Int32.ofNat
          (if cleared (scan + 1) = true then 0
            else edgesSince input cleared scan)

theorem countUpStep_counts
    {input cleared : Nat → Bool} {scan : Nat} {counter : CounterState}
    (keeps : CountUpKeeps input cleared scan counter) (presetCnt : UInt16) :
    (countUpStep (input scan) presetCnt counter).2 =
      { counter with
        lastAcc := input scan
        currentCount := Int32.ofNat (edgesSince input cleared scan) } := by
  rcases counter with ⟨tagId, lastAcc, currentCount⟩
  cases scan with
  | zero =>
      rcases keeps with ⟨rfl, rfl⟩
      rw [edgesSince_zero]
      cases isOn : input 0 with
      | _ => rfl
  | succ scan =>
      rcases keeps with ⟨isLast, isCount⟩
      -- To the code a cleared memory is an input that was false.
      have rises := @edge_iff_levelBefore input cleared (scan + 1)
      rw [levelBefore, ← isLast] at rises
      change currentCount = _ at isCount
      simp only [countUpStep, edgesSince_succ, rises, isCount, Int32.ofNat_add]
      split
      · rfl
      · simp

theorem clearedIf_keeps
    {input cleared : Nat → Bool} {scan : Nat} {counter : CounterState}
    (isLast : counter.lastAcc = input scan)
    (isCount :
      counter.currentCount = Int32.ofNat (edgesSince input cleared scan)) :
    CountUpKeeps input cleared (scan + 1)
      (counter.clearedIf (cleared (scan + 1))) := by
  rw [CountUpKeeps]
  cases cleared (scan + 1) with
  | true => simp [CounterState.clearedIf, CounterState.cleared]
  | false => simp [CounterState.clearedIf, isLast, isCount]

/-- How a `CTU` counts the edges of its input since the last clearing. -/
structure CountUpLaw (input output cleared : Nat → Bool)
    (count : Nat → Int32) (presetCnt : UInt16) : Prop where
  counts : ∀ scan, count scan = Int32.ofNat (edgesSince input cleared scan)
  outputs :
    ∀ scan,
      edgesSince input cleared scan < 2 ^ 31 →
      (output scan = true ↔ presetCnt.toNat ≤ edgesSince input cleared scan)
  stays :
    ∀ scan,
      edgesSince input cleared (scan + 1) < 2 ^ 31 →
      cleared (scan + 1) = false →
      output scan = true → output (scan + 1) = true

section

variable {presetCnt : UInt16} {input output cleared : Nat → Bool}
variable {record : Nat → CounterState}
variable
  (answers :
    Answers
      (fun scan accumulator counter =>
        ((countUpStep accumulator presetCnt counter).1,
          (countUpStep accumulator presetCnt counter).2.clearedIf
            (cleared (scan + 1))))
      input output record)
variable
  (fresh : (record 0).lastAcc = false ∧ (record 0).currentCount = 0)

include answers fresh

theorem countUp_counts (scan : Nat) :
    (countUpStep (input scan) presetCnt (record scan)).2 =
      { record scan with
        lastAcc := input scan
        currentCount := Int32.ofNat (edgesSince input cleared scan) } := by
  have keeps :=
    answers.invariant (CountUpKeeps input cleared) fresh
      (by
        intro round counter holds
        have counts := countUpStep_counts holds presetCnt
        apply clearedIf_keeps
        · rw [counts]
        · rw [counts])
      scan
  exact countUpStep_counts keeps presetCnt

theorem countUp_output (scan : Nat) :
    output scan =
      decide
        ((Int32.ofNat (edgesSince input cleared scan)).toInt ≥
          presetCnt.toNat) := by
  have isDone :
      output scan =
        decide
          ((countUpStep (input scan) presetCnt
            (record scan)).2.currentCount.toInt ≥ presetCnt.toNat) :=
    answers.outputs scan
  rw [isDone, countUp_counts answers fresh]

theorem countUpLaw_of_answers :
    CountUpLaw input output cleared
      (fun scan =>
        (countUpStep (input scan) presetCnt (record scan)).2.currentCount)
      presetCnt := by
  have outputs (scan : Nat)
      (small : edgesSince input cleared scan < 2 ^ 31) :
      output scan = true ↔
      presetCnt.toNat ≤ edgesSince input cleared scan := by
    rw [countUp_output answers fresh, decide_eq_true_eq,
      Int32.toInt_ofNat_of_lt small]
    exact Int.ofNat_le
  refine ⟨fun scan => ?_, outputs, ?_⟩
  · rw [countUp_counts answers fresh]
  · intro scan small notCleared wasDone
    have grows :
        edgesSince input cleared scan ≤ edgesSince input cleared (scan + 1) :=
      edgesSince_le_succ notCleared
    have reached := (outputs scan (Nat.lt_of_le_of_lt grows small)).mp wasDone
    exact (outputs (scan + 1) small).mpr (Nat.le_trans reached grows)

theorem countUp_overflows
    {scan : Nat} (many : edgesSince input cleared scan = 2 ^ 31) :
    output scan = false := by
  have negative : (Int32.ofNat (2 ^ 31)).toInt < 0 := by decide
  rw [countUp_output answers fresh, many, decide_eq_false_iff_not]
  omega

end

theorem counter_starts
    {program : List UInt8} {start : LadderEngine}
    (starts : Starts program start) (scans : Nat → ScanInput)
    {before after : List Instruction} {instruction : Instruction}
    {tagId : UInt16}
    (isProgram : instructions program = before ++ instruction :: after)
    (alone : ∀ other ∈ before, other.counterTag? ≠ some tagId) :
    let counter :=
      (machineAt start scans (offsetBehind before) 0).counterOf tagId
    counter.lastAcc = false ∧ counter.currentCount = 0 := by
  simp only [counter_before starts scans isProgram alone, starts.counterOf]
  cases resetsAt start scans tagId 0 codeStart before with
  | _ => exact ⟨rfl, rfl⟩

/-- A `CTU` counts the edges of its input since the program is new or an `RST`
on its tag was executed. -/
theorem count_up_law
    {program : List UInt8} {start : LadderEngine}
    (starts : Starts program start)
    {before after : List Instruction} {tagId presetCnt : UInt16}
    (isProgram : instructions program = before ++ .ctu tagId presetCnt :: after)
    (alone : ∀ other ∈ before ++ after, other.counterTag? ≠ some tagId)
    (scans : Nat → ScanInput) :
    let behind := offsetBehind (before ++ [.ctu tagId presetCnt])
    CountUpLaw (signalAt start scans (offsetBehind before))
      (signalAt start scans behind)
      (clearedAt start scans tagId before behind after)
      (fun scan =>
        ((machineAt start scans behind scan).counterOf tagId).currentCount)
      presetCnt := by
  have answers :=
    counter_answers starts scans (fun _ _ _ => rfl) isProgram rfl
      (fun _ _ => rfl) alone
  have atTag :=
    counter_scan starts scans (fun _ _ _ => rfl) isProgram rfl (fun _ _ => rfl)
  have fresh :=
    counter_starts starts scans isProgram fun other member =>
      alone other (List.mem_append_left after member)
  have law := countUpLaw_of_answers answers fresh
  refine ⟨fun scan => ?_, law.outputs, law.stays⟩
  rw [(atTag scan).2]
  exact law.counts scan

/-- `LD 10`, `CTU 100` with a preset of one, `LD 11`, `RST 100`. -/
def resetCounter : List UInt8 :=
  [0x45, 0x4E, 0x44, 0x50, 0x01, 0x01, 0x00, 0x0A, 0x32, 0x00, 0x64, 0x00,
    0x01, 0x01, 0x00, 0x0B, 0x12, 0x00, 0x64, 0xFF]

def resetOnce (scan : Nat) : ScanInput where
  store :=
    if scan = 0 then stateSetInt (stateSetInt stateInit 10 1) 11 1
    else stateSetInt stateInit 10 1
  clockUs := 1000 * scan

/-- In the third scan the count is one, since the second scan. -/
theorem resetCounter_counts :
    signalAt (loadedWith resetCounter) resetOnce 13 2 = true ∧
    ((machineAt (loadedWith resetCounter) resetOnce 13 2).counterOf
      100).currentCount = 1 := by
  have isProgram :
      instructions resetCounter =
        [.onTag .ld 10] ++ .ctu 100 1 :: [.onTag .ld 11, .onTag .rst 100] := by
    decide +kernel
  have starts : Starts resetCounter (loadedWith resetCounter) :=
    .loaded _ _ _ _ (by decide +kernel)
  have law := count_up_law starts isProgram (by decide +kernel) resetOnce
  constructor
  · exact (law.outputs 2 (by decide +kernel)).mpr (by decide +kernel)
  · exact (law.counts 2).trans (by decide +kernel)

/-- `LD 10`, `CTU 100` with a preset of one. -/
def plainCounter : List UInt8 :=
  [0x45, 0x4E, 0x44, 0x50, 0x01, 0x01, 0x00, 0x0A, 0x32, 0x00, 0x64, 0x00,
    0x01, 0xFF]

def blinking (scan : Nat) : ScanInput where
  store := if scan % 2 = 0 then stateSetInt stateInit 10 1 else stateInit
  clockUs := 1000 * scan

theorem plainCounter_starts : Starts plainCounter (loadedWith plainCounter) :=
  .loaded _ _ _ _ (by decide +kernel)

theorem plainCounter_instructions :
    instructions plainCounter = [.onTag .ld 10] ++ .ctu 100 1 :: [] := by
  decide +kernel

theorem blinking_signal (scan : Nat) :
    signalAt (loadedWith plainCounter) blinking
        (offsetBehind [.onTag .ld 10]) scan =
      decide (scan % 2 = 0) := by
  rw [signalAt,
    machineAt_before plainCounter_starts.accepted plainCounter_starts.follows
      blinking plainCounter_instructions]
  change decide (stateValue (blinking scan).store 10 > 0) = _
  rw [blinking]
  by_cases isEven : scan % 2 = 0
  · simp only [isEven, if_true]
    decide +kernel
  · simp only [isEven, if_false]
    decide +kernel

theorem blinking_edges {cleared : Nat → Bool}
    (uncleared : ∀ scan, cleared scan = false) (edges : Nat) :
    edgesSince (fun scan => decide (scan % 2 = 0)) cleared (2 * edges) =
      edges + 1 := by
  induction edges with
  | zero => exact edgesSince_zero
  | succ edges induction =>
      have isOn : (2 * edges + 1 + 1) % 2 = 0 := by omega
      rw [Nat.mul_succ, edgesSince_succ, edgesSince_succ, induction]
      simp [uncleared, Edge, isOn]

/-- An edge that follows an `RST` without a fall of the input counts, and after
2^31 edges the output is false. -/
theorem count_up_exceptions :
    (instructions resetCounter =
          [.onTag .ld 10, .ctu 100 1, .onTag .ld 11, .onTag .rst 100] ∧
        validateProgram resetCounter = .ok ∧
        signalAt (loadedWith resetCounter) resetOnce 16 0 = true ∧
        signalAt (loadedWith resetCounter) resetOnce 8 0 = true ∧
        signalAt (loadedWith resetCounter) resetOnce 8 1 = true ∧
        signalAt (loadedWith resetCounter) resetOnce 13 1 = true) ∧
    edgesSince (signalAt (loadedWith plainCounter) blinking 8)
          (clearedAt (loadedWith plainCounter) blinking 100 [.onTag .ld 10]
            13 [])
          (2 * (2 ^ 31 - 1)) = 2 ^ 31 ∧
    signalAt (loadedWith plainCounter) blinking 13 (2 * (2 ^ 31 - 1)) =
      false := by
  refine
    ⟨⟨by decide +kernel, by decide +kernel, by decide +kernel,
      by decide +kernel, by decide +kernel, by decide +kernel⟩, ?_⟩
  have answers :=
    counter_answers plainCounter_starts blinking (fun _ _ _ => rfl)
      plainCounter_instructions rfl (fun _ _ => rfl) (by decide)
  have fresh :=
    @counter_starts _ _ plainCounter_starts blinking _ _ _ 100
      plainCounter_instructions (by decide)
  have input :
      signalAt (loadedWith plainCounter) blinking 8 =
        fun scan => decide (scan % 2 = 0) :=
    funext blinking_signal
  have uncleared (scan : Nat) :
      clearedAt (loadedWith plainCounter) blinking 100 [.onTag .ld 10] 13 []
        scan = false := by
    cases scan <;> rfl
  have edges :
      edgesSince (signalAt (loadedWith plainCounter) blinking 8)
          (clearedAt (loadedWith plainCounter) blinking 100 [.onTag .ld 10]
            13 [])
          (2 * (2 ^ 31 - 1)) = 2 ^ 31 := by
    rw [input, blinking_edges uncleared, Nat.sub_add_cancel (by decide)]
  exact ⟨edges, countUp_overflows answers fresh edges⟩

end Endap.Ladder
