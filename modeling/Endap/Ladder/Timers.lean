import Endap.Ladder.Signals

/-!
# Timers

A timer keeps a record under its tag, and a timer instruction answers the
signal in front of it from the record that it finds.  If it is the only one on
its tag, which no `RST` names, this is the record that it left in the scan
before.

`TON` tells whether its input has been true for the preset.
-/

namespace Endap.Ladder

open Endap.Library
open Endap.Library.Signal
open Endap.State

/-! ## Records -/

/-- The timer of a tag; one that is not in the table is fresh. -/
def Machine.timerOf (tagId : UInt16) (machine : Machine) : TimerState :=
  machine.timers.entryOf TimerState.tagId TimerState.fresh tagId

/-- The instruction leaves the timer of the tag alone. -/
structure Instruction.SparesTimer (tagId : UInt16)
    (instruction : Instruction) : Prop where
  notTimed : instruction.timerTag? ≠ some tagId
  notReset : instruction ≠ .onTag .rst tagId

theorem timerOf_of_timers
    {tagId : UInt16} {machine after : Machine}
    (same : after.timers = machine.timers) :
    after.timerOf tagId = machine.timerOf tagId := by
  rw [Machine.timerOf, same, Machine.timerOf]

theorem timerOf_resetInstruction
    {tagId other : UInt16} (different : tagId ≠ other) (machine : Machine) :
    (resetInstruction other machine).timerOf tagId =
      machine.timerOf tagId := by
  rw [resetInstruction]
  split
  · apply KeyedTable.entryOf_modify_of_ne _ _ different
    intro timer
    rfl
  · rfl

section

variable {step : Bool → UInt16 → Int → TimerState → Bool × TimerState}
variable
  (keepsTag :
    ∀ accumulator preset nowMs timer,
      (step accumulator preset nowMs timer).2.tagId = timer.tagId)

include keepsTag

theorem timerOf_timerInstruction_of_ne
    {tagId other : UInt16} (different : tagId ≠ other) (nowMs : Int)
    (preset : UInt16) (machine : Machine) :
    ((timerInstruction step nowMs other preset machine).getD
        machine).timerOf tagId =
      machine.timerOf tagId := by
  rw [timerInstruction]
  cases created : getOrCreateTimer machine.timers other with
  | none => rfl
  | some found =>
      have kept :=
        KeyedTable.getOrCreate_modify_entryOf (fun _ => rfl) created
          fun timer => keepsTag machine.accumulator preset nowMs timer
      exact kept.2.2 tagId different

/-- A timer instruction steps the timer of its tag, if there is room for
it. -/
theorem timerOf_timerInstruction_self
    (tagId : UInt16) (nowMs : Int) (preset : UInt16) (machine : Machine) :
    let left :=
      ((timerInstruction step nowMs tagId preset machine).getD
        machine).timerOf tagId
    left = machine.timerOf tagId ∨
    left =
      (step machine.accumulator preset nowMs
        (machine.timerOf tagId)).2 := by
  rw [timerInstruction]
  cases created : getOrCreateTimer machine.timers tagId with
  | none => exact .inl rfl
  | some found =>
      have kept :=
        KeyedTable.getOrCreate_modify_entryOf (fun _ => rfl) created
          fun timer => keepsTag machine.accumulator preset nowMs timer
      exact .inr kept.2.1

theorem timerInstruction_own
    {final : Pass1} {machine : Machine}
    (within : TablesWithin final machine)
    (few : final.timerTags.length ≤ maxTimers)
    {tagId : UInt16} (counted : tagId ∈ final.timerTags)
    (nowMs : Int) (preset : UInt16) :
    let answer := step machine.accumulator preset nowMs (machine.timerOf tagId)
    let after := (timerInstruction step nowMs tagId preset machine).getD machine
    after.accumulator = answer.1 ∧
    after.timerOf tagId = answer.2 ∧
    after.store =
      stateSetInt machine.store tagId (if answer.1 then 1 else 0) := by
  rcases KeyedTable.getOrCreate_keysWithin within.timers TimerState.fresh
    (fun _ => rfl) few counted with ⟨timer, timers, created, _, _⟩
  have kept :=
    KeyedTable.getOrCreate_modify_entryOf (fun _ => rfl) created
      fun timer => keepsTag machine.accumulator preset nowMs timer
  have isTimer : timer = machine.timerOf tagId := kept.1
  simp only [timerInstruction, getOrCreateTimer, created, Option.getD_some]
  rw [isTimer]
  exact ⟨rfl, kept.2.1, rfl⟩

end

theorem counterInstruction_timers
    (step : Bool → UInt16 → CounterState → Bool × CounterState)
    (tagId preset : UInt16) (machine : Machine) :
    ((counterInstruction step tagId preset machine).getD machine).timers =
      machine.timers := by
  rw [counterInstruction]
  cases getOrCreateCounter machine.counters tagId with
  | _ => rfl

theorem Instruction.run_timerOf
    {tagId : UInt16} {instruction : Instruction}
    (spares : instruction.SparesTimer tagId) (nowMs : Int)
    (machine : Machine) :
    (instruction.run nowMs machine).timerOf tagId =
      machine.timerOf tagId := by
  cases instruction with
  | onTag opcode other =>
      by_cases isReset : opcode = .rst
      · subst isReset
        apply timerOf_resetInstruction
        rintro rfl
        exact spares.notReset rfl
      · apply timerOf_of_timers
        refine (Instruction.run_sameTables rfl rfl ?_ nowMs machine).1
        rintro tagId ⟨⟩
        exact isReset rfl
  | ton other presetMs =>
      apply timerOf_timerInstruction_of_ne onDelayStep_tagId
      rintro rfl
      exact spares.notTimed rfl
  | tof other presetMs =>
      apply timerOf_timerInstruction_of_ne offDelayStep_tagId
      rintro rfl
      exact spares.notTimed rfl
  | ctu other presetCnt =>
      exact timerOf_of_timers (counterInstruction_timers countUpStep _ _ _)
  | ctd other presetCnt =>
      exact timerOf_of_timers (counterInstruction_timers countDownStep _ _ _)
  | _ =>
      apply timerOf_of_timers
      refine (Instruction.run_sameTables rfl rfl ?_ nowMs machine).1
      rintro tagId ⟨⟩

theorem runInstructions_timerOf
    {tagId : UInt16} {code : List Instruction}
    (spares : ∀ instruction ∈ code, instruction.SparesTimer tagId)
    (nowMs : Int) (machine : Machine) :
    (runInstructions nowMs machine code).timerOf tagId =
      machine.timerOf tagId := by
  induction code generalizing machine with
  | nil => rfl
  | cons instruction rest induction =>
      have first := spares instruction (List.mem_cons_self ..)
      have later :=
        induction
          (fun other member => spares other (List.mem_cons_of_mem _ member))
          (instruction.run nowMs machine)
      exact later.trans (Instruction.run_timerOf first nowMs machine)

/-! ## The only timer instruction on a tag -/

section

variable {program : List UInt8} {start : LadderEngine}
variable (accepted : validateProgram program = .ok)
variable (follows : Follows program start)
variable (scans : Nat → ScanInput)
variable {step : Bool → UInt16 → Int → TimerState → Bool × TimerState}
variable
  (keepsTag :
    ∀ accumulator preset nowMs timer,
      (step accumulator preset nowMs timer).2.tagId = timer.tagId)
variable {before after : List Instruction} {instruction : Instruction}
variable {tagId preset : UInt16}
variable
  (isProgram : instructions program = before ++ instruction :: after)
variable (isTimer : instruction.timerTag? = some tagId)
variable
  (isStep :
    ∀ nowMs machine,
      instruction.run nowMs machine =
        (timerInstruction step nowMs tagId preset machine).getD machine)

include accepted follows keepsTag isProgram isTimer isStep

theorem timer_step (scan : Nat) :
    let input := signalAt start scans (offsetBehind before) scan
    let behind :=
      machineAt start scans (offsetBehind (before ++ [instruction])) scan
    let answer :=
      step input preset (nowAt scans scan)
        ((machineAt start scans (offsetBehind before) scan).timerOf tagId)
    behind.accumulator = answer.1 ∧
    behind.timerOf tagId = answer.2 ∧
    ∃ store,
      behind.store =
        stateSetInt store tagId (if answer.1 then 1 else 0) := by
  have isHead := isProgram.trans (List.append_cons before instruction after)
  have counted : tagId ∈ (pass1 program).timerTags :=
    (instruction_counted accepted isProgram).timer tagId isTimer
  have own :=
    timerInstruction_own keepsTag
      (machineAt_tables accepted follows scans isProgram scan)
      (pass1_few program).1 counted (nowAt scans scan) preset
  rw [machineAt_append accepted follows scans isHead]
  simp only [runInstructions, List.foldl_cons, List.foldl_nil, isStep]
  exact ⟨own.1, own.2.1, _, own.2.2⟩

variable (alone : ∀ other ∈ before ++ after, other.SparesTimer tagId)

include alone

theorem timer_scan (scan : Nat) :
    let input := signalAt start scans (offsetBehind before) scan
    let behind :=
      machineAt start scans (offsetBehind (before ++ [instruction])) scan
    let answer :=
      step input preset (nowAt scans scan)
        ((machineOf start scans scan).timerOf tagId)
    behind.accumulator = answer.1 ∧
    behind.timerOf tagId = answer.2 ∧
    ∃ store,
      behind.store =
        stateSetInt store tagId (if answer.1 then 1 else 0) := by
  have unchanged :
      (machineAt start scans (offsetBehind before) scan).timerOf tagId =
        (machineOf start scans scan).timerOf tagId := by
    rw [machineAt_before accepted follows scans isProgram]
    exact
      runInstructions_timerOf
        (fun other member => alone other (List.mem_append_left after member))
        _ _
  have atTag :=
    timer_step accepted follows scans keepsTag isProgram isTimer isStep scan
  rw [unchanged] at atTag
  exact atTag

theorem timer_answers :
    Answers
      (fun scan accumulator timer =>
        step accumulator preset (nowAt scans scan) timer)
      (signalAt start scans (offsetBehind before))
      (signalAt start scans (offsetBehind (before ++ [instruction])))
      (fun scan => (machineOf start scans scan).timerOf tagId) := by
  have isHead := isProgram.trans (List.append_cons before instruction after)
  constructor
  · intro scan
    exact
      (timer_scan accepted follows scans keepsTag isProgram isTimer isStep
        alone scan).1
  · intro scan
    have atTag :=
      timer_scan accepted follows scans keepsTag isProgram isTimer isStep
        alone scan
    have ends := (engineAt_succ_tables accepted follows scans scan).1
    have wholeCode :
        instructions program = before ++ [instruction] ++ after ++ [] := by
      rw [isHead, List.append_nil]
    rw [isHead, machineAt_append accepted follows scans wholeCode] at ends
    rw [← atTag.2.1, @timerOf_of_timers tagId _ (machineOf _ _ _) ends]
    exact
      runInstructions_timerOf
        (fun other member => alone other (List.mem_append_right before member))
        _ _

theorem timer_value (valid : StateValidId tagId) (scan : Nat) :
    valueAt start scans tagId (offsetBehind (before ++ [instruction])) scan =
      if signalAt start scans (offsetBehind (before ++ [instruction])) scan
        then 1 else 0 := by
  rcases timer_scan accepted follows scans keepsTag isProgram isTimer isStep
    alone scan with ⟨output, _, store, written⟩
  rw [valueAt, written, ← output, stateValue, stateGetInt, if_pos valid,
    stateSetInt_same _ valid, Option.getD_some]
  rfl

end

theorem Starts.timerOf
    {program : List UInt8} {start : LadderEngine}
    (starts : Starts program start) (scans : Nat → ScanInput)
    (tagId : UInt16) :
    (machineOf start scans 0).timerOf tagId = TimerState.fresh tagId := by
  rcases starts.eq_holding with ⟨nonempty, fits, rfl⟩
  rfl

/-! ## On-delay -/

/-- What the record of a `TON` tells before a scan. -/
def OnDelayKeeps (input : Nat → Bool) (now : Nat → Int) :
    Nat → TimerState → Prop
  | 0, timer => timer.active = false
  | scan + 1, timer =>
      timer.active = input scan ∧
      (input scan = true → timer.startTimeMs = now (runStart input scan))

variable {input : Nat → Bool} {now : Nat → Int}

theorem onDelayStep_running
    {scan : Nat} {timer : TimerState}
    (keeps : OnDelayKeeps input now scan timer) (isOn : input scan = true)
    (presetMs : UInt16) :
    onDelayStep true presetMs (now scan) timer =
      (decide (now scan - now (runStart input scan) ≥ presetMs.toNat),
        { timer with
          active := true
          startTimeMs := now (runStart input scan) }) := by
  rcases timer with ⟨tagId, active, lastAcc, startTimeMs⟩
  cases scan with
  | zero =>
      cases keeps
      rfl
  | succ scan =>
      rcases keeps with ⟨rfl, started⟩
      -- A timer that runs keeps its start as long as the input stays true.
      cases wasOn : input scan with
      | true =>
          have same : input scan = input (scan + 1) := wasOn.trans isOn.symm
          cases started wasOn
          rw [runStart_succ_of_eq same]
          rfl
      | false =>
          have differs : input scan ≠ input (scan + 1) := by
            rw [wasOn, isOn]
            exact Bool.false_ne_true
          rw [runStart_succ_of_ne differs]
          rfl

theorem onDelayStep_keeps
    {scan : Nat} {timer : TimerState}
    (keeps : OnDelayKeeps input now scan timer) (presetMs : UInt16) :
    OnDelayKeeps input now (scan + 1)
      (onDelayStep (input scan) presetMs (now scan) timer).2 := by
  rw [OnDelayKeeps]
  cases isOn : input scan with
  | true =>
      rw [onDelayStep_running keeps isOn]
      exact ⟨rfl, fun _ => rfl⟩
  | false => exact ⟨rfl, nofun⟩

/-- A `TON` is done in a scan if and only if its input is true and has been
for the preset. -/
def OnDelayLaw (input output : Nat → Bool) (now : Nat → Int)
    (presetMs : UInt16) (scan : Nat) : Prop :=
  output scan = true ↔
  input scan = true ∧
  (presetMs.toNat : Int) ≤ now scan - now (runStart input scan)

theorem onDelayLaw_of_answers
    {presetMs : UInt16} {output : Nat → Bool}
    {record : Nat → TimerState}
    (answers :
      Answers
        (fun scan accumulator timer =>
          onDelayStep accumulator presetMs (now scan) timer)
        input output record)
    (idle : (record 0).active = false) (scan : Nat) :
    OnDelayLaw input output now presetMs scan := by
  have keeps :=
    answers.invariant (OnDelayKeeps input now) idle
      (fun _ _ holds => onDelayStep_keeps holds presetMs) scan
  rw [OnDelayLaw, answers.outputs]
  cases isOn : input scan with
  | true =>
      rw [onDelayStep_running keeps isOn]
      simp
  | false => simp [onDelayStep]

/-- The output of a `TON`, in the accumulator and under a tag of the state
table, follows the on-delay law in every scan. -/
theorem on_delay_law
    {program : List UInt8} {start : LadderEngine}
    (starts : Starts program start)
    {before after : List Instruction} {tagId presetMs : UInt16}
    (isProgram : instructions program = before ++ .ton tagId presetMs :: after)
    (alone : ∀ other ∈ before ++ after, other.SparesTimer tagId)
    (scans : Nat → ScanInput) (scan : Nat) :
    let behind := offsetBehind (before ++ [.ton tagId presetMs])
    let output := signalAt start scans behind
    OnDelayLaw (signalAt start scans (offsetBehind before)) output
        (nowAt scans) presetMs scan ∧
    (StateValidId tagId →
    valueAt start scans tagId behind scan =
      if output scan then 1 else 0) := by
  constructor
  · refine
      onDelayLaw_of_answers
        (timer_answers starts.accepted starts.follows scans onDelayStep_tagId
          isProgram rfl (fun _ _ => rfl) alone)
        ?_ scan
    rw [starts.timerOf]
    rfl
  · intro isTag
    exact
      timer_value starts.accepted starts.follows scans onDelayStep_tagId
        isProgram rfl (fun _ _ => rfl) alone isTag scan

def loadedWith (program : List UInt8) : LadderEngine :=
  (ladderEngineLoadProgram LadderEngine.cleared none program .committed
    .committed).2.1

def held (scan : Nat) : ScanInput where
  store := stateSetInt stateInit 10 1
  clockUs := 1000000 * scan

/-- After its second `TON 100` is done. -/
theorem delayedOutput_done :
    signalAt (loadedWith delayedOutput) held 13 1 = true ∧
    valueAt (loadedWith delayedOutput) held 100 13 1 = 1 := by
  have isProgram :
      instructions delayedOutput =
        [.onTag .ld 10] ++ .ton 100 1000 :: [.onTag .st 101] := by
    decide +kernel
  have starts : Starts delayedOutput (loadedWith delayedOutput) :=
    .loaded _ _ _ _ (by decide +kernel)
  have alone :
      ∀ other ∈ [Instruction.onTag .ld 10] ++ [.onTag .st 101],
        other.SparesTimer 100 := by
    intro other member
    rcases List.mem_cons.mp member with rfl | later
    · exact ⟨nofun, nofun⟩
    · cases List.mem_singleton.mp later
      exact ⟨nofun, nofun⟩
  have law := on_delay_law starts isProgram alone held 1
  have isDone := law.1.mpr ⟨by decide +kernel, by decide +kernel⟩
  exact ⟨isDone, (law.2 (by decide)).trans (if_pos isDone)⟩

/-- `LDN 0`, `TON` on a tag outside the state table. -/
def outsideTag : List UInt8 :=
  [0x45, 0x4E, 0x44, 0x50, 0x01, 0x02, 0x00, 0x00, 0x30, 0x01, 0x00, 0x00,
    0x00, 0xFF]

/-- `LD 10`, `TOF 100`, `LD 10`, `TON 100`, both with a preset of 100 ms. -/
def sharedTag : List UInt8 :=
  [0x45, 0x4E, 0x44, 0x50, 0x01, 0x01, 0x00, 0x0A, 0x31, 0x00, 0x64, 0x00,
    0x64, 0x01, 0x00, 0x0A, 0x30, 0x00, 0x64, 0x00, 0x64, 0xFF]

/-- A tag outside the state table does not get the output, and a `TON` that
shares its tag with a `TOF` is never done. -/
theorem on_delay_exceptions :
    (instructions outsideTag = [.onTag .ldn 0, .ton 256 0] ∧
        validateProgram outsideTag = .ok ∧
        signalAt (loadedWith outsideTag) held 13 0 = true ∧
        valueAt (loadedWith outsideTag) held 256 13 0 = 0) ∧
      instructions sharedTag =
          [.onTag .ld 10, .tof 100 100, .onTag .ld 10, .ton 100 100] ∧
      validateProgram sharedTag = .ok ∧
      ¬ OnDelayLaw (signalAt (loadedWith sharedTag) held 16)
        (signalAt (loadedWith sharedTag) held 21) (nowAt held) 100 1 := by
  refine
    ⟨⟨by decide +kernel, by decide +kernel, by decide +kernel,
        by decide +kernel⟩,
      by decide +kernel, by decide +kernel, ?_⟩
  intro law
  have isDone := law.mpr ⟨by decide +kernel, by decide +kernel⟩
  exact absurd isDone (by decide +kernel)

end Endap.Ladder
