import Endap.Ladder.Program
import Endap.Library.Signal

/-!
# Signals of a running program

Each offset of a program carries a signal: the accumulator with which the
scans come to the offset.  An instruction turns the signal in front of it into
the one behind it.  A timer or a counter also keeps a record from one scan to
the next, which only the instructions on its tag touch.

Scans are numbered from when the engine gets the program.
-/

namespace Endap.Ladder

open Endap.Library
open Endap.Library.Loop
open Endap.Library.Signal
open Endap.State

/-! ## Stopping a scan -/

/-- One iteration of a scan that stops at an offset. -/
def scanToBody (program : List UInt8) (nowMs : Int) (offset : Nat)
    (scan : Scan) : Flow Scan :=
  if offset ≤ scan.pc then .stop scan else scanBody program nowMs scan

/-- A scan up to an offset. -/
def scanTo (program : List UInt8) (nowMs : Int) (offset : Nat)
    (scan : Scan) : Scan :=
  Loop.run (fun state => program.length - state.pc)
    (scanToBody program nowMs offset) scan

theorem scanToBody_decreasing
    (program : List UInt8) (nowMs : Int) (offset : Nat) :
    Decreasing (fun scan : Scan => program.length - scan.pc)
      (scanToBody program nowMs offset) := by
  intro scan after flow
  rw [scanToBody] at flow
  split at flow
  · cases flow
  · exact scanBody_decreasing program nowMs scan after flow

theorem Located.scanTo
    {program : List UInt8} {offset last : Nat} {code : List Instruction}
    (located : Located program offset code last) {scan : Scan}
    (isStart : scan.pc = offset) (nowMs : Int) :
    (scanTo program nowMs last scan).pc = last ∧
    (scanTo program nowMs last scan).machine =
      runInstructions nowMs scan.machine code := by
  induction located generalizing scan with
  | nil =>
      have stops : scanToBody program nowMs _ scan = .stop scan :=
        if_pos (Nat.le_of_eq isStart.symm)
      rw [Ladder.scanTo, run_stop stops]
      exact ⟨isStart, rfl⟩
  | @cons offset last instruction rest decoded room located induction =>
      subst isStart
      rcases scanBody_decodeAt decoded room nowMs with
        ⟨next, flow, isNext, machine⟩
      -- The code is not over, so the offset is still ahead.
      have before : ¬ last ≤ scan.pc := by
        have positive := instruction.width_pos
        have isLast := located.last_eq
        omega
      have goesOn : scanToBody program nowMs last scan = .next next :=
        (if_neg before).trans flow
      have ran := induction isNext
      rw [Ladder.scanTo,
        run_next (scanToBody_decreasing program nowMs last) goesOn]
      refine ⟨ran.1, ran.2.trans ?_⟩
      rw [machine]
      rfl

/-! ## Scans of a new program -/

/-- The engine has just got a program that the validator accepts: from a
load, or at start-up from the blob that a load has stored. -/
inductive Starts (program : List UInt8) : LadderEngine → Prop where
  | loaded (engine : LadderEngine) (blob : LadderBlob)
      (erased stored : NvsOutcome)
      (accepted :
        (ladderEngineLoadProgram engine blob program erased stored).1 = .ok) :
      Starts program
        (ladderEngineLoadProgram engine blob program erased stored).2.1
  | restored (accepted : validateProgram program = .ok) :
      Starts program (ladderEngineInit (some program) true)

section

variable {program : List UInt8} {start : LadderEngine}
variable (starts : Starts program start)

include starts

theorem Starts.accepted : validateProgram program = .ok := by
  cases starts with
  | loaded engine blob erased stored accepted =>
      exact
        (ladderEngineLoadProgram_follows engine blob erased stored accepted).1
  | restored accepted => exact accepted

theorem Starts.eq_holding :
    ∃ nonempty fits, start = LadderEngine.holding program nonempty fits := by
  have accepted := starts.accepted
  have nonempty := ne_nil_of_validateProgram accepted
  have fits := (validateProgram_ok accepted).2.1
  refine ⟨nonempty, fits, ?_⟩
  cases starts with
  | loaded engine blob erased stored =>
      rw [ladderEngineLoadProgram_accepted engine blob erased stored accepted]
  | restored => exact dif_pos ⟨rfl, nonempty, fits⟩

theorem Starts.follows : Follows program start := by
  rcases starts.eq_holding with ⟨nonempty, fits, rfl⟩
  exact
    ⟨rfl, rfl, KeyedTable.empty_keysWithin _ _, KeyedTable.empty_keysWithin _ _⟩

end

/-- The engine before a scan. -/
def engineAt (start : LadderEngine) (scans : Nat → ScanInput) :
    Nat → LadderEngine
  | 0 => start
  | scan + 1 => (ladderScan (engineAt start scans scan) (scans scan)).1

/-- `now_ms` of a scan. -/
def nowAt (scans : Nat → ScanInput) (scan : Nat) : Int :=
  (scans scan).clockUs.tdiv 1000

/-- The machine of a scan at its start. -/
def machineOf (start : LadderEngine) (scans : Nat → ScanInput)
    (scan : Nat) : Machine :=
  (startScan (engineAt start scans scan) (scans scan).store).machine

/-- The machine with which a scan comes to an offset. -/
def machineAt (start : LadderEngine) (scans : Nat → ScanInput)
    (offset scan : Nat) : Machine :=
  (scanTo (engineAt start scans scan).bytecode (nowAt scans scan) offset
    (startScan (engineAt start scans scan) (scans scan).store)).machine

/-- The signal at an offset. -/
def signalAt (start : LadderEngine) (scans : Nat → ScanInput)
    (offset scan : Nat) : Bool :=
  (machineAt start scans offset scan).accumulator

/-- The value of a tag with which a scan comes to an offset. -/
def valueAt (start : LadderEngine) (scans : Nat → ScanInput)
    (tagId : UInt16) (offset scan : Nat) : Int32 :=
  stateValue (machineAt start scans offset scan).store tagId

theorem instruction_counted
    {program : List UInt8} (accepted : validateProgram program = .ok)
    {before after : List Instruction} {instruction : Instruction}
    (isProgram : instructions program = before ++ instruction :: after) :
    instruction.CountedIn (pass1 program) := by
  rcases instructions_located accepted with ⟨_, _, _, counted⟩
  apply counted
  rw [isProgram]
  exact List.mem_append_right before (List.mem_cons_self ..)

theorem pass1_few (program : List UInt8) :
    (pass1 program).timerTags.length ≤ maxTimers ∧
    (pass1 program).counterTags.length ≤ maxCounters :=
  (@pass1_tagsWithin program Pass1.start (Nat.zero_le _) (Nat.zero_le _)).2

section

variable {program : List UInt8} {start : LadderEngine}
variable (accepted : validateProgram program = .ok)
variable (follows : Follows program start)
variable (scans : Nat → ScanInput)

include accepted follows

theorem engineAt_follows (scan : Nat) :
    Follows program (engineAt start scans scan) := by
  induction scan with
  | zero => exact follows
  | succ scan induction =>
      exact (ladderScan_follows accepted induction (scans scan)).1

variable {before after : List Instruction}

theorem machineAt_before
    (isProgram : instructions program = before ++ after) (scan : Nat) :
    machineAt start scans (offsetBehind before) scan =
      runInstructions (nowAt scans scan) (machineOf start scans scan)
        before := by
  rcases instructions_located accepted with ⟨last, located, _, _⟩
  rw [isProgram] at located
  rw [machineAt, (engineAt_follows accepted follows scans scan).holds]
  exact (located.split.1.scanTo rfl (nowAt scans scan)).2

theorem machineAt_append
    {code : List Instruction}
    (isProgram : instructions program = before ++ code ++ after)
    (scan : Nat) :
    machineAt start scans (offsetBehind (before ++ code)) scan =
      runInstructions (nowAt scans scan)
        (machineAt start scans (offsetBehind before) scan) code := by
  rw [machineAt_before accepted follows scans isProgram, runInstructions_append]
  rw [List.append_assoc] at isProgram
  rw [machineAt_before accepted follows scans isProgram]

theorem machineAt_tables
    (isProgram : instructions program = before ++ after) (scan : Nat) :
    TablesWithin (pass1 program)
      (machineAt start scans (offsetBehind before) scan) := by
  rcases instructions_located accepted with ⟨_, _, _, counted⟩
  have few := pass1_few program
  have now := engineAt_follows accepted follows scans scan
  have within : TablesWithin (pass1 program) (machineOf start scans scan) :=
    ⟨now.timers, now.counters⟩
  rw [machineAt_before accepted follows scans isProgram]
  refine runInstructions_tables ?_ few.1 few.2 within _
  intro instruction member
  apply counted
  rw [isProgram]
  exact List.mem_append_left after member

theorem engineAt_succ_tables (scan : Nat) :
    (engineAt start scans (scan + 1)).timers =
        (machineAt start scans (offsetBehind (instructions program))
          scan).timers ∧
    (engineAt start scans (scan + 1)).counters =
      (machineAt start scans (offsetBehind (instructions program))
        scan).counters := by
  rcases instructions_located accepted with ⟨last, located, ends, _⟩
  have now := engineAt_follows accepted follows scans scan
  have whole :=
    @Located.scanProgram_machine program last (instructions program)
      (startScan (engineAt start scans scan) (scans scan).store) located ends
      (nowAt scans scan)
  have behind :=
    machineAt_before accepted follows scans
      (List.append_nil (instructions program)).symm scan
  rw [behind, machineOf, ← whole, ← now.holds, engineAt, ladderScan,
    ladderEngineRun, if_neg (now.runs accepted)]
  exact ⟨rfl, rfl⟩

end

end Endap.Ladder
