import Endap.Library.Run
import Endap.Library.Sweep
import Mathlib.Algebra.Order.Group.Nat
import Mathlib.Data.Fintype.Fin
import Mathlib.Data.UInt

/-!
# The phases of the control loop

Each cycle of the control loop runs five functions of the scheduler, keeps the
longest time of each, and has the phase monitor count the times beyond a
deadline.  Three tables say which function a position stands for, which
maximum is kept for it, and which deadline it has.  The first of them has
another order than the other two: the fieldbus is recorded as the application
of the outputs, the automation as the fieldbus, and the application of the
outputs as the automation.
-/

namespace Endap.Kernel

open Endap.Library

/-! ## The tables -/

/-- The functions of the scheduler that a cycle runs, by their names. -/
inductive Phase where
  | io
  | ioApply
  | fieldbus
  | automation
  | events
deriving DecidableEq

abbrev phaseCount : Nat := 5

def phaseTable : Fin phaseCount → Phase
  | 0 => .io
  | 1 => .fieldbus
  | 2 => .automation
  | 3 => .ioApply
  | 4 => .events

/-- `phase_max_table`, the name of the maximum at each position. -/
def phaseMaxTable : Fin phaseCount → Phase
  | 0 => .io
  | 1 => .ioApply
  | 2 => .fieldbus
  | 3 => .automation
  | 4 => .events

def phaseDeadline : Fin phaseCount → UInt32
  | 0 => 90
  | 1 => 30
  | 2 => 100
  | 3 => 150
  | 4 => 50

/-! ## The phase monitor -/

def phaseMonitorCheck (overrunCounter : Fin phaseCount → UInt32)
    (phase : UInt8) (execTime : UInt32) : Fin phaseCount → UInt32 :=
  if inside : phase.toNat < phaseCount then
    if execTime > phaseDeadline ⟨phase.toNat, inside⟩ then
      Function.update overrunCounter ⟨phase.toNat, inside⟩
        (overrunCounter ⟨phase.toNat, inside⟩ + 1)
    else overrunCounter
  else overrunCounter

/-- What `phase_monitor_snapshot_t` says of one phase. -/
structure PhaseMonitorEntry where
  deadlineUs : UInt32
  overruns : UInt32

def phaseMonitorGet (overrunCounter : Fin phaseCount → UInt32) :
    Phase → PhaseMonitorEntry
  | .io => ⟨phaseDeadline 0, overrunCounter 0⟩
  | .ioApply => ⟨phaseDeadline 1, overrunCounter 1⟩
  | .fieldbus => ⟨phaseDeadline 2, overrunCounter 2⟩
  | .automation => ⟨phaseDeadline 3, overrunCounter 3⟩
  | .events => ⟨phaseDeadline 4, overrunCounter 4⟩

/-! ## The control loop -/

def loopPeriodUs : UInt64 := 1000

def bootIgnoreCycles : UInt32 := 2000

def deadlineFaultThreshold : UInt32 := 200

def uint64Max : UInt64 := 0xffffffffffffffff

structure KernelPhaseMetrics where
  ioMax : UInt32
  fieldbusMax : UInt32
  automationMax : UInt32
  eventsMax : UInt32

/-- The static state of `control_loop.c` with the counters of the phase
monitor, and whether the loop was aborted. -/
structure ControlLoop where
  expectedCycleTime : UInt64
  cycleCounter : UInt32
  jitterSum : UInt64
  jitterSamples : UInt32
  jitterMin : UInt64
  jitterMax : UInt64
  execMin : UInt64
  execMax : UInt64
  deadlineMiss : UInt32
  consecutiveDeadlineMiss : UInt32
  overrunCount : UInt32
  phaseMax : Phase → UInt32
  overrunCounter : Fin phaseCount → UInt32
  aborted : Bool

/-- The state before the first cycle. -/
def ControlLoop.init : ControlLoop where
  expectedCycleTime := 0
  cycleCounter := 0
  jitterSum := 0
  jitterSamples := 0
  jitterMin := uint64Max
  jitterMax := 0
  execMin := uint64Max
  execMax := 0
  deadlineMiss := 0
  consecutiveDeadlineMiss := 0
  overrunCount := 0
  phaseMax := fun _ => 0
  overrunCounter := fun _ => 0
  aborted := false

def safeTimeDiff (start finish : UInt64) : UInt64 :=
  if finish ≥ start then finish - start else 0

/-- What a cycle reads: the notifications that were waiting, the clock at its
start and at its end, and the timer before and after each function. -/
structure Cycle where
  waiting : UInt32
  start : UInt64
  timer : Phase → UInt64 × UInt64
  finish : UInt64

/-- The execution time of a function of the scheduler in a cycle. -/
def Cycle.time (cycle : Cycle) (phase : Phase) : UInt64 :=
  safeTimeDiff (cycle.timer phase).1 (cycle.timer phase).2

/-- The distance of the start of a cycle from the expected one. -/
def ControlLoop.jitter (loop : ControlLoop) (start : UInt64) : Int64 :=
  let jitter := start.toInt64 - loop.expectedCycleTime.toInt64
  if jitter < 0 then -jitter else jitter

/-- The jitter statistics. -/
def ControlLoop.noteJitter (loop : ControlLoop) (jitter : Int64) :
    ControlLoop :=
  let j := jitter.toUInt64
  if loop.cycleCounter > bootIgnoreCycles ∧ j < loopPeriodUs then
    { loop with
      jitterMin := if j < loop.jitterMin then j else loop.jitterMin
      jitterMax := if j > loop.jitterMax then j else loop.jitterMax
      jitterSum := loop.jitterSum + j
      jitterSamples := loop.jitterSamples + 1 }
  else loop

/-- The drift correction. -/
def ControlLoop.correctDrift (loop : ControlLoop) (start : UInt64) :
    ControlLoop :=
  if start > loop.expectedCycleTime then
    let diff := start - loop.expectedCycleTime
    { loop with
      expectedCycleTime :=
        loop.expectedCycleTime + (diff / loopPeriodUs + 1) * loopPeriodUs }
  else
    { loop with
      expectedCycleTime := loop.expectedCycleTime + loopPeriodUs }

/-- A maximum after one more time. -/
def keepMax (phaseMax : UInt32) (dt : UInt64) : UInt32 :=
  if dt > phaseMax.toUInt64 then dt.toUInt32 else phaseMax

/-- One round of the phase execution. -/
def ControlLoop.runPhase (cycle : Cycle) (loop : ControlLoop)
    (i : Fin phaseCount) : ControlLoop :=
  let dt := cycle.time (phaseTable i)
  { loop with
    phaseMax :=
      Function.update loop.phaseMax (phaseMaxTable i)
        (keepMax (loop.phaseMax (phaseMaxTable i)) dt)
    overrunCounter :=
      phaseMonitorCheck loop.overrunCounter (UInt8.ofNat i.val) dt.toUInt32 }

/-- The phase execution. -/
def ControlLoop.runPhases (loop : ControlLoop) (cycle : Cycle) :
    ControlLoop :=
  (List.finRange phaseCount).foldl (ControlLoop.runPhase cycle) loop

/-- The extremes of the execution time. -/
def ControlLoop.noteExec (loop : ControlLoop) (exec : UInt64) :
    ControlLoop :=
  { loop with
    execMin := if exec < loop.execMin then exec else loop.execMin
    execMax := if exec > loop.execMax then exec else loop.execMax }

/-- The deadline monitor. -/
def ControlLoop.noteDeadline (loop : ControlLoop) (exec : UInt64) :
    ControlLoop :=
  if exec > loopPeriodUs then
    { loop with
      deadlineMiss := loop.deadlineMiss + 1
      consecutiveDeadlineMiss := loop.consecutiveDeadlineMiss + 1
      aborted := loop.consecutiveDeadlineMiss + 1 > deadlineFaultThreshold }
  else { loop with consecutiveDeadlineMiss := 0 }

/-- The phases and what is watched of their time. -/
def ControlLoop.monitored (loop : ControlLoop) (cycle : Cycle) :
    ControlLoop :=
  let exec := safeTimeDiff cycle.start cycle.finish
  ((loop.runPhases cycle).noteExec exec).noteDeadline exec

def ioPhaseMax (io ioApply : UInt32) : UInt32 :=
  if io > ioApply then io else ioApply

/-- What is handed to `kernel_phase_metrics_update`. -/
def ControlLoop.metrics (loop : ControlLoop) : KernelPhaseMetrics where
  ioMax := ioPhaseMax (loop.phaseMax .io) (loop.phaseMax .ioApply)
  fieldbusMax := loop.phaseMax .fieldbus
  automationMax := loop.phaseMax .automation
  eventsMax := loop.phaseMax .events

/-- The statistics start again. -/
def ControlLoop.reset (loop : ControlLoop) : ControlLoop :=
  { loop with
    jitterSum := 0
    jitterSamples := 0
    jitterMin := uint64Max
    jitterMax := 0
    execMin := uint64Max
    execMax := 0
    phaseMax := fun _ => 0 }

/-- How a cycle ends: the loop had been aborted, a glitch of the clock left
the phases out, or they ran and the metrics may have been handed over. -/
inductive CycleOutcome where
  | stopped
  | skipped
  | executed (handed : Option KernelPhaseMetrics)

/-- A cycle from the phase execution on. -/
def ControlLoop.execute (loop : ControlLoop) (cycle : Cycle) :
    ControlLoop × CycleOutcome :=
  let monitored := loop.monitored cycle
  if monitored.aborted then (monitored, .executed none)
  else if monitored.jitterSamples ≠ 0 ∧ monitored.cycleCounter % 5000 = 0
  then (monitored.reset, .executed (some monitored.metrics))
  else (monitored, .executed none)

/-- The notifications are taken, and the first cycle is the expected one. -/
def ControlLoop.notified (loop : ControlLoop) (cycle : Cycle) :
    ControlLoop :=
  { loop with
    overrunCount := loop.overrunCount + cycle.waiting
    expectedCycleTime :=
      if loop.expectedCycleTime = 0 then cycle.start
      else loop.expectedCycleTime }

/-- A cycle up to the phase execution. -/
def ControlLoop.prepared (loop : ControlLoop) (cycle : Cycle) :
    ControlLoop :=
  let notified := loop.notified cycle
  ({ notified with cycleCounter := notified.cycleCounter + 1 }.noteJitter
      (notified.jitter cycle.start)).correctDrift
    cycle.start

/-- One cycle of `control_loop_run`. -/
def controlLoopRun (loop : ControlLoop) (cycle : Cycle) :
    ControlLoop × CycleOutcome :=
  if loop.aborted then (loop, .stopped)
  else
    let notified := loop.notified cycle
    if notified.jitter cycle.start > 1000000 then
      ({ notified with
          expectedCycleTime := cycle.start + loopPeriodUs }, .skipped)
    else (loop.prepared cycle).execute cycle

/-! ## Records -/

/-- What is recorded at each position: the maximum and the overruns. -/
def ControlLoop.recorded (loop : ControlLoop) (i : Fin phaseCount) :
    UInt32 × UInt32 :=
  (loop.phaseMax (phaseMaxTable i), loop.overrunCounter i)

/-- The overruns after one more time. -/
def countOverrun (limit count : UInt32) (dt : UInt64) : UInt32 :=
  if dt.toUInt32 > limit then count + 1 else count

theorem phaseMaxTable_injective : Function.Injective phaseMaxTable := by
  intro first second same
  revert first second
  decide

theorem phaseMonitorCheck_apply
    (overrunCounter : Fin phaseCount → UInt32) (i place : Fin phaseCount)
    (dt : UInt64) :
    phaseMonitorCheck overrunCounter (UInt8.ofNat i.val) dt.toUInt32 place =
      if place = i then countOverrun (phaseDeadline i) (overrunCounter i) dt
      else overrunCounter place := by
  have position : (UInt8.ofNat i.val).toNat = i.val :=
    UInt8.toNat_ofNat_of_lt' (Nat.lt_trans i.isLt (by decide))
  have inside : (UInt8.ofNat i.val).toNat < phaseCount := by
    rw [position]
    exact i.isLt
  have same : (⟨(UInt8.ofNat i.val).toNat, inside⟩ : Fin phaseCount) = i :=
    Fin.ext position
  rw [phaseMonitorCheck, dif_pos inside, same, countOverrun]
  split
  · exact Function.update_apply _ _ _ _
  · split
    · next isPlace => rw [isPlace]
    · rfl

theorem runPhase_recorded
    (cycle : Cycle) (loop : ControlLoop) (i place : Fin phaseCount) :
    (ControlLoop.runPhase cycle loop i).recorded place =
      if place = i then
        (keepMax (loop.recorded i).1 (cycle.time (phaseTable i)),
          countOverrun (phaseDeadline i) (loop.recorded i).2
            (cycle.time (phaseTable i)))
      else loop.recorded place := by
  simp only [ControlLoop.recorded, ControlLoop.runPhase,
    phaseMonitorCheck_apply]
  split
  · next isPlace => rw [isPlace, Function.update_self]
  · next other =>
      rw [Function.update_of_ne fun same =>
        other (phaseMaxTable_injective same)]

theorem runPhases_recorded
    (loop : ControlLoop) (cycle : Cycle) (i : Fin phaseCount) :
    (loop.runPhases cycle).recorded i =
      (keepMax (loop.recorded i).1 (cycle.time (phaseTable i)),
        countOverrun (phaseDeadline i) (loop.recorded i).2
          (cycle.time (phaseTable i))) :=
  Sweep.foldl_indices
    (fun i part =>
      (keepMax part.1 (cycle.time (phaseTable i)),
        countOverrun (phaseDeadline i) part.2 (cycle.time (phaseTable i))))
    (fun loop i place => runPhase_recorded cycle loop i place)
    (List.nodup_finRange _) (List.mem_finRange i) loop

@[simp]
theorem noteJitter_recorded (loop : ControlLoop) (jitter : Int64) :
    (loop.noteJitter jitter).recorded = loop.recorded := by
  rw [ControlLoop.noteJitter]
  split
  · rfl
  · rfl

@[simp]
theorem correctDrift_recorded (loop : ControlLoop) (start : UInt64) :
    (loop.correctDrift start).recorded = loop.recorded := by
  funext i
  rw [ControlLoop.recorded, ControlLoop.recorded, ControlLoop.correctDrift]
  split
  · rfl
  · rfl

@[simp]
theorem noteExec_recorded (loop : ControlLoop) (exec : UInt64) :
    (loop.noteExec exec).recorded = loop.recorded :=
  rfl

@[simp]
theorem noteDeadline_recorded (loop : ControlLoop) (exec : UInt64) :
    (loop.noteDeadline exec).recorded = loop.recorded := by
  rw [ControlLoop.noteDeadline]
  split
  · rfl
  · rfl

theorem metrics_recorded (loop : ControlLoop) :
    loop.metrics =
      { ioMax := ioPhaseMax (loop.recorded 0).1 (loop.recorded 1).1
        fieldbusMax := (loop.recorded 2).1
        automationMax := (loop.recorded 3).1
        eventsMax := (loop.recorded 4).1 } :=
  rfl

@[simp]
theorem prepared_recorded (loop : ControlLoop) (cycle : Cycle) :
    (loop.prepared cycle).recorded = loop.recorded := by
  rw [ControlLoop.prepared, correctDrift_recorded, noteJitter_recorded]
  rfl

/-! ## Cycles -/

/-- A cycle runs the phases unless the loop was aborted or the clock jumped. -/
def ControlLoop.Runs (loop : ControlLoop) (cycle : Cycle) : Prop :=
  loop.aborted = false ∧ ¬ (loop.notified cycle).jitter cycle.start > 1000000

/-- The cycle misses its deadline once too often. -/
def ControlLoop.Faults (loop : ControlLoop) (cycle : Cycle) : Prop :=
  safeTimeDiff cycle.start cycle.finish > loopPeriodUs ∧
  loop.consecutiveDeadlineMiss + 1 > deadlineFaultThreshold

/-- A cycle hands the metrics over when it is the last of five thousand and
the jitter was sampled since the last time. -/
def ControlLoop.HandsOver (loop : ControlLoop) (cycle : Cycle) : Prop :=
  loop.Runs cycle ∧ ¬ loop.Faults cycle ∧
  (loop.prepared cycle).jitterSamples ≠ 0 ∧ (loop.cycleCounter + 1) % 5000 = 0

instance (loop : ControlLoop) (cycle : Cycle) :
    Decidable (loop.Runs cycle) := by
  unfold ControlLoop.Runs
  infer_instance

instance (loop : ControlLoop) (cycle : Cycle) :
    Decidable (loop.HandsOver cycle) := by
  unfold ControlLoop.HandsOver ControlLoop.Faults
  infer_instance

def ControlLoop.counters (loop : ControlLoop) : UInt32 × UInt32 × UInt32 :=
  (loop.cycleCounter, loop.jitterSamples, loop.consecutiveDeadlineMiss)

theorem runPhases_counters (loop : ControlLoop) (cycle : Cycle) :
    (loop.runPhases cycle).counters = loop.counters ∧
    (loop.runPhases cycle).aborted = loop.aborted := by
  refine
    List.foldlRecOn (List.finRange phaseCount) (ControlLoop.runPhase cycle)
      (motive := fun reached =>
        reached.counters = loop.counters ∧ reached.aborted = loop.aborted)
      ⟨rfl, rfl⟩ ?_
  intro reached kept i _
  exact kept

theorem prepared_counters (loop : ControlLoop) (cycle : Cycle) :
    (loop.prepared cycle).cycleCounter = loop.cycleCounter + 1 ∧
    (loop.prepared cycle).consecutiveDeadlineMiss =
      loop.consecutiveDeadlineMiss ∧
    (loop.prepared cycle).aborted = loop.aborted := by
  rw [ControlLoop.prepared, ControlLoop.correctDrift]
  split
  · rw [ControlLoop.noteJitter]
    split
    · exact ⟨rfl, rfl, rfl⟩
    · exact ⟨rfl, rfl, rfl⟩
  · rw [ControlLoop.noteJitter]
    split
    · exact ⟨rfl, rfl, rfl⟩
    · exact ⟨rfl, rfl, rfl⟩

theorem monitored_recorded
    (loop : ControlLoop) (cycle : Cycle) (i : Fin phaseCount) :
    (loop.monitored cycle).recorded i =
      (keepMax (loop.recorded i).1 (cycle.time (phaseTable i)),
        countOverrun (phaseDeadline i) (loop.recorded i).2
          (cycle.time (phaseTable i))) := by
  rw [ControlLoop.monitored, noteDeadline_recorded, noteExec_recorded,
    runPhases_recorded]

theorem monitored_counters (loop : ControlLoop) (cycle : Cycle) :
    (loop.monitored cycle).cycleCounter = loop.cycleCounter ∧
    (loop.monitored cycle).jitterSamples = loop.jitterSamples := by
  have kept := (runPhases_counters loop cycle).1
  have counter : (loop.runPhases cycle).cycleCounter = loop.cycleCounter :=
    congrArg Prod.fst kept
  have samples : (loop.runPhases cycle).jitterSamples = loop.jitterSamples :=
    congrArg (fun counters => counters.2.1) kept
  rw [ControlLoop.monitored, ControlLoop.noteDeadline]
  split
  · exact ⟨counter, samples⟩
  · exact ⟨counter, samples⟩

theorem monitored_aborted
    {loop : ControlLoop} (running : loop.aborted = false) (cycle : Cycle) :
    (loop.monitored cycle).aborted = true ↔ loop.Faults cycle := by
  rcases runPhases_counters loop cycle with ⟨kept, aborted⟩
  have misses :
      (loop.runPhases cycle).consecutiveDeadlineMiss =
        loop.consecutiveDeadlineMiss :=
    congrArg (fun counters => counters.2.2) kept
  rw [ControlLoop.monitored, ControlLoop.noteDeadline, ControlLoop.Faults]
  split
  · next late =>
      simp only [late, true_and, ControlLoop.noteExec, misses,
        decide_eq_true_iff]
  · next early =>
      simp only [early, false_and, iff_false, ControlLoop.noteExec,
        aborted, running]
      exact Bool.false_ne_true

/-- How the records of a cycle come about. -/
inductive CycleResult (loop : ControlLoop) (cycle : Cycle) :
    ControlLoop × CycleOutcome → Prop
  | idle (next : ControlLoop) (outcome : CycleOutcome) :
      ¬ loop.Runs cycle → (∀ handed, outcome ≠ .executed handed) →
      next.recorded = loop.recorded → CycleResult loop cycle (next, outcome)
  | kept (reached : ControlLoop) :
      loop.Runs cycle → ¬ loop.HandsOver cycle →
      (∀ i, reached.recorded i =
        (keepMax (loop.recorded i).1 (cycle.time (phaseTable i)),
          countOverrun (phaseDeadline i) (loop.recorded i).2
            (cycle.time (phaseTable i)))) →
      CycleResult loop cycle (reached, .executed none)
  | handed (reached : ControlLoop) :
      loop.HandsOver cycle →
      (∀ i, reached.recorded i =
        (keepMax (loop.recorded i).1 (cycle.time (phaseTable i)),
          countOverrun (phaseDeadline i) (loop.recorded i).2
            (cycle.time (phaseTable i)))) →
      CycleResult loop cycle (reached.reset, .executed (some reached.metrics))

theorem controlLoopRun_result (loop : ControlLoop) (cycle : Cycle) :
    CycleResult loop cycle (controlLoopRun loop cycle) := by
  rw [controlLoopRun]
  split
  · next aborted =>
      refine .idle _ _ ?_ (fun handed other => by cases other) rfl
      rintro ⟨running, -⟩
      rw [running] at aborted
      exact Bool.false_ne_true aborted
  · next running =>
      rw [Bool.not_eq_true] at running
      dsimp only
      split
      · next jump =>
          refine .idle _ _ ?_ (fun handed other => by cases other) ?_
          · rintro ⟨-, steady⟩
            exact steady jump
          · funext i
            rw [ControlLoop.recorded, ControlLoop.recorded]
            rfl
      · next steady =>
          have runs : loop.Runs cycle := ⟨running, steady⟩
          rcases prepared_counters loop cycle with ⟨count, misses, aborted⟩
          rw [running] at aborted
          have faults :
              ((loop.prepared cycle).monitored cycle).aborted = true ↔
              loop.Faults cycle := by
            rw [monitored_aborted aborted, ControlLoop.Faults, misses,
              ControlLoop.Faults]
          have records := monitored_recorded (loop.prepared cycle) cycle
          rw [prepared_recorded] at records
          rcases monitored_counters (loop.prepared cycle) cycle with
            ⟨sameCount, sameSamples⟩
          rw [ControlLoop.execute]
          rw [sameCount, sameSamples, count]
          split
          · next fault =>
              refine .kept _ runs ?_ records
              rintro ⟨-, noFault, -⟩
              exact noFault (faults.mp fault)
          · next noFault =>
              split
              · next due =>
                  exact
                    .handed _
                      ⟨runs, fun fault => noFault (faults.mpr fault), due⟩
                      records
              · next early =>
                  refine .kept _ runs ?_ records
                  rintro ⟨-, -, due⟩
                  exact early due

/-! ## Runs -/

/-- What is kept of the times of a function. -/
def keptMax (phase : Phase) (cycles : List Cycle) : UInt32 :=
  (cycles.map fun cycle => cycle.time phase).foldl keepMax 0

/-- The overruns of a function, in a counter of 32 bits. -/
def overruns (limit : UInt32) (phase : Phase) (cycles : List Cycle) :
    UInt32 :=
  UInt32.ofNat (cycles.countP fun cycle => (cycle.time phase).toUInt32 > limit)

/-- The control loop, the cycles that ran the phases, and those of them since
the metrics were handed over. -/
structure PhaseRun where
  loop : ControlLoop
  executed : List Cycle
  window : List Cycle

/-- Before the first cycle. -/
def PhaseRun.init : PhaseRun where
  loop := .init
  executed := []
  window := []

/-- The cycles that a cycle's metrics are about. -/
def PhaseRun.measured (run : PhaseRun) (cycle : Cycle) : List Cycle :=
  run.window ++ [cycle]

/-- The cycles that ran the phases, with this one if it does. -/
def PhaseRun.ran (run : PhaseRun) (cycle : Cycle) : List Cycle :=
  if run.loop.Runs cycle then run.executed ++ [cycle] else run.executed

/-- One cycle. -/
def phaseStep (run : PhaseRun) (cycle : Cycle) : PhaseRun × CycleOutcome :=
  let result := controlLoopRun run.loop cycle
  ({ loop := result.1
     executed := run.ran cycle
     window :=
      if run.loop.HandsOver cycle then []
      else if run.loop.Runs cycle then run.measured cycle
      else run.window },
    result.2)

/-- Each position records the times of its own function. -/
def PhaseRun.Sound (run : PhaseRun) : Prop :=
  ∀ i,
    run.loop.recorded i =
      (keptMax (phaseTable i) run.window,
        overruns (phaseDeadline i) (phaseTable i) run.executed)

theorem sound_init : PhaseRun.init.Sound := fun _ => rfl

theorem keptMax_snoc (phase : Phase) (cycles : List Cycle) (cycle : Cycle) :
    keptMax phase (cycles ++ [cycle]) =
      keepMax (keptMax phase cycles) (cycle.time phase) := by
  rw [keptMax, List.map_append, List.foldl_append]
  rfl

theorem overruns_snoc
    (limit : UInt32) (phase : Phase) (cycles : List Cycle) (cycle : Cycle) :
    overruns limit phase (cycles ++ [cycle]) =
      countOverrun limit (overruns limit phase cycles)
        (cycle.time phase) := by
  rw [overruns, List.countP_append, List.countP_singleton, UInt32.ofNat_add,
    countOverrun]
  simp only [decide_eq_true_eq]
  split
  · rfl
  · exact UInt32.add_zero _

variable {run : PhaseRun}

theorem recorded_of_sound
    (sound : run.Sound) {cycle : Cycle}
    {reached : ControlLoop}
    (records :
      ∀ i, reached.recorded i =
        (keepMax (run.loop.recorded i).1 (cycle.time (phaseTable i)),
          countOverrun (phaseDeadline i) (run.loop.recorded i).2
            (cycle.time (phaseTable i))))
    (i : Fin phaseCount) :
    reached.recorded i =
      (keptMax (phaseTable i) (run.measured cycle),
        overruns (phaseDeadline i) (phaseTable i)
          (run.executed ++ [cycle])) := by
  rw [records, sound i, PhaseRun.measured, keptMax_snoc, overruns_snoc]

theorem phaseStep_sound
    (sound : run.Sound) (cycle : Cycle) :
    (phaseStep run cycle).1.Sound := by
  intro i
  rw [phaseStep, PhaseRun.ran]
  generalize isResult : controlLoopRun run.loop cycle = result
  have cases := controlLoopRun_result run.loop cycle
  rw [isResult] at cases
  cases cases with
  | idle next outcome idle notRun kept =>
      have early : ¬ run.loop.HandsOver cycle :=
        fun handsOver => idle handsOver.1
      simp only [if_neg idle, if_neg early, kept]
      exact sound i
  | kept reached runs early records =>
      simp only [if_pos runs, if_neg early]
      exact recorded_of_sound sound records i
  | handed reached due records =>
      have recorded := recorded_of_sound sound records i
      simp only [if_pos due, if_pos due.1]
      have counted :
          reached.overrunCounter i =
            overruns (phaseDeadline i) (phaseTable i)
              (run.executed ++ [cycle]) :=
        congrArg Prod.snd recorded
      exact Prod.ext rfl counted

/-! ## Attribution -/

/-- The metrics of the functions of the same names. -/
def ownMetrics (cycles : List Cycle) : KernelPhaseMetrics where
  ioMax := ioPhaseMax (keptMax .io cycles) (keptMax .ioApply cycles)
  fieldbusMax := keptMax .fieldbus cycles
  automationMax := keptMax .automation cycles
  eventsMax := keptMax .events cycles

/-- Metrics that are handed over, and the overruns after a cycle, are those of
the functions of the same names. -/
structure Attributed
    (made : Run.Transition PhaseRun Cycle CycleOutcome) : Prop where
  maxima :
    ∀ metrics,
      made.output = .executed (some metrics) →
      metrics = ownMetrics (made.before.measured made.action)
  counters :
    ∀ phase,
      let entry := phaseMonitorGet made.after.loop.overrunCounter phase
      entry.overruns = overruns entry.deadlineUs phase made.after.executed

/-- The fieldbus, the automation and the application of the outputs needed
the same longest time, as far as it is kept. -/
def SameMaxima (cycles : List Cycle) : Prop :=
  keptMax .fieldbus cycles = keptMax .automation cycles ∧
  keptMax .automation cycles = keptMax .ioApply cycles

/-- They were as often beyond each deadline that one is watched with in place
of another. -/
def SameOverruns (cycles : List Cycle) : Prop :=
  overruns 30 .fieldbus cycles = overruns 30 .ioApply cycles ∧
  overruns 100 .automation cycles = overruns 100 .fieldbus cycles ∧
  overruns 150 .ioApply cycles = overruns 150 .automation cycles

/-- The condition on a cycle. -/
def Interchangeable (run : PhaseRun) (cycle : Cycle) : Prop :=
  (run.loop.HandsOver cycle → SameMaxima (run.measured cycle)) ∧
  SameOverruns (run.ran cycle)

theorem metrics_eq_own_iff
    {loop : ControlLoop} {cycles : List Cycle}
    (recorded : ∀ i, (loop.recorded i).1 = keptMax (phaseTable i) cycles) :
    loop.metrics = ownMetrics cycles ↔ SameMaxima cycles := by
  rw [metrics_recorded, recorded 0, recorded 1, recorded 2, recorded 3,
    recorded 4, ownMetrics, KernelPhaseMetrics.mk.injEq, SameMaxima]
  simp only [phaseTable, and_true]
  constructor
  · rintro ⟨-, fieldbus, automation⟩
    exact ⟨fieldbus.symm, automation.symm⟩
  · rintro ⟨fieldbus, automation⟩
    rw [fieldbus, automation]
    exact ⟨rfl, rfl, rfl⟩

theorem counters_own_iff
    {overrunCounter : Fin phaseCount → UInt32} {cycles : List Cycle}
    (recorded :
      ∀ i,
        overrunCounter i = overruns (phaseDeadline i) (phaseTable i) cycles) :
    (∀ phase,
        let entry := phaseMonitorGet overrunCounter phase
        entry.overruns = overruns entry.deadlineUs phase cycles) ↔
      SameOverruns cycles := by
  constructor
  · intro own
    exact
      ⟨(recorded 1).symm.trans (own .ioApply),
        (recorded 2).symm.trans (own .fieldbus),
        (recorded 3).symm.trans (own .automation)⟩
  · rintro ⟨ioApply, fieldbus, automation⟩ phase
    cases phase with
    | io => exact recorded 0
    | ioApply => exact (recorded 1).trans ioApply
    | fieldbus => exact (recorded 2).trans fieldbus
    | automation => exact (recorded 3).trans automation
    | events => exact recorded 4

theorem attributed_iff
    (sound : run.Sound) (cycle : Cycle) :
    Attributed (Run.call phaseStep run cycle) ↔
    Interchangeable run cycle := by
  have after := phaseStep_sound sound cycle
  have counters := counters_own_iff fun i => congrArg Prod.snd (after i)
  have maxima :
      (∀ metrics,
          (phaseStep run cycle).2 = .executed (some metrics) →
          metrics = ownMetrics (run.measured cycle)) ↔
        (run.loop.HandsOver cycle → SameMaxima (run.measured cycle)) := by
    rw [phaseStep]
    generalize isResult : controlLoopRun run.loop cycle = result
    have cases := controlLoopRun_result run.loop cycle
    rw [isResult] at cases
    cases cases with
    | idle next outcome idle notRun kept =>
        constructor
        · exact fun _ due => absurd due.1 idle
        · exact fun _ metrics isMetrics => absurd isMetrics (notRun _)
    | kept reached runs early records =>
        constructor
        · exact fun _ due => absurd due early
        · intro _ metrics isMetrics
          cases isMetrics
    | handed reached due records =>
        have own :=
          metrics_eq_own_iff fun i =>
            congrArg Prod.fst (recorded_of_sound sound records i)
        constructor
        · exact fun handed _ => own.mp (handed _ rfl)
        · intro same metrics isMetrics
          cases isMetrics
          exact own.mpr (same due)
  constructor
  · rintro ⟨handed, counted⟩
    exact ⟨maxima.mp handed, counters.mp counted⟩
  · rintro ⟨same, often⟩
    exact ⟨maxima.mpr same, counters.mpr often⟩

/--
In every run of the control loop, the metrics handed over and the overruns
are those of the functions of the same names exactly when the fieldbus, the
automation and the application of the outputs are interchangeable in each
cycle: the same longest times when metrics are handed over, and as many
overruns of each other's deadlines.
-/
theorem phases_attributed_iff (cycles : List Cycle) :
    (∀ made ∈ Run.history phaseStep PhaseRun.init cycles, Attributed made) ↔
    ∀ made ∈ Run.history phaseStep PhaseRun.init cycles,
      Interchangeable made.before made.action :=
  Run.history_good_iff PhaseRun.Sound Attributed Interchangeable
    (fun _ cycle sound => attributed_iff sound cycle)
    (fun _ cycle sound _ => phaseStep_sound sound cycle)
    sound_init cycles

def slowAutomation : Cycle where
  waiting := 0
  start := 1
  timer := fun phase => (0, if phase = .automation then 120 else 0)
  finish := 200

/-- Its time is counted as an overrun of the fieldbus, and is none of its
own. -/
theorem automation_counted_as_fieldbus :
    ¬ ∀ cycles,
      ∀ made ∈ Run.history phaseStep PhaseRun.init cycles,
        Attributed made := by
  intro attributed
  have made :=
    attributed [slowAutomation] _
      (Run.call_mem_history phaseStep PhaseRun.init [] slowAutomation [])
  have counted := made.counters .fieldbus
  revert counted
  decide

end Endap.Kernel
