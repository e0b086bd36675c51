import Endap.Failsafe.Policy
import Endap.Ladder.Writes

/-!
# Queued commands, ladder scans and the fail-safe latch

Manual commands wait in a ring until the scheduler takes one of them in each
cycle and writes it to the state table; a ladder scan writes the state table
on its own.  Neither asks the fail-safe guard.  A command that was accepted
before a fault is applied after it, and a ladder program drives an output
whether it is latched or not.

The main theorem says when a latched output stays in place all the same: when
neither a command taken from the ring nor a write that the program executes is
for it with another value.
-/

namespace Endap.Scheduler

open Endap.Failsafe
open Endap.Ladder
open Endap.Library
open Endap.State

/-! ## The ring of commands -/

def ioCmdQueueSize : Nat := 32

structure IoCmd where
  id : UInt16
  value : Int32
deriving DecidableEq

/-- The static state of `io_command.c`. -/
structure IoCommandQueue where
  queue : Nat → IoCmd
  head : Nat
  tail : Nat
  headFits : head < ioCmdQueueSize
  tailFits : tail < ioCmdQueueSize

/-- The ring after `io_command_init`, with the slots at their static value. -/
def ioCommandInit : IoCommandQueue where
  queue := fun _ => { id := 0, value := 0 }
  head := 0
  tail := 0
  headFits := Nat.zero_lt_succ _
  tailFits := Nat.zero_lt_succ _

/-- `io_command_push`; a full ring refuses the command. -/
def ioCommandPush (commands : IoCommandQueue) (id : UInt16) (value : Int32) :
    Bool × IoCommandQueue :=
  let next := (commands.head + 1) % ioCmdQueueSize
  if next ≠ commands.tail then
    (true,
      { commands with
        queue :=
          Function.update commands.queue commands.head
            { id := id, value := value }
        head := next
        headFits := Nat.mod_lt _ (Nat.zero_lt_succ _) })
  else (false, commands)

def ioCommandPop (commands : IoCommandQueue) :
    Option (IoCmd × IoCommandQueue) :=
  if commands.tail ≠ commands.head then
    some
      (commands.queue commands.tail,
        { commands with
          tail := (commands.tail + 1) % ioCmdQueueSize
          tailFits := Nat.mod_lt _ (Nat.zero_lt_succ _) })
  else none

/-! ## The scheduler -/

def ioCmdBudget : Nat := 1

/-- The command loop of `scheduler_run_io`. -/
def dispatchCommands :
    Nat → IoCommandQueue × StateStore → IoCommandQueue × StateStore
  | 0, world => world
  | budget + 1, world =>
      match ioCommandPop world.1 with
      | none => world
      | some (command, rest) =>
          dispatchCommands budget
            (rest, stateSetInt world.2 command.id command.value)

/-- What the command loop and the ladder scans work on. -/
structure Controller where
  commands : IoCommandQueue
  ladder : LadderEngine
  failsafe : FailsafeTable
  store : StateStore

/--
The calls of a control cycle.  The input scans of `scheduler_run_io` and the
other components appear as writes of the state table.
-/
inductive CycleCall where
  | pushCommand (id : UInt16) (value : Int32)
  | runIo
  | ladderRun (clockUs : Int)
  | applyForReasonAll (reason : FailsafeReason)
  | clearManualReset (outputId : UInt16)
  | stateWrite (id : UInt16) (value : Int32)

/-- The effect of one call. -/
def Controller.call (controller : Controller) :
    CycleCall → Controller × Unit
  | .pushCommand id value =>
      ({ controller with
          commands := (ioCommandPush controller.commands id value).2 }, ())
  | .runIo =>
      let dispatched :=
        dispatchCommands ioCmdBudget (controller.commands, controller.store)
      ({ controller with
          commands := dispatched.1, store := dispatched.2 }, ())
  | .ladderRun clockUs =>
      let scanned := ladderEngineRun controller.ladder controller.store clockUs
      ({ controller with
          ladder := scanned.engine, store := scanned.store }, ())
  | .applyForReasonAll reason =>
      let applied :=
        failsafeApplyForReasonAll controller.failsafe controller.store reason
      ({ controller with failsafe := applied.1, store := applied.2 }, ())
  | .clearManualReset outputId =>
      ({ controller with
          failsafe :=
            (failsafeClearManualReset controller.failsafe outputId).2 }, ())
  | .stateWrite id value =>
      ({ controller with store := stateSetInt controller.store id value }, ())

def CycleCall.drives : CycleCall → Bool
  | .runIo => true
  | .ladderRun _ => true
  | _ => false

/-- The next command of the ring leaves the value of an output as it is. -/
def Controller.NextCommandSpares
    (controller : Controller) (output : UInt16) : Prop :=
  ∀ popped ∈ ioCommandPop controller.commands,
    StateWrite.Spares controller.store output
      { id := popped.1.id, value := popped.1.value }

instance (controller : Controller) (output : UInt16) :
    Decidable (controller.NextCommandSpares output) :=
  inferInstanceAs (Decidable (∀ popped ∈ ioCommandPop controller.commands, _))

/-- The command of a dispatch and the executed writes of a scan are for other
outputs, or of the value that the output has. -/
def Controller.Spares (controller : Controller) (output : UInt16) :
    CycleCall → Prop
  | .runIo => controller.NextCommandSpares output
  | .ladderRun clockUs =>
      ScanSpares controller.ladder controller.store clockUs output
  | _ => True

instance (controller : Controller) (output : UInt16) :
    DecidablePred (controller.Spares output)
  | .runIo => inferInstanceAs (Decidable (Controller.NextCommandSpares _ _))
  | .ladderRun _ => inferInstanceAs (Decidable (ScanSpares _ _ _ _))
  | .pushCommand _ _ => isTrue trivial
  | .applyForReasonAll _ => isTrue trivial
  | .clearManualReset _ => isTrue trivial
  | .stateWrite _ _ => isTrue trivial

/-- A dispatch or a scan has the value of an output in place at each of its
writes and at its end. -/
def Controller.Keeps (controller : Controller) (output : UInt16) :
    CycleCall → Prop
  | .runIo =>
      (controller.call .runIo).1.store.intValues output =
        controller.store.intValues output
  | .ladderRun clockUs =>
      ScanKeeps controller.ladder controller.store clockUs output
  | _ => True

theorem dispatchCommands_keeps_iff
    (controller : Controller) (output : UInt16) :
    (controller.call .runIo).1.store.intValues output =
        controller.store.intValues output ↔
    controller.NextCommandSpares output := by
  simp only [Controller.call, ioCmdBudget, dispatchCommands,
    Controller.NextCommandSpares]
  cases ioCommandPop controller.commands with
  | none => simp
  | some popped =>
      have single :=
        StateWrite.spares_iff controller.store output
          { id := popped.1.id, value := popped.1.value }
      simpa using single.symm

/-! ## Runs -/

theorem Controller.call_follows
    {program : List UInt8} (accepted : validateProgram program = .ok)
    {controller : Controller} (follows : Follows program controller.ladder)
    (call : CycleCall) :
    Follows program (controller.call call).1.ladder := by
  cases call with
  | ladderRun clockUs =>
      exact (ladderScan_follows accepted follows ⟨controller.store, clockUs⟩).1
  | _ => exact follows

/-- While the engine has the program, a call keeps an output if and only if
its writes spare it. -/
theorem Controller.keeps_iff
    {program : List UInt8} (accepted : validateProgram program = .ok)
    {controller : Controller} (follows : Follows program controller.ladder)
    (output : UInt16) (call : CycleCall) :
    controller.Keeps output call ↔ controller.Spares output call := by
  cases call with
  | runIo => exact dispatchCommands_keeps_iff controller output
  | ladderRun clockUs =>
      exact scanKeeps_iff accepted follows controller.store clockUs output
  | _ => exact Iff.rfl

/--
A latched output keeps its value in every command dispatch and every ladder
scan of a run if and only if no command that is taken while it is latched, and
no write that the accepted program executes while it is latched, is for it
with another value.
-/
theorem latched_output_kept_iff
    (engine : LadderEngine) (blob : LadderBlob) (buffer : List UInt8)
    (erased stored : NvsOutcome)
    (accepted :
      (ladderEngineLoadProgram engine blob buffer erased stored).1 = .ok)
    (commands : IoCommandQueue) (failsafe : FailsafeTable)
    (store : StateStore) (output : UInt16) (calls : List CycleCall) :
    let history :=
      Run.history Controller.call
        { commands := commands
          ladder :=
            (ladderEngineLoadProgram engine blob buffer erased stored).2.1
          failsafe := failsafe
          store := store }
        calls
    (∀ transition ∈ history,
        Latched transition.before.failsafe output →
        transition.before.Keeps output transition.action) ↔
      ∀ transition ∈ history,
        Latched transition.before.failsafe output →
        transition.before.Spares output transition.action := by
  rcases ladderEngineLoadProgram_follows engine blob erased stored
    accepted with ⟨valid, start⟩
  intro history
  apply forall₂_congr
  intro transition member
  have follows :=
    (Run.history_invariant
      (fun controller : Controller => Follows buffer controller.ladder) start
      (fun controller call follows =>
        Controller.call_follows valid follows call) member).1
  exact imp_congr_right fun _ => Controller.keeps_iff valid follows output _

/-! ## A latched output that moves -/

def controllerWith (program : List UInt8) (outputId : UInt16) : Controller where
  commands := ioCommandInit
  ladder :=
    (ladderEngineLoadProgram LadderEngine.cleared none program .committed
      .committed).2.1
  failsafe := FailsafeTable.switchOff outputId 0
  store := stateInit

/-- `LDN 10`, `SET 100`, `LD 10`, `ST 101`. -/
def inhibitedOutput : List UInt8 :=
  [0x45, 0x4E, 0x44, 0x50, 0x01, 0x02, 0x00, 0x0A, 0x11, 0x00, 0x64, 0x01,
    0x00, 0x0A, 0x10, 0x00, 0x65, 0xFF]

/-- The input that inhibits output 100 is on, and a command to switch the
output off and one for another output wait. -/
def inhibitedCalls : List CycleCall :=
  [.stateWrite 10 1, .pushCommand 100 0, .pushCommand 102 1,
    .applyForReasonAll .commLoss, .runIo, .ladderRun 0, .runIo,
    .ladderRun 20000]

/-- A program that names the latched output and a command for it leave it in
place, while other outputs move. -/
theorem latched_output_kept_inhibited :
    validateProgram inhibitedOutput = .ok ∧
    (let last :=
      Run.final Controller.call (controllerWith inhibitedOutput 100)
        inhibitedCalls
    Latched last.failsafe 100 ∧ last.store.intValues 101 = 1 ∧
    last.store.intValues 102 = 1) ∧
    ∀ transition ∈
        Run.history Controller.call (controllerWith inhibitedOutput 100)
          inhibitedCalls,
      Latched transition.before.failsafe 100 →
      transition.before.Keeps 100 transition.action := by
  refine ⟨by decide +kernel, by decide +kernel, ?_⟩
  have kept :=
    latched_output_kept_iff LadderEngine.cleared none inhibitedOutput
      .committed .committed (by decide +kernel) ioCommandInit
      (FailsafeTable.switchOff 100 0) stateInit 100 inhibitedCalls
  exact kept.mpr (by decide +kernel)

/-- `LDN 10`, `ST 100`. -/
def invertedInput : List UInt8 :=
  [0x45, 0x4E, 0x44, 0x50, 0x01, 0x02, 0x00, 0x0A, 0x10, 0x00, 0x64, 0xFF]

/--
A command for output 100 that was queued before the fault is applied after
it, and a program that writes output 100 goes on writing it.
-/
theorem latched_output_moved :
    (¬ ∀ transition ∈
          Run.history Controller.call (controllerWith delayedOutput 100)
            [.pushCommand 100 1, .applyForReasonAll .commLoss, .runIo],
        Latched transition.before.failsafe 100 →
        transition.action.drives = true →
        transition.after.store.intValues 100 =
          transition.before.store.intValues 100) ∧
    validateProgram invertedInput = .ok ∧
    ¬ ∀ transition ∈
        Run.history Controller.call (controllerWith invertedInput 100)
          [.applyForReasonAll .commLoss, .ladderRun 0],
      Latched transition.before.failsafe 100 →
      transition.action.drives = true →
      transition.after.store.intValues 100 =
        transition.before.store.intValues 100 := by
  refine ⟨?_, ?_, ?_⟩
  · decide +kernel
  · decide +kernel
  · decide +kernel

end Endap.Scheduler
