import Endap.Ladder.Signals

/-!
# What a scan writes

An instruction writes at most one value of the state table.  Which one, and
with what value, depends on the machine with which the scan comes to it: on
the accumulator, and for a timer or a counter on its record.

A scan leaves a value in place, from its first instruction to its last, if
and only if none of the writes that it executes is of another value.
-/

namespace Endap.Ladder

open Endap.Library
open Endap.State

/-! ## Writes of the state table -/

/-- A call of `state_set_int`. -/
structure StateWrite where
  id : UInt16
  value : Int32

/-- The table after a write that may not be executed. -/
def written (store : StateStore) : Option StateWrite → StateStore
  | none => store
  | some write => stateSetInt store write.id write.value

/-- The write is for another identifier, for none of the table, or of the
value that is there. -/
def StateWrite.Spares
    (store : StateStore) (id : UInt16) (write : StateWrite) : Prop :=
  write.id = id → StateValidId id → write.value = store.intValues id

instance (store : StateStore) (id : UInt16) (write : StateWrite) :
    Decidable (write.Spares store id) :=
  inferInstanceAs (Decidable (_ → _ → _))

theorem StateWrite.spares_iff
    (store : StateStore) (id : UInt16) (write : StateWrite) :
    write.Spares store id ↔
    (stateSetInt store write.id write.value).intValues id =
      store.intValues id := by
  by_cases same : write.id = id
  · subst same
    by_cases valid : StateValidId write.id
    · rw [stateSetInt_same _ valid]
      exact ⟨fun spares => spares rfl valid, fun kept _ _ => kept⟩
    · have ignored :
          stateSetInt store write.id write.value = store := by
        rw [stateSetInt, if_neg valid]
      rw [ignored]
      exact ⟨fun _ => rfl, fun _ _ inside => absurd inside valid⟩
  · rw [stateSetInt_other _ _ (Ne.symm same)]
    exact ⟨fun _ => rfl, fun _ isId => absurd isId same⟩

theorem written_spares_iff
    (store : StateStore) (id : UInt16) (write? : Option StateWrite) :
    (∀ write ∈ write?, write.Spares store id) ↔
    (written store write?).intValues id = store.intValues id := by
  cases write? with
  | none => simp [written]
  | some write =>
      rw [written, ← write.spares_iff]
      simp

/-! ## Instructions -/

/-- The value that a signal has in the state table. -/
def signalValue (signal : Bool) : Int32 :=
  if signal then 1 else 0

/-- The write of `TON` and `TOF`; without room for the timer there is none. -/
def timerWrite
    (step : Bool → UInt16 → Int → TimerState → Bool × TimerState)
    (nowMs : Int) (tagId preset : UInt16) (machine : Machine) :
    Option StateWrite :=
  (getOrCreateTimer machine.timers tagId).map fun created =>
    { id := tagId
      value := signalValue (step machine.accumulator preset nowMs created.1).1 }

/-- The write of `CTU` and `CTD`. -/
def counterWrite
    (step : Bool → UInt16 → CounterState → Bool × CounterState)
    (tagId preset : UInt16) (machine : Machine) : Option StateWrite :=
  (getOrCreateCounter machine.counters tagId).map fun created =>
    { id := tagId
      value := signalValue (step machine.accumulator preset created.1).1 }

/-- The write that an instruction executes on a machine. -/
def Instruction.write? (nowMs : Int) (machine : Machine) :
    Instruction → Option StateWrite
  | .onTag .st tagId =>
      some { id := tagId, value := signalValue machine.accumulator }
  | .onTag .set tagId =>
      if machine.accumulator then some { id := tagId, value := 1 } else none
  | .onTag .rst tagId =>
      if machine.accumulator then some { id := tagId, value := 0 } else none
  | .ton tagId presetMs =>
      timerWrite onDelayStep nowMs tagId presetMs machine
  | .tof tagId presetMs =>
      timerWrite offDelayStep nowMs tagId presetMs machine
  | .ctu tagId presetCnt => counterWrite countUpStep tagId presetCnt machine
  | .ctd tagId presetCnt =>
      counterWrite countDownStep tagId presetCnt machine
  | .math opcode tagAId flagsB operandBRaw destTagId =>
      if machine.accumulator then
        opcode.mathResult.map fun result =>
          { id := destTagId
            value :=
              saturate
                (result (stateValue machine.store tagAId).toInt
                  (mathOperand machine.store flagsB operandBRaw).toInt) }
      else none
  | _ => none

theorem timerInstruction_written
    (step : Bool → UInt16 → Int → TimerState → Bool × TimerState)
    (nowMs : Int) (tagId preset : UInt16) (machine : Machine) :
    ((timerInstruction step nowMs tagId preset machine).getD machine).store =
      written machine.store
        (timerWrite step nowMs tagId preset machine) := by
  rw [timerInstruction, timerWrite]
  cases getOrCreateTimer machine.timers tagId with
  | _ => rfl

theorem counterInstruction_written
    (step : Bool → UInt16 → CounterState → Bool × CounterState)
    (tagId preset : UInt16) (machine : Machine) :
    ((counterInstruction step tagId preset machine).getD machine).store =
      written machine.store (counterWrite step tagId preset machine) := by
  rw [counterInstruction, counterWrite]
  cases getOrCreateCounter machine.counters tagId with
  | _ => rfl

theorem orBlock_written (machine : Machine) :
    machine.orBlockStart.store = machine.store ∧
    machine.orBlockNext.store = machine.store ∧
    machine.orBlockEnd.store = machine.store := by
  refine ⟨?_, ?_, ?_⟩
  · rw [Machine.orBlockStart]
    split
    · rfl
    · rfl
  · rw [Machine.orBlockNext]
    split
    · rfl
    · rfl
  · rw [Machine.orBlockEnd]
    split
    · rfl
    · rfl

theorem tagAction_written
    (opcode : Opcode) (tagId : UInt16) (nowMs : Int) (machine : Machine) :
    ((Instruction.onTag opcode tagId).run nowMs machine).store =
      written machine.store
        ((Instruction.onTag opcode tagId).write? nowMs machine) := by
  cases opcode with
  | set =>
      simp only [Instruction.run, Opcode.tagAction, Instruction.write?,
        setInstruction]
      split
      · rfl
      · rfl
  | rst =>
      simp only [Instruction.run, Opcode.tagAction, Instruction.write?,
        resetInstruction]
      split
      · rfl
      · rfl
  | _ => rfl

theorem mathInstruction_written
    (opcode : Opcode) (tagAId : UInt16) (flagsB : UInt8)
    (operandBRaw destTagId : UInt16) (nowMs : Int) (machine : Machine) :
    ((Instruction.math opcode tagAId flagsB operandBRaw destTagId).run nowMs
        machine).store =
      written machine.store
        ((Instruction.math opcode tagAId flagsB operandBRaw destTagId).write?
          nowMs machine) := by
  cases isMath : opcode.mathResult with
  | none => simp [Instruction.run, Instruction.write?, isMath, written]
  | some result =>
      simp only [Instruction.run, Instruction.write?, isMath,
        mathInstruction, Option.map_some]
      split
      · rfl
      · rfl

theorem Instruction.run_written
    (instruction : Instruction) (nowMs : Int) (machine : Machine) :
    (instruction.run nowMs machine).store =
      written machine.store (instruction.write? nowMs machine) := by
  cases instruction with
  | orBlockStart => exact (orBlock_written machine).1
  | orBlockNext => exact (orBlock_written machine).2.1
  | orBlockEnd => exact (orBlock_written machine).2.2
  | onTag opcode tagId => exact tagAction_written opcode tagId nowMs machine
  | ton | tof => exact timerInstruction_written _ _ _ _ machine
  | ctu | ctd => exact counterInstruction_written _ _ _ machine
  | math => exact mathInstruction_written _ _ _ _ _ nowMs machine

/-! ## Scans -/

/-- None of the writes that code executes is of another value than the one
that it finds. -/
def CodeSpares (id : UInt16) (nowMs : Int) :
    Machine → List Instruction → Prop
  | _, [] => True
  | machine, instruction :: rest =>
      (∀ write ∈ instruction.write? nowMs machine,
          write.Spares machine.store id) ∧
        CodeSpares id nowMs (instruction.run nowMs machine) rest

instance decidableCodeSpares (id : UInt16) (nowMs : Int) :
    ∀ (machine : Machine) (code : List Instruction),
      Decidable (CodeSpares id nowMs machine code)
  | _, [] => inferInstanceAs (Decidable True)
  | machine, instruction :: rest =>
      have := decidableCodeSpares id nowMs (instruction.run nowMs machine) rest
      inferInstanceAs (Decidable (_ ∧ _))

theorem codeSpares_iff
    (id : UInt16) (nowMs : Int) (machine : Machine)
    (code : List Instruction) :
    CodeSpares id nowMs machine code ↔
    ∀ executed rest, code = executed ++ rest →
    (runInstructions nowMs machine executed).store.intValues id =
      machine.store.intValues id := by
  induction code generalizing machine with
  | nil =>
      refine ⟨fun _ executed rest isCode => ?_, fun _ => trivial⟩
      rw [(List.append_eq_nil_iff.mp isCode.symm).1]
      rfl
  | cons instruction later induction =>
      rw [CodeSpares, written_spares_iff, ← Instruction.run_written, induction]
      constructor
      · rintro ⟨first, others⟩ executed rest isCode
        cases executed with
        | nil => rfl
        | cons head executed =>
            cases isCode
            exact (others executed rest rfl).trans first
      · intro kept
        have first := kept [instruction] later rfl
        refine ⟨first, fun executed rest isCode => ?_⟩
        have behind := kept (instruction :: executed) rest (congrArg _ isCode)
        exact behind.trans first.symm

/-- None of the writes that a scan executes is of another value than the one
that it finds. -/
def ScanSpares
    (engine : LadderEngine) (store : StateStore) (clockUs : Int)
    (id : UInt16) : Prop :=
  CodeSpares id (clockUs.tdiv 1000) (startScan engine store).machine
    (instructions engine.bytecode)

instance (engine : LadderEngine) (store : StateStore) (clockUs : Int)
    (id : UInt16) : Decidable (ScanSpares engine store clockUs id) :=
  inferInstanceAs (Decidable (CodeSpares _ _ _ _))

/-- A scan comes to each of its instructions, and to its end, with the value
that it began with. -/
structure ScanKeeps
    (engine : LadderEngine) (store : StateStore) (clockUs : Int)
    (id : UInt16) : Prop where
  meanwhile :
    ∀ executed rest, instructions engine.bytecode = executed ++ rest →
    (scanTo engine.bytecode (clockUs.tdiv 1000) (offsetBehind executed)
        (startScan engine store)).machine.store.intValues id =
      store.intValues id
  afterwards :
    (ladderEngineRun engine store clockUs).store.intValues id =
      store.intValues id

/-- A scan of an accepted program leaves a value in place if and only if the
writes that it executes do. -/
theorem scanKeeps_iff
    {program : List UInt8} (accepted : validateProgram program = .ok)
    {engine : LadderEngine} (follows : Follows program engine)
    (store : StateStore) (clockUs : Int) (id : UInt16) :
    ScanKeeps engine store clockUs id ↔
    ScanSpares engine store clockUs id := by
  rcases instructions_located accepted with ⟨last, located, ends, _⟩
  have isProgram := follows.holds
  rw [ScanSpares, codeSpares_iff, isProgram]
  have reached
      {executed rest : List Instruction}
      (isCode : instructions program = executed ++ rest) :
      (scanTo program (clockUs.tdiv 1000) (offsetBehind executed)
          (startScan engine store)).machine =
        runInstructions (clockUs.tdiv 1000) (startScan engine store).machine
          executed := by
    rw [isCode] at located
    exact (located.split.1.scanTo rfl (clockUs.tdiv 1000)).2
  have scanned :
      (ladderEngineRun engine store clockUs).store =
        (runInstructions (clockUs.tdiv 1000)
          (startScan engine store).machine (instructions program)).store := by
    have ran :=
      @Located.scanProgram_machine program last (instructions program)
        (startScan engine store) located ends (clockUs.tdiv 1000)
    rw [ladderEngineRun, if_neg (follows.runs accepted), ← ran, ← isProgram]
  constructor
  · rintro ⟨meanwhile, _⟩ executed rest isCode
    rw [isProgram] at meanwhile
    rw [← reached isCode]
    exact meanwhile executed rest isCode
  · intro kept
    constructor
    · intro executed rest isCode
      rw [isProgram] at isCode ⊢
      rw [reached isCode]
      exact kept executed rest isCode
    · rw [scanned]
      exact kept (instructions program) [] (List.append_nil _).symm

end Endap.Ladder
