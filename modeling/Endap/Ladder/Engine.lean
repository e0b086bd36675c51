import Endap.Library.Loop
import Endap.Library.Run
import Endap.Ladder.Instructions
import Endap.State.Nvs

/-!
# The ladder engine

The loader validates a program in a first pass over its bytes and then keeps
it; the interpreter decodes the same bytes again in every scan.  The two
decoders are separate loops of the source and are kept separate here.

Each loop also records what it visits: the offsets of the opcodes that it
fetches, and for the interpreter the bytes that it reads and the defensive
exits that it takes.
-/

namespace Endap.Ladder

open Endap.Library
open Endap.Library.Loop
open Endap.State

def ladderMaxProgramSize : Nat := 2048

/-- The offset of the first opcode, after the header and the version. -/
def codeStart : Nat := 5

/-- One byte of a program. -/
def byteAt (program : List UInt8) (offset : Nat) : UInt8 :=
  program.getD offset 0

/-- The big-endian word at an offset. -/
def wordAt (program : List UInt8) (offset : Nat) : UInt16 :=
  ((byteAt program offset).toUInt16 <<< 8) |||
    (byteAt program (offset + 1)).toUInt16

/-- The values of `esp_err_t` that the engine returns. -/
inductive EspErr where
  | ok
  | noMem
  | invalidArg
deriving DecidableEq

/-! ## Validation -/

/-- The variables of the first pass, and the offsets of its opcodes. -/
structure Pass1 where
  pc : Nat
  timerTags : List UInt16
  counterTags : List UInt16
  offsets : List Nat
  result : EspErr

/-- The start of the first pass. -/
def Pass1.start : Pass1 where
  pc := codeStart
  timerTags := []
  counterTags := []
  offsets := []
  result := .ok

/-- Leave the first pass with an error. -/
def Pass1.reject (pass : Pass1) (error : EspErr) : Flow Pass1 :=
  .stop { pass with result := error }

/-- Go on after an operand. -/
def Pass1.skip (pass : Pass1) (width : Nat) : Flow Pass1 :=
  .next { pass with pc := pass.pc + width }

/-- Record a tag among the different ones; `none` when there are too many. -/
def recordTag (tags : List UInt16) (limit : Nat) (tagId : UInt16) :
    Option (List UInt16) :=
  if tagId ∈ tags then some tags
  else if tags.length ≥ limit then none
  else some (tags ++ [tagId])

/-- The byte lies between two opcodes. -/
def Between (first last : Opcode) (byte : UInt8) : Prop :=
  first.byte ≤ byte ∧ byte ≤ last.byte

instance (first last : Opcode) (byte : UInt8) :
    Decidable (Between first last byte) :=
  inferInstanceAs (Decidable (_ ∧ _))

/-- One iteration of the first pass of `ladder_engine_load_program`. -/
def pass1Body (buffer : List UInt8) (entry : Pass1) : Flow Pass1 :=
  if entry.pc < buffer.length then
    let op := byteAt buffer entry.pc
    let pass :=
      { entry with
        pc := entry.pc + 1
        offsets := entry.offsets ++ [entry.pc] }
    if op = terminator then .stop pass
    else if Between .ld .orn op ∨ Between .st .rst op then
      if pass.pc + 1 ≥ buffer.length then pass.reject .invalidArg
      else pass.skip 2
    else if Between .orBlockStart .orBlockEnd op then pass.skip 0
    else if op = Opcode.ton.byte ∨ op = Opcode.tof.byte then
      if pass.pc + 1 ≥ buffer.length then pass.reject .invalidArg
      else if pass.pc + 2 + 1 ≥ buffer.length then pass.reject .invalidArg
      else
        match recordTag pass.timerTags maxTimers (wordAt buffer pass.pc) with
        | none => pass.reject .noMem
        | some tags => { pass with timerTags := tags }.skip 4
    else if op = Opcode.ctu.byte ∨ op = Opcode.ctd.byte then
      if pass.pc + 1 ≥ buffer.length then pass.reject .invalidArg
      else if pass.pc + 2 + 1 ≥ buffer.length then pass.reject .invalidArg
      else
        match
          recordTag pass.counterTags maxCounters (wordAt buffer pass.pc)
        with
        | none => pass.reject .noMem
        | some tags => { pass with counterTags := tags }.skip 4
    else if Between .equ .les op then
      if pass.pc + 1 ≥ buffer.length then pass.reject .invalidArg
      else pass.skip 2
    else if Between .add .div op then
      if pass.pc + 6 ≥ buffer.length then pass.reject .invalidArg
      else if byteAt buffer (pass.pc + 2) ≠ 0 ∧
          byteAt buffer (pass.pc + 2) ≠ 1 then
        pass.reject .invalidArg
      else pass.skip 7
    else pass.reject .invalidArg
  else .stop entry

/-- The first pass of `ladder_engine_load_program`. -/
def pass1 (buffer : List UInt8) : Pass1 :=
  Loop.run (fun pass => buffer.length - pass.pc) (pass1Body buffer) Pass1.start

/-- The header check. -/
def ValidHeader (buffer : List UInt8) : Prop :=
  codeStart ≤ buffer.length ∧ buffer.take 4 = [0x45, 0x4E, 0x44, 0x50]

instance (buffer : List UInt8) : Decidable (ValidHeader buffer) :=
  inferInstanceAs (Decidable (_ ∧ _))

/-- What `ladder_engine_load_program` returns for a buffer. -/
def validateProgram (buffer : List UInt8) : EspErr :=
  if buffer.length > ladderMaxProgramSize then .noMem
  else if ¬ ValidHeader buffer then .invalidArg
  else (pass1 buffer).result

theorem validateProgram_ok
    {buffer : List UInt8} (accepted : validateProgram buffer = .ok) :
    codeStart ≤ buffer.length ∧
    buffer.length ≤ ladderMaxProgramSize ∧
    (pass1 buffer).result = .ok := by
  rw [validateProgram] at accepted
  split at accepted
  · cases accepted
  · rename_i small
    split at accepted
    · cases accepted
    · rename_i header
      exact ⟨(Decidable.not_not.mp header).1, Nat.le_of_not_gt small, accepted⟩

theorem ne_nil_of_validateProgram
    {buffer : List UInt8} (accepted : validateProgram buffer = .ok) :
    buffer ≠ [] := by
  rintro rfl
  cases (validateProgram_ok accepted).1

/-! ## Interpretation -/

/-- The defensive exits of the interpreter. -/
inductive ScanFault where
  | operandTruncated
  | mathTruncated
  | presetTruncated (opcode : Opcode)
  | unknownOpcode
  | timerNull
  | counterNull

/-- The variables of a scan, and what it fetched and read. -/
structure Scan where
  pc : Nat
  machine : Machine
  fetches : List Nat
  reads : List Nat
  faults : List ScanFault

/-- Take a defensive exit. -/
def Scan.fault (scan : Scan) (fault : ScanFault) : Scan :=
  { scan with faults := scan.faults ++ [fault] }

/-- Apply an instruction. -/
def Scan.act (scan : Scan) (action : Machine → Machine) : Scan :=
  { scan with machine := action scan.machine }

/-- Read the next opcode. -/
def Scan.fetch (scan : Scan) : Scan :=
  { scan with
    pc := scan.pc + 1
    fetches := scan.fetches ++ [scan.pc]
    reads := scan.reads ++ [scan.pc] }

/-- Read the next bytes as operands. -/
def Scan.readOperands (scan : Scan) (width : Nat) : Scan :=
  { scan with
    pc := scan.pc + width
    reads := scan.reads ++ List.range' scan.pc width }

/-- The arithmetic instructions. -/
def scanMath (program : List UInt8) (result : Int → Int → Int)
    (scan : Scan) : Flow Scan :=
  let tagged := scan.readOperands 2
  if tagged.pc + 4 ≥ program.length then .stop (tagged.fault .mathTruncated)
  else
    .next
      ((tagged.readOperands 5).act
        (mathInstruction result (wordAt program scan.pc)
          (byteAt program tagged.pc) (wordAt program (tagged.pc + 1))
          (wordAt program (tagged.pc + 3))))

/--
An instruction with a preset.  A truncated preset leaves the `switch` only,
so the loop goes on.
-/
def scanPreset (program : List UInt8) (opcode : Opcode) (null : ScanFault)
    (action : UInt16 → Machine → Option Machine) (scan : Scan) : Scan :=
  if scan.pc + 1 ≥ program.length then scan.fault (.presetTruncated opcode)
  else
    let ready := scan.readOperands 2
    match action (wordAt program scan.pc) scan.machine with
    | none => ready.fault null
    | some machine => { ready with machine := machine }

/-- The `switch` of `ladder_engine_run`. -/
def scanSwitch (program : List UInt8) (nowMs : Int)
    (decoded : Option Opcode) (tagId : UInt16) (scan : Scan) : Scan :=
  match decoded with
  | some .ton =>
      scanPreset program .ton .timerNull
        (timerInstruction onDelayStep nowMs tagId) scan
  | some .tof =>
      scanPreset program .tof .timerNull
        (timerInstruction offDelayStep nowMs tagId) scan
  | some .ctu =>
      scanPreset program .ctu .counterNull
        (counterInstruction countUpStep tagId) scan
  | some .ctd =>
      scanPreset program .ctd .counterNull
        (counterInstruction countDownStep tagId) scan
  | other =>
      match other.bind Opcode.tagAction with
      | some action => scan.act (action tagId)
      | none => scan.fault .unknownOpcode

/-- One iteration of `ladder_engine_run`. -/
def scanBody (program : List UInt8) (nowMs : Int) (scan : Scan) : Flow Scan :=
  if scan.pc < program.length then
    let opcode := byteAt program scan.pc
    let fetched := scan.fetch
    if opcode = terminator then .stop fetched
    else
      match (Opcode.ofByte opcode).bind Opcode.blockAction with
      | some action => .next (fetched.act action)
      | none =>
          if fetched.pc + 1 ≥ program.length then
            .stop (fetched.fault .operandTruncated)
          else
            match (Opcode.ofByte opcode).bind Opcode.mathResult with
            | some result => scanMath program result fetched
            | none =>
                .next
                  (scanSwitch program nowMs (Opcode.ofByte opcode)
                    (wordAt program fetched.pc) (fetched.readOperands 2))
  else .stop scan

/-- A scan of a program. -/
def scanProgram (program : List UInt8) (nowMs : Int) (scan : Scan) : Scan :=
  Loop.run (fun state => program.length - state.pc)
    (scanBody program nowMs) scan

/-! ## The engine -/

/--
The static state of `ladder_engine.c`.  `bytecode` is the first
`s_bytecode_length` bytes of the program buffer.
-/
structure LadderEngine where
  bytecode : List UInt8
  hasProgram : Bool
  timers : TimerTable
  counters : CounterTable
  loaded : hasProgram = true ↔ bytecode ≠ []
  fits : bytecode.length ≤ ladderMaxProgramSize

/-- The engine without a program. -/
def LadderEngine.cleared : LadderEngine where
  bytecode := []
  hasProgram := false
  timers := KeyedTable.empty
  counters := KeyedTable.empty
  loaded := by simp
  fits := Nat.zero_le _

/-- The engine with a program and empty tables. -/
def LadderEngine.holding (program : List UInt8)
    (nonempty : program ≠ [])
    (fits : program.length ≤ ladderMaxProgramSize) : LadderEngine where
  bytecode := program
  hasProgram := true
  timers := KeyedTable.empty
  counters := KeyedTable.empty
  loaded := by simp [nonempty]
  fits := fits

/-- The blob under `endap_ladder` / `bytecode`. -/
abbrev LadderBlob := Option (List UInt8)

/-- `ladder_engine_init`; `readable` is false when a call of NVS fails. -/
def ladderEngineInit (blob : LadderBlob) (readable : Bool) : LadderEngine :=
  match blob with
  | none => LadderEngine.cleared
  | some program =>
      if sound :
          readable = true ∧ program ≠ [] ∧
          program.length ≤ ladderMaxProgramSize then
        LadderEngine.holding program sound.2.1 sound.2.2
      else LadderEngine.cleared

/-- `ladder_engine_clear`; the engine afterwards is always the cleared one. -/
def ladderEngineClear (blob : LadderBlob) (outcome : NvsOutcome) :
    LadderEngine × LadderBlob :=
  (LadderEngine.cleared, nvsWrite outcome blob none)

/--
`ladder_engine_load_program`: the result, the engine and the stored blob.
The two outcomes are those of erasing the old blob and storing the new one.
-/
def ladderEngineLoadProgram
    (engine : LadderEngine) (blob : LadderBlob) (buffer : List UInt8)
    (erased stored : NvsOutcome) : EspErr × LadderEngine × LadderBlob :=
  if accepted : validateProgram buffer = .ok then
    (.ok,
      LadderEngine.holding buffer (ne_nil_of_validateProgram accepted)
        (validateProgram_ok accepted).2.1,
      nvsWrite stored (ladderEngineClear blob erased).2 (some buffer))
  else (validateProgram buffer, engine, blob)

section

variable (engine : LadderEngine) (blob : LadderBlob) {buffer : List UInt8}
variable (erased stored : NvsOutcome)

theorem ladderEngineLoadProgram_accepted
    (accepted : validateProgram buffer = .ok) :
    ladderEngineLoadProgram engine blob buffer erased stored =
      (.ok,
        LadderEngine.holding buffer (ne_nil_of_validateProgram accepted)
          (validateProgram_ok accepted).2.1,
        nvsWrite stored (ladderEngineClear blob erased).2 (some buffer)) :=
  dif_pos accepted

theorem ladderEngineLoadProgram_refused
    (refused : validateProgram buffer ≠ .ok) :
    ladderEngineLoadProgram engine blob buffer erased stored =
      (validateProgram buffer, engine, blob) :=
  dif_neg refused

theorem ladderEngineLoadProgram_result :
    (ladderEngineLoadProgram engine blob buffer erased stored).1 =
      validateProgram buffer := by
  by_cases accepted : validateProgram buffer = .ok
  · rw [ladderEngineLoadProgram_accepted engine blob erased stored accepted]
    exact accepted.symm
  · rw [ladderEngineLoadProgram_refused engine blob erased stored accepted]

end

/-- The result of `ladder_engine_run`. -/
structure LadderRun where
  engine : LadderEngine
  store : StateStore
  fetches : List Nat
  reads : List Nat
  faults : List ScanFault

/-- The variables of a scan at its start. -/
def startScan (engine : LadderEngine) (store : StateStore) : Scan where
  pc := codeStart
  machine :=
    { accumulator := false
      stack := []
      store := store
      timers := engine.timers
      counters := engine.counters }
  fetches := []
  reads := []
  faults := []

/-- `ladder_engine_run`; `clockUs` is the value of `esp_timer_get_time`. -/
def ladderEngineRun
    (engine : LadderEngine) (store : StateStore) (clockUs : Int) :
    LadderRun :=
  if engine.hasProgram = false ∨ engine.bytecode.length < codeStart then
    { engine := engine, store := store, fetches := [], reads := []
      faults := [] }
  else
    let scan :=
      scanProgram engine.bytecode (clockUs.tdiv 1000) (startScan engine store)
    { engine :=
        { engine with
          timers := scan.machine.timers
          counters := scan.machine.counters }
      store := scan.machine.store
      fetches := scan.fetches
      reads := scan.reads
      faults := scan.faults }

end Endap.Ladder
