import Endap.Ladder.Lockstep
import Mathlib.Algebra.Order.Ring.Int

/-!
# Programs as instructions

The bytes of an accepted program are a sequence of instructions, with an end
or a terminator behind the last one.  A scan does what the instructions do,
one after the other, so what a program means can be told from its
instructions alone.
-/

namespace Endap.Ladder

open Endap.Library
open Endap.Library.Loop

/-! ## Instructions -/

/-- An instruction with its operands. -/
inductive Instruction where
  | orBlockStart
  | orBlockNext
  | orBlockEnd
  | onTag (opcode : Opcode) (tagId : UInt16)
  | ton (tagId presetMs : UInt16)
  | tof (tagId presetMs : UInt16)
  | ctu (tagId presetCnt : UInt16)
  | ctd (tagId presetCnt : UInt16)
  | math (opcode : Opcode) (tagAId : UInt16) (flagsB : UInt8)
      (operandBRaw destTagId : UInt16)
deriving DecidableEq

/-- The bytes of an instruction, with its opcode. -/
def Instruction.width : Instruction → Nat
  | .orBlockStart | .orBlockNext | .orBlockEnd => 1
  | .onTag _ _ => 3
  | .ton _ _ | .tof _ _ | .ctu _ _ | .ctd _ _ => 5
  | .math _ _ _ _ _ => 8

/-- The timer of an instruction. -/
def Instruction.timerTag? : Instruction → Option UInt16
  | .ton tagId _ | .tof tagId _ => some tagId
  | _ => none

/-- The counter of an instruction. -/
def Instruction.counterTag? : Instruction → Option UInt16
  | .ctu tagId _ | .ctd tagId _ => some tagId
  | _ => none

theorem Instruction.width_pos (instruction : Instruction) :
    0 < instruction.width := by
  cases instruction <;> exact Nat.succ_pos _

/-- What an instruction does; without room for its tag it does nothing. -/
def Instruction.run (nowMs : Int) (machine : Machine) :
    Instruction → Machine
  | .orBlockStart => machine.orBlockStart
  | .orBlockNext => machine.orBlockNext
  | .orBlockEnd => machine.orBlockEnd
  | .onTag opcode tagId =>
      match opcode.tagAction with
      | some action => action tagId machine
      | none => machine
  | .ton tagId presetMs =>
      (timerInstruction onDelayStep nowMs tagId presetMs machine).getD machine
  | .tof tagId presetMs =>
      (timerInstruction offDelayStep nowMs tagId presetMs machine).getD machine
  | .ctu tagId presetCnt =>
      (counterInstruction countUpStep tagId presetCnt machine).getD machine
  | .ctd tagId presetCnt =>
      (counterInstruction countDownStep tagId presetCnt machine).getD machine
  | .math opcode tagAId flagsB operandBRaw destTagId =>
      match opcode.mathResult with
      | some result =>
          mathInstruction result tagAId flagsB operandBRaw destTagId machine
      | none => machine

/-- Instructions, one after the other. -/
def runInstructions (nowMs : Int) (machine : Machine)
    (code : List Instruction) : Machine :=
  code.foldl (Instruction.run nowMs) machine

theorem runInstructions_append (nowMs : Int) (machine : Machine)
    (first second : List Instruction) :
    runInstructions nowMs machine (first ++ second) =
      runInstructions nowMs (runInstructions nowMs machine first) second :=
  List.foldl_append

/-! ## Decoding -/

/-- The instruction at an offset. -/
def decodeAt (program : List UInt8) (offset : Nat) : Option Instruction :=
  let tagId := wordAt program (offset + 1)
  let preset := wordAt program (offset + 3)
  match Opcode.ofByte (byteAt program offset) with
  | none => none
  | some .orBlockStart => some .orBlockStart
  | some .orBlockNext => some .orBlockNext
  | some .orBlockEnd => some .orBlockEnd
  | some .ton => some (.ton tagId preset)
  | some .tof => some (.tof tagId preset)
  | some .ctu => some (.ctu tagId preset)
  | some .ctd => some (.ctd tagId preset)
  | some opcode =>
      match opcode.mathResult with
      | some _ =>
          some
            (.math opcode tagId (byteAt program (offset + 3))
              (wordAt program (offset + 4)) (wordAt program (offset + 6)))
      | none => some (.onTag opcode tagId)

/-- The instructions of a program, at the offsets that the first pass
visits. -/
def instructions (program : List UInt8) : List Instruction :=
  (pass1 program).offsets.filterMap (decodeAt program)

theorem decodeAt_terminator
    {program : List UInt8} {offset : Nat}
    (isEnd : byteAt program offset = terminator) :
    decodeAt program offset = none := by
  have noOpcode : Opcode.ofByte terminator = none := by decide
  simp only [decodeAt, isEnd, noOpcode]

/-- The bytes of an opcode of some kind. -/
def OperandKind.width : OperandKind → Nat
  | .block => 1
  | .tag => 3
  | .timer | .counter => 5
  | .math => 8

theorem decodeAt_of_kind
    {program : List UInt8} {offset : Nat} {kind : OperandKind}
    (isKind : byteKind (byteAt program offset) = some kind) :
    ∃ instruction,
      decodeAt program offset = some instruction ∧
      instruction.width = kind.width ∧
      instruction.timerTag? =
          (if kind = .timer then some (wordAt program (offset + 1))
            else none) ∧
        instruction.counterTag? =
          if kind = .counter then some (wordAt program (offset + 1))
          else none := by
  rcases opcode_of_byteKind isKind with ⟨opcode, decoded, kind⟩
  simp only [decodeAt, decoded]
  cases opcode <;> cases kind <;> exact ⟨_, rfl, rfl, rfl, rfl⟩

/-! ## One instruction -/

theorem scanPreset_effect
    {program : List UInt8} {scan : Scan}
    (room : scan.pc + 1 < program.length)
    (opcode : Opcode) (null : ScanFault)
    (action : UInt16 → Machine → Option Machine) :
    (scanPreset program opcode null action scan).pc = scan.pc + 2 ∧
    (scanPreset program opcode null action scan).machine =
      (action (wordAt program scan.pc) scan.machine).getD scan.machine := by
  rw [scanPreset, if_neg (Nat.not_le.mpr room)]
  cases action (wordAt program scan.pc) scan.machine with
  | _ => exact ⟨rfl, rfl⟩

theorem scanMath_effect
    {program : List UInt8} {scan : Scan}
    (room : scan.pc + 6 < program.length) (result : Int → Int → Int) :
    ∃ after,
      scanMath program result scan = .next after ∧
      after.pc = scan.pc + 7 ∧
      after.machine =
        mathInstruction result (wordAt program scan.pc)
          (byteAt program (scan.pc + 2)) (wordAt program (scan.pc + 3))
          (wordAt program (scan.pc + 5)) scan.machine := by
  have enough : ¬ (scan.readOperands 2).pc + 4 ≥ program.length :=
    Nat.not_le.mpr room
  exact ⟨_, if_neg enough, rfl, rfl⟩

theorem scanBody_decodeAt
    {program : List UInt8} {scan : Scan} {instruction : Instruction}
    (decoded : decodeAt program scan.pc = some instruction)
    (room : scan.pc + instruction.width ≤ program.length) (nowMs : Int) :
    ∃ after,
      scanBody program nowMs scan = .next after ∧
      after.pc = scan.pc + instruction.width ∧
      after.machine = instruction.run nowMs scan.machine := by
  have more : byteAt program scan.pc ≠ terminator := by
    intro isEnd
    rw [decodeAt_terminator isEnd] at decoded
    cases decoded
  have inside : scan.pc < program.length := by
    have positive := instruction.width_pos
    omega
  cases isOpcode : Opcode.ofByte (byteAt program scan.pc) with
  | none =>
      simp only [decodeAt, isOpcode] at decoded
      cases decoded
  | some opcode =>
      simp only [decodeAt, isOpcode] at decoded
      cases opcode with
      | orBlockStart | orBlockNext | orBlockEnd =>
          cases decoded
          exact
            ⟨_, scanBody_blockAction inside more isOpcode rfl nowMs, rfl, rfl⟩
      | ton | tof | ctu | ctd =>
          cases decoded
          have short : scan.pc + 2 < program.length := by
            rw [Instruction.width] at room
            omega
          exact
            ⟨_, scanBody_operand short more isOpcode rfl nowMs,
              @scanPreset_effect program (scan.fetch.readOperands 2) room _ _ _⟩
      | add | sub | mul | div =>
          cases decoded
          have short : scan.pc + 2 < program.length := by
            rw [Instruction.width] at room
            omega
          have body := scanBody_operand short more isOpcode rfl nowMs
          rcases @scanMath_effect program scan.fetch room _ with
            ⟨after, flow, effect⟩
          exact ⟨after, body.trans flow, effect⟩
      | _ =>
          cases decoded
          exact ⟨_, scanBody_operand room more isOpcode rfl nowMs, rfl, rfl⟩

/-! ## Code in a program -/

/-- The instructions lie between two offsets of the program. -/
inductive Located (program : List UInt8) :
    Nat → List Instruction → Nat → Prop where
  | nil (offset : Nat) : Located program offset [] offset
  | cons {offset last : Nat} {instruction : Instruction}
      {rest : List Instruction}
      (decoded : decodeAt program offset = some instruction)
      (room : offset + instruction.width ≤ program.length)
      (located : Located program (offset + instruction.width) rest last) :
      Located program offset (instruction :: rest) last

/-- The bytes of instructions. -/
def codeWidth (code : List Instruction) : Nat :=
  (code.map Instruction.width).sum

/-- Where code begins that has other code before it. -/
def offsetBehind (before : List Instruction) : Nat :=
  codeStart + codeWidth before

theorem Located.last_eq
    {program : List UInt8} {offset last : Nat} {code : List Instruction}
    (located : Located program offset code last) :
    last = offset + codeWidth code := by
  induction located with
  | nil => rfl
  | cons _ _ _ induction =>
      rw [induction, codeWidth, codeWidth, List.map_cons, List.sum_cons,
        Nat.add_assoc]

theorem Located.split
    {program : List UInt8} {offset last : Nat}
    {first second : List Instruction}
    (located : Located program offset (first ++ second) last) :
    Located program offset first (offset + codeWidth first) ∧
    Located program (offset + codeWidth first) second last := by
  induction first generalizing offset with
  | nil => exact ⟨.nil offset, located⟩
  | cons instruction rest induction =>
      cases located with
      | cons decoded room located =>
          have parts := induction located
          have wide :
              offset + instruction.width + codeWidth rest =
                offset + codeWidth (instruction :: rest) := by
            rw [codeWidth, codeWidth, List.map_cons, List.sum_cons,
              Nat.add_assoc]
          rw [wide] at parts
          exact ⟨.cons decoded room parts.1, parts.2⟩

/-- The program ends at the offset. -/
def EndsAt (program : List UInt8) (offset : Nat) : Prop :=
  ¬ offset < program.length ∨ byteAt program offset = terminator

theorem scanBody_endsAt
    {program : List UInt8} {scan : Scan} (ends : EndsAt program scan.pc)
    (nowMs : Int) :
    ∃ last,
      scanBody program nowMs scan = .stop last ∧
      last.machine = scan.machine := by
  by_cases inside : scan.pc < program.length
  · have isEnd := ends.resolve_left (not_not.mpr inside)
    exact ⟨_, scanBody_terminated inside isEnd nowMs, rfl⟩
  · exact ⟨_, scanBody_finished inside nowMs, rfl⟩

theorem Located.reaches
    {program : List UInt8} {offset last : Nat} {code : List Instruction}
    (located : Located program offset code last) {scan : Scan}
    (isStart : scan.pc = offset) (nowMs : Int) :
    ∃ after,
      Reaches (scanBody program nowMs) scan after ∧ after.pc = last ∧
      after.machine = runInstructions nowMs scan.machine code := by
  induction located generalizing scan with
  | nil => exact ⟨scan, .here scan, isStart, rfl⟩
  | cons decoded room _ induction =>
      subst isStart
      rcases scanBody_decodeAt decoded room nowMs with
        ⟨next, flow, isNext, machine⟩
      rcases induction isNext with ⟨after, reaches, atLast, ran⟩
      refine ⟨after, .later flow reaches, atLast, ?_⟩
      rw [ran, machine]
      rfl

/-- A scan that comes to the last instructions of a program does what they
do. -/
theorem Located.scanProgram_machine
    {program : List UInt8} {last : Nat} {code : List Instruction}
    {scan : Scan} (located : Located program scan.pc code last)
    (ends : EndsAt program last) (nowMs : Int) :
    (scanProgram program nowMs scan).machine =
      runInstructions nowMs scan.machine code := by
  rcases located.reaches rfl nowMs with ⟨after, reaches, rfl, ran⟩
  rcases scanBody_endsAt ends nowMs with ⟨final, flow, same⟩
  rw [scanProgram, reaches.run_eq (scanBody_decreasing program nowMs),
    run_stop flow, same, ran]

/-! ## Accepted programs -/

/-- The tags of an instruction are among those that the first pass counted. -/
structure Instruction.CountedIn (final : Pass1) (instruction : Instruction) :
    Prop where
  timer : ∀ tagId ∈ instruction.timerTag?, tagId ∈ final.timerTags
  counter : ∀ tagId ∈ instruction.counterTag?, tagId ∈ final.counterTags

/-- From some stage on, the first pass goes through located code. -/
structure PassesCode (program : List UInt8) (pass final : Pass1)
    (code : List Instruction) (last : Nat) : Prop where
  located : Located program pass.pc code last
  ends : EndsAt program last
  offsets :
    final.offsets.filterMap (decodeAt program) =
      pass.offsets.filterMap (decodeAt program) ++ code
  counted : ∀ instruction ∈ code, instruction.CountedIn final

theorem PassesCode.nil
    {program : List UInt8} {pass final : Pass1}
    (ends : EndsAt program pass.pc)
    (offsets :
      final.offsets.filterMap (decodeAt program) =
        pass.offsets.filterMap (decodeAt program)) :
    PassesCode program pass final [] pass.pc :=
  ⟨.nil pass.pc, ends, by rw [offsets, List.append_nil], nofun⟩

theorem PassesCode.cons
    {program : List UInt8} {pass after final : Pass1} {kind : OperandKind}
    {code : List Instruction} {last : Nat}
    (passes : PassesCode program after final code last)
    (isKind : byteKind (byteAt program pass.pc) = some kind)
    (room : pass.pc + kind.width ≤ program.length)
    (isAfter : after.pc = pass.pc + kind.width)
    (visited : after.offsets = pass.offsets ++ [pass.pc])
    (timer : kind = .timer → wordAt program (pass.pc + 1) ∈ final.timerTags)
    (counter :
      kind = .counter → wordAt program (pass.pc + 1) ∈ final.counterTags) :
    ∃ instruction,
      PassesCode program pass final (instruction :: code) last := by
  rcases decodeAt_of_kind isKind with
    ⟨instruction, decoded, width, isTimer, isCounter⟩
  have located := passes.located
  rw [isAfter, ← width] at located
  rw [← width] at room
  refine ⟨instruction, .cons decoded room located, passes.ends, ?_, ?_⟩
  · rw [passes.offsets, visited, List.filterMap_append, List.filterMap_cons,
      decoded, List.append_assoc]
    rfl
  · intro other member
    rcases List.mem_cons.mp member with rfl | later
    · constructor
      · intro tagId isTag
        rw [isTimer] at isTag
        split at isTag
        · next same =>
            cases isTag
            exact timer same
        · cases isTag
      · intro tagId isTag
        rw [isCounter] at isTag
        split at isTag
        · next same =>
            cases isTag
            exact counter same
        · cases isTag
    · exact passes.counted other later

/-- The first pass is done from some stage on. -/
def Decodes (program : List UInt8) (pass final : Pass1) : Prop :=
  pass.timerTags.length ≤ maxTimers →
  pass.counterTags.length ≤ maxCounters →
  final.result = .ok →
  TagsWithin pass final ∧
  ∃ code last, PassesCode program pass final code last

theorem pass1_decodes (program : List UInt8) (pass : Pass1) :
    Decodes program pass
      (Loop.run (fun state : Pass1 => program.length - state.pc)
        (pass1Body program) pass) := by
  refine run_relates (pass1Body_decreasing program) (Decodes program) ?_ ?_ pass
  · intro entry after final flow later fewTimers fewCounters well
    have tags := pass1Body_tags (.inl flow) fewTimers fewCounters
    have step := pass1Body_step program entry
    -- The later iterations give the rest of the code, this one its head.
    rcases later tags.2.1 tags.2.2 well with
      ⟨within, code, last, passes⟩
    have timers := List.Subset.trans tags.1.timers within.timers
    have counters := List.Subset.trans tags.1.counters within.counters
    refine ⟨⟨timers, counters, fewTimers, fewCounters⟩, ?_⟩
    rw [flow] at step
    cases step with
    | block inside more isKind =>
        rcases passes.cons isKind inside rfl rfl nofun nofun with
          ⟨instruction, longer⟩
        exact ⟨_, _, longer⟩
    | tag room more isKind =>
        rcases passes.cons isKind room rfl rfl nofun nofun with
          ⟨instruction, longer⟩
        exact ⟨_, _, longer⟩
    | timer tagsNow room more isKind recorded =>
        have counted := within.timers (recordTag_some recorded fewTimers).1
        rcases passes.cons isKind room rfl rfl (fun _ => counted) nofun with
          ⟨instruction, longer⟩
        exact ⟨_, _, longer⟩
    | counter tagsNow room more isKind recorded =>
        have counted := within.counters (recordTag_some recorded fewCounters).1
        rcases passes.cons isKind room rfl rfl nofun (fun _ => counted) with
          ⟨instruction, longer⟩
        exact ⟨_, _, longer⟩
    | math room more isKind =>
        rcases passes.cons isKind room rfl rfl nofun nofun with
          ⟨instruction, longer⟩
        exact ⟨_, _, longer⟩
  · intro entry final flow fewTimers fewCounters well
    have tags := pass1Body_tags (.inr flow) fewTimers fewCounters
    have step := pass1Body_step program entry
    refine ⟨tags.1, [], entry.pc, ?_⟩
    rw [flow] at step
    cases step with
    | finished outside => exact .nil (.inl outside) rfl
    | terminated inside isEnd =>
        refine .nil (.inr isEnd) ?_
        rw [Pass1.fetched, List.filterMap_append, List.filterMap_cons,
          decodeAt_terminator isEnd]
        exact List.append_nil _
    | rejected error failure => exact absurd well failure

theorem instructions_located
    {program : List UInt8} (accepted : validateProgram program = .ok) :
    ∃ last,
      Located program codeStart (instructions program) last ∧
      EndsAt program last ∧
      ∀ instruction ∈ instructions program,
        instruction.CountedIn (pass1 program) := by
  have well := (validateProgram_ok accepted).2.2
  rcases pass1_decodes program Pass1.start (Nat.zero_le _) (Nat.zero_le _)
    well with ⟨_, code, last, located, ends, offsets, counted⟩
  have same : instructions program = code := offsets
  rw [same]
  exact ⟨last, located, ends, counted⟩

/-! ## Tables -/

/-- An instruction without a timer and a counter, and other than `RST`, leaves
the tables. -/
theorem Instruction.run_sameTables
    {instruction : Instruction} (noTimer : instruction.timerTag? = none)
    (noCounter : instruction.counterTag? = none)
    (notReset : ∀ tagId, instruction ≠ .onTag .rst tagId) (nowMs : Int)
    (machine : Machine) :
    (instruction.run nowMs machine).timers = machine.timers ∧
    (instruction.run nowMs machine).counters = machine.counters := by
  cases instruction with
  | orBlockStart => exact @blockAction_tables .orBlockStart _ rfl machine
  | orBlockNext => exact @blockAction_tables .orBlockNext _ rfl machine
  | orBlockEnd => exact @blockAction_tables .orBlockEnd _ rfl machine
  | onTag opcode tagId =>
      rw [Instruction.run]
      split
      · next action isAction =>
          apply tagAction_sameTables isAction
          rintro rfl
          exact notReset tagId rfl
      · exact ⟨rfl, rfl⟩
  | ton | tof => cases noTimer
  | ctu | ctd => cases noCounter
  | math opcode tagAId flagsB operandBRaw destTagId =>
      rw [Instruction.run]
      split
      · exact mathInstruction_tables _ _ _ _ _ _
      · exact ⟨rfl, rfl⟩

/-- The instructions of an accepted program keep the tables within its
tags. -/
theorem Instruction.run_tables
    {final : Pass1} {instruction : Instruction}
    (counted : instruction.CountedIn final)
    (fewTimers : final.timerTags.length ≤ maxTimers)
    (fewCounters : final.counterTags.length ≤ maxCounters)
    {machine : Machine} (within : TablesWithin final machine)
    (nowMs : Int) :
    TablesWithin final (instruction.run nowMs machine) := by
  have same
      (tables :
        (instruction.run nowMs machine).timers = machine.timers ∧
        (instruction.run nowMs machine).counters = machine.counters) :
      TablesWithin final (instruction.run nowMs machine) :=
    ⟨tables.1 ▸ within.timers, tables.2 ▸ within.counters⟩
  have timed
      {step : Bool → UInt16 → Int → TimerState → Bool × TimerState}
      (keepsTag :
        ∀ accumulator preset nowMs timer,
          (step accumulator preset nowMs timer).2.tagId = timer.tagId)
      {tagId : UInt16} (isTimer : tagId ∈ instruction.timerTag?)
      (preset : UInt16) :
      TablesWithin final
        ((timerInstruction step nowMs tagId preset machine).getD
          machine) := by
    rcases timerInstruction_tables keepsTag within fewTimers
      (counted.timer tagId isTimer) nowMs preset with ⟨after, ran, inside⟩
    rw [ran]
    exact inside
  have counting
      {step : Bool → UInt16 → CounterState → Bool × CounterState}
      (keepsTag :
        ∀ accumulator preset counter,
          (step accumulator preset counter).2.tagId = counter.tagId)
      {tagId : UInt16} (isCounter : tagId ∈ instruction.counterTag?)
      (preset : UInt16) :
      TablesWithin final
        ((counterInstruction step tagId preset machine).getD machine) := by
    rcases counterInstruction_tables keepsTag within fewCounters
      (counted.counter tagId isCounter) preset with ⟨after, ran, inside⟩
    rw [ran]
    exact inside
  cases instruction with
  | onTag opcode tagId =>
      rw [Instruction.run]
      split
      · next action isAction => exact tagAction_tables isAction within tagId
      · exact within
  | ton tagId presetMs => exact timed onDelayStep_tagId rfl presetMs
  | tof tagId presetMs => exact timed offDelayStep_tagId rfl presetMs
  | ctu tagId presetCnt => exact counting (fun _ _ _ => rfl) rfl presetCnt
  | ctd tagId presetCnt => exact counting (fun _ _ _ => rfl) rfl presetCnt
  | _ =>
      apply same
      apply Instruction.run_sameTables rfl rfl
      rintro tagId ⟨⟩

theorem runInstructions_tables
    {final : Pass1} {code : List Instruction}
    (counted : ∀ instruction ∈ code, instruction.CountedIn final)
    (fewTimers : final.timerTags.length ≤ maxTimers)
    (fewCounters : final.counterTags.length ≤ maxCounters)
    {machine : Machine} (within : TablesWithin final machine)
    (nowMs : Int) :
    TablesWithin final (runInstructions nowMs machine code) := by
  induction code generalizing machine with
  | nil => exact within
  | cons instruction rest induction =>
      have first := counted instruction (List.mem_cons_self ..)
      exact
        induction
          (fun other later => counted other (List.mem_cons_of_mem _ later))
          (Instruction.run_tables first fewTimers fewCounters within nowMs)

end Endap.Ladder
