import Endap.Ladder.Program
import Endap.Library.Branching

/-!
# Blocks of alternatives

The tokens of OR blocks work on a stack of bounded height beside the
accumulator; all other instructions leave the stack alone.  While the tokens
of a program are well bracketed and its blocks are not nested too deep, a scan
does what the nested blocks say: a block leaves the disjunction of its
branches.

The validator does not look at brackets.  The interpreter ignores a token
that its stack cannot take.
-/

namespace Endap.Ladder

open Endap.Library
open Endap.Library.Branching
open Endap.Library.Loop
open Endap.State

/-! ## Instructions as tokens -/

/-- What instructions work on, without the accumulator and the stack. -/
structure Workspace where
  store : StateStore
  timers : TimerTable
  counters : CounterTable

/-- A machine with the accumulator and the workspace, and with a stack. -/
def Machine.assemble (state : Bool × Workspace)
    (stack : List (Bool × Bool)) : Machine where
  accumulator := state.1
  stack := stack
  store := state.2.store
  timers := state.2.timers
  counters := state.2.counters

/-- The accumulator and the workspace of a machine. -/
def Machine.state (machine : Machine) : Bool × Workspace :=
  (machine.accumulator,
    { store := machine.store
      timers := machine.timers
      counters := machine.counters })

/-- The token of an instruction. -/
def Instruction.token (instruction : Instruction) : Token Instruction :=
  match instruction with
  | .orBlockStart => .start
  | .orBlockNext => .next
  | .orBlockEnd => .finish
  | other => .leaf other

/-- What an instruction does to the accumulator and the workspace. -/
def Instruction.act (nowMs : Int) (instruction : Instruction)
    (state : Bool × Workspace) : Bool × Workspace :=
  (instruction.run nowMs (Machine.assemble state [])).state

/-- The action neither reads nor changes the stack. -/
def SparesStack (action : Machine → Machine) : Prop :=
  ∀ machine,
    action machine =
      Machine.assemble (action (Machine.assemble machine.state [])).state
        machine.stack

theorem tagAction_sparesStack
    {opcode : Opcode} {action : UInt16 → Machine → Machine}
    (isTag : opcode.tagAction = some action) (tagId : UInt16) :
    SparesStack (action tagId) := by
  rintro ⟨accumulator, stack, store, timers, counters⟩
  cases opcode with
  | set | rst =>
      cases isTag
      cases accumulator with
      | _ => rfl
  | _ => cases isTag <;> rfl

theorem mathInstruction_sparesStack
    (result : Int → Int → Int) (tagAId : UInt16) (flagsB : UInt8)
    (operandBRaw destTagId : UInt16) :
    SparesStack
      (mathInstruction result tagAId flagsB operandBRaw destTagId) := by
  rintro ⟨accumulator, stack, store, timers, counters⟩
  cases accumulator <;> rfl

theorem timerInstruction_sparesStack
    (step : Bool → UInt16 → Int → TimerState → Bool × TimerState)
    (nowMs : Int) (tagId preset : UInt16) :
    SparesStack fun machine =>
      (timerInstruction step nowMs tagId preset machine).getD machine := by
  rintro ⟨accumulator, stack, store, timers, counters⟩
  simp only [timerInstruction, Machine.assemble, Machine.state]
  cases getOrCreateTimer timers tagId with
  | _ => rfl

theorem counterInstruction_sparesStack
    (step : Bool → UInt16 → CounterState → Bool × CounterState)
    (tagId preset : UInt16) :
    SparesStack fun machine =>
      (counterInstruction step tagId preset machine).getD machine := by
  rintro ⟨accumulator, stack, store, timers, counters⟩
  simp only [counterInstruction, Machine.assemble, Machine.state]
  cases getOrCreateCounter counters tagId with
  | _ => rfl

theorem Instruction.run_leaf
    {instruction : Instruction} (isLeaf : instruction.token = .leaf instruction)
    (nowMs : Int) (machine : Machine) :
    instruction.run nowMs machine =
      Machine.assemble (instruction.act nowMs machine.state)
        machine.stack := by
  cases instruction with
  | onTag opcode tagId =>
      simp only [Instruction.act, Instruction.run]
      cases isAction : opcode.tagAction with
      | some action => exact tagAction_sparesStack isAction tagId machine
      | none => rfl
  | ton tagId presetMs =>
      exact timerInstruction_sparesStack onDelayStep nowMs tagId _ machine
  | tof tagId presetMs =>
      exact timerInstruction_sparesStack offDelayStep nowMs tagId _ machine
  | ctu tagId presetCnt =>
      exact counterInstruction_sparesStack countUpStep tagId _ machine
  | ctd tagId presetCnt =>
      exact counterInstruction_sparesStack countDownStep tagId _ machine
  | math opcode tagAId flagsB operandBRaw destTagId =>
      simp only [Instruction.act, Instruction.run]
      cases opcode.mathResult with
      | some result =>
          exact mathInstruction_sparesStack result tagAId flagsB _ _ machine
      | none => rfl
  | _ => cases isLeaf

/-! ## The stack machine -/

/-- The machine, as a machine that runs tokens. -/
def Machine.tokens (machine : Machine) : Branching.Machine Workspace where
  accumulator := machine.state.1
  stack := machine.stack
  data := machine.state.2

theorem Machine.tokens_assemble
    (state : Bool × Workspace) (stack : List (Bool × Bool)) :
    (Machine.assemble state stack).tokens =
      { accumulator := state.1, stack := stack, data := state.2 } :=
  rfl

theorem Instruction.run_tokens (nowMs : Int) (machine : Machine)
    (instruction : Instruction) :
    (instruction.run nowMs machine).tokens =
      machine.tokens.step (Instruction.act nowMs) maxStack
        instruction.token := by
  have leaf (isLeaf : instruction.token = .leaf instruction) :
      (instruction.run nowMs machine).tokens =
        machine.tokens.step (Instruction.act nowMs) maxStack
          instruction.token := by
    rw [isLeaf, Instruction.run_leaf isLeaf, Machine.tokens_assemble]
    rfl
  cases instruction with
  | orBlockStart =>
      simp only [Instruction.run, Machine.orBlockStart, Instruction.token,
        Branching.Machine.step]
      change Machine.tokens _ = if machine.stack.length < maxStack then _ else _
      split
      · rfl
      · rfl
  | orBlockNext =>
      rcases machine with ⟨accumulator, stack, store, timers, counters⟩
      cases stack with
      | _ => rfl
  | orBlockEnd =>
      rcases machine with ⟨accumulator, stack, store, timers, counters⟩
      cases stack with
      | _ => rfl
  | _ => exact leaf rfl

theorem runInstructions_tokens (nowMs : Int) (machine : Machine)
    (code : List Instruction) :
    (runInstructions nowMs machine code).tokens =
      machine.tokens.run (Instruction.act nowMs) maxStack
        (code.map Instruction.token) := by
  induction code generalizing machine with
  | nil => rfl
  | cons instruction rest induction =>
      rw [List.map_cons, Branching.Machine.run_cons, ← Instruction.run_tokens]
      exact induction (instruction.run nowMs machine)

theorem Machine.eq_assemble_of_tokens
    {machine : Machine} {state : Bool × Workspace}
    {stack : List (Bool × Bool)}
    (same :
      machine.tokens =
        { accumulator := state.1, stack := stack, data := state.2 }) :
    machine = Machine.assemble state stack := by
  have sameAccumulator := congrArg Branching.Machine.accumulator same
  have sameStack := congrArg Branching.Machine.stack same
  have sameData := congrArg Branching.Machine.data same
  rcases machine with ⟨accumulator, ownStack, store, timers, counters⟩
  rcases state with ⟨other, otherStore, otherTimers, otherCounters⟩
  cases sameAccumulator
  cases sameStack
  cases sameData
  rfl

/-! ## Blocks -/

/-- The tokens of a program. -/
def blockTokens (program : List UInt8) : List (Token Instruction) :=
  (instructions program).map Instruction.token

/-- The tokens are well bracketed, with little nesting. -/
def WellBracketed (program : List UInt8) : Prop :=
  Bracketed maxStack (blockTokens program)

/-- A block in a program: from any accumulator and any state, and with the
saved values of the blocks around it on the stack, the interpreter comes
behind the block, with the disjunction of what the branches leave. -/
def RunsBlock (program : List UInt8) (before block : List Instruction)
    (branches : Branches Instruction) : Prop :=
  ∀ (nowMs : Int) (scan : Scan),
    scan.pc = offsetBehind before →
    heightAfter maxStack 0 (before.map Instruction.token) =
        some scan.machine.stack.length →
      ∃ last,
        Reaches (scanBody program nowMs) scan last ∧
        last.pc = offsetBehind (before ++ block) ∧
        last.machine.accumulator =
            (branches.outcomes (Instruction.act nowMs)
              scan.machine.accumulator
              scan.machine.state.2).1.any id ∧
        last.machine.state.2 =
            (branches.outcomes (Instruction.act nowMs)
              scan.machine.accumulator scan.machine.state.2).2 ∧
        last.machine.stack = scan.machine.stack

theorem scan_semantics
    {program : List UInt8} (accepted : validateProgram program = .ok)
    {code : Code Instruction} (isCode : blockTokens program = code.flatten)
    (shallow : code.depth ≤ maxStack) (engine : LadderEngine)
    (store : StateStore) (nowMs : Int) :
    (scanProgram program nowMs (startScan engine store)).machine =
      Machine.assemble
        (code.run (Instruction.act nowMs)
          (startScan engine store).machine.state)
        [] := by
  rcases instructions_located accepted with ⟨last, located, ends, _⟩
  have ran :=
    @Located.scanProgram_machine program last (instructions program)
      (startScan engine store) located ends nowMs
  rw [ran]
  apply Machine.eq_assemble_of_tokens
  rw [runInstructions_tokens]
  change Branching.Machine.run _ _ _ (blockTokens program) = _
  rw [isCode]
  refine Branching.Machine.run_flatten code _ ?_
  change 0 + code.depth ≤ maxStack
  omega

theorem block_semantics
    {program : List UInt8} (accepted : validateProgram program = .ok)
    (bracketed : WellBracketed program)
    {before block after : List Instruction}
    {branches : Branches Instruction}
    (split : instructions program = before ++ block ++ after)
    (isBlock : block.map Instruction.token = .start :: branches.flatten) :
    RunsBlock program before block branches := by
  intro nowMs scan atBlock height
  rcases instructions_located accepted with ⟨last, located, ends, _⟩
  have counted := (bracketed_iff (blockTokens program)).mp bracketed
  rw [blockTokens, split, List.append_assoc, List.map_append,
    heightAfter_append, height, Option.bind_some, List.map_append, isBlock]
    at counted
  -- The blocks around the block leave room for what is nested in it.
  have room := room_of_heightAfter counted
  rw [split] at located
  rcases located.split.1.split.2.reaches atBlock nowMs with
    ⟨behind, reaches, isPc, ran⟩
  refine ⟨behind, reaches, isPc, ?_⟩
  have tokens := runInstructions_tokens nowMs scan.machine block
  have whole :
      Token.start :: branches.flatten =
        (Code.block branches .done).flatten := by
    rw [Code.flatten, Code.flatten, List.append_nil]
  rw [isBlock, whole, Branching.Machine.run_flatten _ _ ?_] at tokens
  · rw [ran]
    have after := Machine.eq_assemble_of_tokens tokens
    rw [after]
    exact ⟨rfl, rfl, rfl⟩
  · rw [Code.depth, Code.depth]
    change scan.machine.stack.length + _ ≤ maxStack
    omega

/-- A scan of a program does what its nested blocks say. -/
theorem or_block_semantics (program : List UInt8)
    (accepted : validateProgram program = .ok) (code : Code Instruction)
    (isCode : blockTokens program = code.flatten)
    (shallow : code.depth ≤ maxStack) :
    (∀ (engine : LadderEngine) (store : StateStore) (nowMs : Int),
        (scanProgram program nowMs (startScan engine store)).machine =
          Machine.assemble
            (code.run (Instruction.act nowMs)
              (startScan engine store).machine.state)
            []) ∧
      ∀ (before block after : List Instruction)
        (branches : Branches Instruction),
        instructions program = before ++ block ++ after →
        block.map Instruction.token = .start :: branches.flatten →
        RunsBlock program before block branches := by
  constructor
  · exact scan_semantics accepted isCode shallow
  · intro before block after branches split isBlock
    exact block_semantics accepted ⟨code, isCode, shallow⟩ split isBlock

/-! ## Ignored tokens -/

/-- The interpreter is at a token of a block that its stack cannot take. -/
def IgnoresToken (program : List UInt8) (scan : Scan) : Prop :=
  decodeAt program scan.pc = some .orBlockStart ∧
      maxStack ≤ scan.machine.stack.length ∨
    decodeAt program scan.pc = some .orBlockNext ∧
        scan.machine.stack = [] ∨
      decodeAt program scan.pc = some .orBlockEnd ∧ scan.machine.stack = []

/-- A scan ignores no token and ends with an empty stack. -/
structure CleanScan (program : List UInt8) (nowMs : Int) (start : Scan) :
    Prop where
  takes :
    ∀ scan,
      Reaches (scanBody program nowMs) start scan → ¬ IgnoresToken program scan
  closes : (scanProgram program nowMs start).machine.stack = []

theorem ignoresToken_iff
    {program : List UInt8} {scan : Scan} {instruction : Instruction}
    (decoded : decodeAt program scan.pc = some instruction) :
    IgnoresToken program scan ↔
    instruction.token.height maxStack scan.machine.stack.length = none := by
  rw [IgnoresToken, decoded]
  cases instruction with
  | orBlockStart => simp [Instruction.token, Token.height]
  | orBlockNext => simp [Instruction.token, Token.height]
  | orBlockEnd => simp [Instruction.token, Token.height]
  | _ => simp [Instruction.token, Token.height]

theorem not_ignoresToken_of_endsAt
    {program : List UInt8} {scan : Scan} (ends : EndsAt program scan.pc) :
    ¬ IgnoresToken program scan := by
  have nothing : decodeAt program scan.pc = none := by
    rcases ends with outside | isEnd
    · have zero : byteAt program scan.pc = 0 := by
        rw [byteAt, List.getD_eq_getElem?_getD,
          List.getElem?_eq_none (Nat.le_of_not_lt outside), Option.getD_none]
      have noOpcode : Opcode.ofByte 0 = none := by decide
      simp only [decodeAt, zero, noOpcode]
    · exact decodeAt_terminator isEnd
  rw [IgnoresToken, nothing]
  simp

theorem Located.reached
    {program : List UInt8} {last : Nat} {code : List Instruction}
    {nowMs : Int} {scan other : Scan}
    (reaches : Reaches (scanBody program nowMs) scan other)
    (located : Located program scan.pc code last)
    (ends : EndsAt program last) :
    ∃ before after,
      code = before ++ after ∧ Located program other.pc after last ∧
      other.machine = runInstructions nowMs scan.machine before := by
  induction reaches generalizing code with
  | here scan => exact ⟨[], code, rfl, located, rfl⟩
  | @later scan next other flow _ induction =>
      cases located with
      | nil =>
          rcases scanBody_endsAt ends nowMs with ⟨final, stopped, _⟩
          rw [stopped] at flow
          cases flow
      | @cons _ _ instruction rest decoded room located =>
          rcases scanBody_decodeAt decoded room nowMs with
            ⟨next', flow', isNext, machine⟩
          rw [flow'] at flow
          cases flow
          rw [← isNext] at located
          rcases induction located with ⟨before, after, rfl, behind, ran⟩
          refine ⟨instruction :: before, after, rfl, behind, ?_⟩
          rw [ran, machine]
          rfl

/-- A scan of an accepted program is clean if and only if the tokens are well
bracketed, whatever the state and the clock are. -/
theorem clean_scan_iff (program : List UInt8)
    (accepted : validateProgram program = .ok) (engine : LadderEngine)
    (store : StateStore) (nowMs : Int) :
    CleanScan program nowMs (startScan engine store) ↔
    WellBracketed program := by
  rcases instructions_located accepted with ⟨last, located, ends, _⟩
  have ran :=
    @Located.scanProgram_machine program last (instructions program)
      (startScan engine store) located ends nowMs
  have heights :=
    @Branching.Machine.run_height_iff Instruction Workspace maxStack
      (Instruction.act nowMs) (blockTokens program)
      (startScan engine store).machine.tokens 0
  have behind (before : List Instruction) :
      ((startScan engine store).machine.tokens.run (Instruction.act nowMs)
          maxStack (before.map Instruction.token)).stack =
        (runInstructions nowMs (startScan engine store).machine
          before).stack := by
    rw [← runInstructions_tokens]
    rfl
  rw [WellBracketed, bracketed_iff]
  refine Iff.trans ?_ heights.symm
  rw [blockTokens, behind, List.length_eq_zero_iff, ← ran]
  constructor
  · rintro ⟨takes, closes⟩
    refine ⟨?_, closes⟩
    intro before token after split
    rcases List.map_eq_append_iff.mp split with
      ⟨first, second, isCode, rfl, isSecond⟩
    rcases List.map_eq_cons_iff.mp isSecond with
      ⟨instruction, rest, rfl, rfl, _⟩
    rw [behind]
    rw [isCode] at located
    have parts := located.split
    rcases parts.1.reaches (show (startScan engine store).pc = _ from rfl)
      nowMs with ⟨scan, reaches, isPc, machine⟩
    have ignored := takes scan reaches
    have decoded : decodeAt program scan.pc = some instruction := by
      rw [isPc]
      cases parts.2 with
      | cons decoded => exact decoded
    rw [ignoresToken_iff decoded, machine] at ignored
    exact ignored
  · rintro ⟨takes, closes⟩
    refine ⟨?_, closes⟩
    intro scan reaches
    rcases Located.reached reaches located ends with
      ⟨before, after, isCode, rest, machine⟩
    cases rest with
    | nil => exact not_ignoresToken_of_endsAt ends
    | @cons _ _ instruction later decoded room rest =>
        rw [ignoresToken_iff decoded, machine, ← behind]
        refine
          takes (before.map Instruction.token) instruction.token
            (later.map Instruction.token) ?_
        rw [isCode, List.map_append, List.map_cons]

/-- The scans after an accepted load are all clean if and only if the tokens
of the program are well bracketed. -/
theorem loaded_scans_clean_iff
    (engine : LadderEngine) (blob : LadderBlob) (buffer : List UInt8)
    (erased stored : NvsOutcome)
    (accepted :
      (ladderEngineLoadProgram engine blob buffer erased stored).1 = .ok) :
    (∀ inputs,
        ∀ transition ∈
            Run.history ladderScan
              (ladderEngineLoadProgram engine blob buffer erased stored).2.1
              inputs,
          CleanScan transition.before.bytecode
            (transition.action.clockUs.tdiv 1000)
            (startScan transition.before transition.action.store)) ↔
      WellBracketed buffer := by
  rcases ladderEngineLoadProgram_follows engine blob erased stored accepted
    with ⟨valid, start⟩
  constructor
  · intro clean
    have first := clean [⟨stateInit, 0⟩] _ (List.mem_singleton_self _)
    simp only [Run.call, start.holds] at first
    exact (clean_scan_iff buffer valid _ _ _).mp first
  · intro bracketed inputs transition member
    rcases Run.history_invariant (Follows buffer) start
      (fun state input follows => (ladderScan_follows valid follows input).1)
      member with ⟨follows, _⟩
    rw [follows.holds]
    exact (clean_scan_iff buffer valid _ _ _).mpr bracketed

/-! ## Two programs -/

/-- `LD 10`, one of `AND 11` and `AND 12`, `ST 100`. -/
def parallelContacts : List UInt8 :=
  [0x45, 0x4E, 0x44, 0x50, 0x01, 0x01, 0x00, 0x0A, 0x20, 0x03, 0x00, 0x0B,
    0x21, 0x03, 0x00, 0x0C, 0x22, 0x10, 0x00, 0x64, 0xFF]

def parallelBranches : Branches Instruction :=
  .more (.leaf (.onTag .and 11) .done) (.last (.leaf (.onTag .and 12) .done))

def parallelCode : Code Instruction :=
  .leaf (.onTag .ld 10) (.block parallelBranches (.leaf (.onTag .st 100) .done))

theorem parallelContacts_code :
    blockTokens parallelContacts = parallelCode.flatten := by
  decide +kernel

theorem parallelContacts_runs :
    (scanProgram parallelContacts 0
          (startScan LadderEngine.cleared stateInit)).machine =
        Machine.assemble
          (parallelCode.run (Instruction.act 0)
            (startScan LadderEngine.cleared stateInit).machine.state)
          [] ∧
    RunsBlock parallelContacts [.onTag .ld 10]
      [.orBlockStart, .onTag .and 11, .orBlockNext, .onTag .and 12, .orBlockEnd]
      parallelBranches := by
  have semantics :=
    or_block_semantics parallelContacts (by decide +kernel) parallelCode
      parallelContacts_code (by decide)
  refine ⟨semantics.1 LadderEngine.cleared stateInit 0, ?_⟩
  exact semantics.2 _ _ [.onTag .st 100] _ (by decide +kernel) (by decide)

theorem parallelContacts_clean :
    WellBracketed parallelContacts ∧
    ∀ inputs,
      ∀ transition ∈
          Run.history ladderScan
            (ladderEngineLoadProgram LadderEngine.cleared none
              parallelContacts .committed .committed).2.1
            inputs,
        CleanScan transition.before.bytecode
          (transition.action.clockUs.tdiv 1000)
          (startScan transition.before transition.action.store) := by
  have bracketed : WellBracketed parallelContacts :=
    ⟨parallelCode, parallelContacts_code, by decide⟩
  have clean :=
    loaded_scans_clean_iff LadderEngine.cleared none parallelContacts
      .committed .committed (by decide +kernel)
  exact ⟨bracketed, clean.mpr bracketed⟩

def loneEnd : List UInt8 := [0x45, 0x4E, 0x44, 0x50, 0x01, 0x22, 0xFF]

/-- The validator accepts it, and every scan ignores it. -/
theorem loneEnd_ignored :
    (ladderEngineLoadProgram LadderEngine.cleared none loneEnd .committed
          .committed).1 = .ok ∧
    ¬ CleanScan loneEnd 0
      (startScan
        (ladderEngineLoadProgram LadderEngine.cleared none loneEnd
          .committed .committed).2.1
        stateInit) := by
  refine ⟨by decide +kernel, ?_⟩
  intro clean
  exact clean.takes _ (.here _) (.inr (.inr ⟨by decide, rfl⟩))

end Endap.Ladder
