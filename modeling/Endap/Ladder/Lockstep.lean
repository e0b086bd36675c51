import Endap.Ladder.Engine
import Endap.Library.Layout

/-!
# The validator and the interpreter agree

The first pass of the loader and the loop of the interpreter decode the same
bytes with different tests.  `Pass1Step` says once what an iteration of the
first pass can do, in terms of the kind of the opcode; one lemma for each kind
says what the interpreter does there.  On a program that the first pass
accepts the two loops run in lockstep.

The tables of timers and counters only ever hold tags that the first pass
counted, so they never run out of room, however many scans are made.
-/

namespace Endap.Ladder

open Endap.Library
open Endap.Library.Loop
open Endap.State

/-! ## Kinds of opcodes -/

/-- What follows an opcode in the program. -/
inductive OperandKind where
  | block
  | tag
  | timer
  | counter
  | math
deriving DecidableEq

/-- The kind of an opcode. -/
def Opcode.kind : Opcode → OperandKind
  | .orBlockStart | .orBlockNext | .orBlockEnd => .block
  | .ton | .tof => .timer
  | .ctu | .ctd => .counter
  | .add | .sub | .mul | .div => .math
  | .ld | .ldn | .and | .andn | .or | .orn => .tag
  | .st | .set | .rst => .tag
  | .equ | .grt | .les => .tag

/-- The kind of a byte, if it is an opcode. -/
def byteKind (byte : UInt8) : Option OperandKind :=
  (Opcode.ofByte byte).map Opcode.kind

theorem byteKind_ranges (byte : UInt8) :
    (Between .ld .orn byte ∨ Between .st .rst byte →
        byteKind byte = some .tag) ∧
      (Between .orBlockStart .orBlockEnd byte → byteKind byte = some .block) ∧
      (byte = Opcode.ton.byte ∨ byte = Opcode.tof.byte →
      byteKind byte = some .timer) ∧
      (byte = Opcode.ctu.byte ∨ byte = Opcode.ctd.byte →
      byteKind byte = some .counter) ∧
      (Between .equ .les byte → byteKind byte = some .tag) ∧
      (Between .add .div byte → byteKind byte = some .math) := by
  revert byte
  refine forall_byte ?_
  decide +kernel

theorem opcode_of_byteKind
    {byte : UInt8} {kind : OperandKind}
    (isKind : byteKind byte = some kind) :
    ∃ opcode, Opcode.ofByte byte = some opcode ∧ opcode.kind = kind :=
  Option.map_eq_some_iff.mp isKind

/-! ## One iteration of the first pass -/

/-- The pass after an opcode was fetched. -/
def Pass1.fetched (entry : Pass1) : Pass1 :=
  { entry with
    pc := entry.pc + 1
    offsets := entry.offsets ++ [entry.pc] }

/-- Everything that an iteration of the first pass can do. -/
inductive Pass1Step (buffer : List UInt8) (entry : Pass1) :
    Flow Pass1 → Prop where
  /-- The end of the program. -/
  | finished (outside : ¬ entry.pc < buffer.length) :
      Pass1Step buffer entry (.stop entry)
  /-- The terminator. -/
  | terminated
      (inside : entry.pc < buffer.length)
      (isEnd : byteAt buffer entry.pc = terminator) :
      Pass1Step buffer entry (.stop entry.fetched)
  /-- An error. -/
  | rejected (error : EspErr) (failure : error ≠ .ok) :
      Pass1Step buffer entry (.stop { entry.fetched with result := error })
  /-- A stack instruction. -/
  | block
      (inside : entry.pc < buffer.length)
      (more : byteAt buffer entry.pc ≠ terminator)
      (isKind : byteKind (byteAt buffer entry.pc) = some .block) :
      Pass1Step buffer entry (.next entry.fetched)
  /-- An instruction with a tag. -/
  | tag
      (room : entry.pc + 2 < buffer.length)
      (more : byteAt buffer entry.pc ≠ terminator)
      (isKind : byteKind (byteAt buffer entry.pc) = some .tag) :
      Pass1Step buffer entry (.next { entry.fetched with pc := entry.pc + 3 })
  /-- An instruction with a timer and a preset. -/
  | timer
      (tags : List UInt16)
      (room : entry.pc + 4 < buffer.length)
      (more : byteAt buffer entry.pc ≠ terminator)
      (isKind : byteKind (byteAt buffer entry.pc) = some .timer)
      (recorded :
        recordTag entry.timerTags maxTimers
          (wordAt buffer (entry.pc + 1)) = some tags) :
      Pass1Step buffer entry
        (.next { entry.fetched with pc := entry.pc + 5, timerTags := tags })
  /-- An instruction with a counter and a preset. -/
  | counter
      (tags : List UInt16)
      (room : entry.pc + 4 < buffer.length)
      (more : byteAt buffer entry.pc ≠ terminator)
      (isKind : byteKind (byteAt buffer entry.pc) = some .counter)
      (recorded :
        recordTag entry.counterTags maxCounters
          (wordAt buffer (entry.pc + 1)) = some tags) :
      Pass1Step buffer entry
        (.next { entry.fetched with pc := entry.pc + 5, counterTags := tags })
  /-- An arithmetic instruction. -/
  | math
      (room : entry.pc + 7 < buffer.length)
      (more : byteAt buffer entry.pc ≠ terminator)
      (isKind : byteKind (byteAt buffer entry.pc) = some .math) :
      Pass1Step buffer entry (.next { entry.fetched with pc := entry.pc + 8 })

theorem pass1Body_step (buffer : List UInt8) (entry : Pass1) :
    Pass1Step buffer entry (pass1Body buffer entry) := by
  have rejected (error : EspErr) (failure : error ≠ .ok) :
      Pass1Step buffer entry (entry.fetched.reject error) :=
    Pass1Step.rejected error failure
  have invalid := rejected .invalidArg (by decide)
  have full := rejected .noMem (by decide)
  have ranges := byteKind_ranges (byteAt buffer entry.pc)
  rw [pass1Body]
  by_cases inside : entry.pc < buffer.length
  · rw [if_pos inside]
    by_cases isEnd : byteAt buffer entry.pc = terminator
    · rw [if_pos isEnd]
      exact Pass1Step.terminated inside isEnd
    · rw [if_neg isEnd]
      split
      · rename_i isTag
        split
        · exact invalid
        · rename_i room
          exact Pass1Step.tag (Nat.lt_of_not_ge room) isEnd (ranges.1 isTag)
      · split
        · rename_i isBlock
          exact Pass1Step.block inside isEnd (ranges.2.1 isBlock)
        · split
          · rename_i isTimer
            split
            · exact invalid
            · split
              · exact invalid
              · rename_i room
                split
                · exact full
                · rename_i tags recorded
                  exact
                    Pass1Step.timer tags (Nat.lt_of_not_ge room) isEnd
                      (ranges.2.2.1 isTimer) recorded
          · split
            · rename_i isCounter
              split
              · exact invalid
              · split
                · exact invalid
                · rename_i room
                  split
                  · exact full
                  · rename_i tags recorded
                    exact
                      Pass1Step.counter tags (Nat.lt_of_not_ge room) isEnd
                        (ranges.2.2.2.1 isCounter) recorded
            · split
              · rename_i isCompare
                split
                · exact invalid
                · rename_i room
                  exact
                    Pass1Step.tag (Nat.lt_of_not_ge room) isEnd
                      (ranges.2.2.2.2.1 isCompare)
              · split
                · rename_i isMath
                  split
                  · exact invalid
                  · rename_i room
                    split
                    · exact invalid
                    · exact
                        Pass1Step.math (Nat.lt_of_not_ge room) isEnd
                          (ranges.2.2.2.2.2 isMath)
                · exact invalid
  · rw [if_neg inside]
    exact Pass1Step.finished inside

theorem pass1Body_decreasing (buffer : List UInt8) :
    Decreasing (fun pass : Pass1 => buffer.length - pass.pc)
      (pass1Body buffer) := by
  intro entry after flow
  have step := pass1Body_step buffer entry
  rw [flow] at step
  have advances : entry.pc < buffer.length ∧ entry.pc < after.pc := by
    cases step with
    | block inside more isKind => exact ⟨inside, Nat.lt_succ_self _⟩
    | _ => simp only; omega
  exact Nat.sub_lt_sub_left advances.1 advances.2

/-! ## The tags counted by the first pass -/

variable {tagId : UInt16}

theorem recordTag_some
    {tags next : List UInt16} {limit : Nat}
    (recorded : recordTag tags limit tagId = some next)
    (small : tags.length ≤ limit) :
    tagId ∈ next ∧ tags ⊆ next ∧ next.length ≤ limit := by
  rw [recordTag] at recorded
  split at recorded
  · rename_i present
    cases recorded
    exact ⟨present, List.Subset.refl _, small⟩
  · split at recorded
    · cases recorded
    · rename_i room
      cases recorded
      refine ⟨by simp, List.subset_append_left _ _, ?_⟩
      rw [List.length_append]
      simp only [List.length_singleton]
      omega

/-- The tags so far are among the tags of a later pass, and both are few. -/
structure TagsWithin (pass final : Pass1) : Prop where
  timers : pass.timerTags ⊆ final.timerTags
  counters : pass.counterTags ⊆ final.counterTags
  fewTimers : pass.timerTags.length ≤ maxTimers
  fewCounters : pass.counterTags.length ≤ maxCounters

variable {buffer : List UInt8}

theorem pass1Body_tags
    {entry after : Pass1}
    (flow :
      pass1Body buffer entry = .next after ∨
      pass1Body buffer entry = .stop after)
    (fewTimers : entry.timerTags.length ≤ maxTimers)
    (fewCounters : entry.counterTags.length ≤ maxCounters) :
    TagsWithin entry after ∧
    after.timerTags.length ≤ maxTimers ∧
    after.counterTags.length ≤ maxCounters := by
  have unchanged
      (sameTimers : after.timerTags = entry.timerTags)
      (sameCounters : after.counterTags = entry.counterTags) :
      TagsWithin entry after ∧
      after.timerTags.length ≤ maxTimers ∧
      after.counterTags.length ≤ maxCounters := by
    rw [sameTimers, sameCounters]
    refine ⟨⟨?_, ?_, fewTimers, fewCounters⟩, fewTimers, fewCounters⟩
    · rw [sameTimers]
      exact List.Subset.refl _
    · rw [sameCounters]
      exact List.Subset.refl _
  have step := pass1Body_step buffer entry
  rcases flow with flow | flow
  · rw [flow] at step
    cases step with
    | timer tags room more isKind recorded =>
        have counted := recordTag_some recorded fewTimers
        exact
          ⟨⟨counted.2.1, List.Subset.refl _, fewTimers, fewCounters⟩,
            counted.2.2, fewCounters⟩
    | counter tags room more isKind recorded =>
        have counted := recordTag_some recorded fewCounters
        exact
          ⟨⟨List.Subset.refl _, counted.2.1, fewTimers, fewCounters⟩,
            fewTimers, counted.2.2⟩
    | _ => exact unchanged rfl rfl
  · rw [flow] at step
    cases step <;> exact unchanged rfl rfl

theorem pass1_tagsWithin
    {entry : Pass1}
    (fewTimers : entry.timerTags.length ≤ maxTimers)
    (fewCounters : entry.counterTags.length ≤ maxCounters) :
    let final :=
      Loop.run (fun pass : Pass1 => buffer.length - pass.pc)
        (pass1Body buffer) entry
    TagsWithin entry final ∧
    final.timerTags.length ≤ maxTimers ∧
    final.counterTags.length ≤ maxCounters := by
  intro final
  refine
    run_invariant (pass1Body_decreasing buffer)
      (fun pass =>
        TagsWithin entry pass ∧
        pass.timerTags.length ≤ maxTimers ∧
        pass.counterTags.length ≤ maxCounters)
      (fun pass =>
        TagsWithin entry pass ∧
        pass.timerTags.length ≤ maxTimers ∧
        pass.counterTags.length ≤ maxCounters)
      ?_ ?_ ?_
  · rintro pass after ⟨within, few, fewOthers⟩ flow
    have next := pass1Body_tags (Or.inl flow) few fewOthers
    exact
      ⟨⟨List.Subset.trans within.timers next.1.timers,
          List.Subset.trans within.counters next.1.counters,
          fewTimers, fewCounters⟩, next.2⟩
  · rintro pass last ⟨within, few, fewOthers⟩ flow
    have next := pass1Body_tags (Or.inr flow) few fewOthers
    exact
      ⟨⟨List.Subset.trans within.timers next.1.timers,
          List.Subset.trans within.counters next.1.counters,
          fewTimers, fewCounters⟩, next.2⟩
  · exact
      ⟨⟨List.Subset.refl _, List.Subset.refl _, fewTimers, fewCounters⟩,
        fewTimers, fewCounters⟩

/-! ## What instructions do to the tables -/

/-- The tables hold only tags that the first pass counted. -/
structure TablesWithin (final : Pass1) (machine : Machine) : Prop where
  timers : KeyedTable.KeysWithin TimerState.tagId final.timerTags machine.timers
  counters :
    KeyedTable.KeysWithin CounterState.tagId final.counterTags machine.counters

variable {opcode : Opcode}

theorem blockAction_tables
    {action : Machine → Machine}
    (isBlock : opcode.blockAction = some action) (machine : Machine) :
    (action machine).timers = machine.timers ∧
    (action machine).counters = machine.counters := by
  cases opcode <;> cases isBlock
  · rw [Machine.orBlockStart]
    split
    · exact ⟨rfl, rfl⟩
    · exact ⟨rfl, rfl⟩
  · rw [Machine.orBlockNext]
    split
    · exact ⟨rfl, rfl⟩
    · exact ⟨rfl, rfl⟩
  · rw [Machine.orBlockEnd]
    split
    · exact ⟨rfl, rfl⟩
    · exact ⟨rfl, rfl⟩

theorem mathInstruction_tables
    (result : Int → Int → Int) (tagAId : UInt16) (flagsB : UInt8)
    (operandBRaw destTagId : UInt16) (machine : Machine) :
    (mathInstruction result tagAId flagsB operandBRaw destTagId
          machine).timers = machine.timers ∧
    (mathInstruction result tagAId flagsB operandBRaw destTagId
        machine).counters = machine.counters := by
  rw [mathInstruction]
  split
  · exact ⟨rfl, rfl⟩
  · exact ⟨rfl, rfl⟩

variable {final : Pass1} {machine : Machine}

theorem resetInstruction_tables
    (within : TablesWithin final machine) (tagId : UInt16) :
    TablesWithin final (resetInstruction tagId machine) := by
  rw [resetInstruction]
  split
  · constructor
    · exact KeyedTable.modify_keysWithin within.timers tagId fun _ => rfl
    · exact KeyedTable.modify_keysWithin within.counters tagId fun _ => rfl
  · exact within

/-- Of the instructions with a tag only `RST` touches the tables. -/
theorem tagAction_sameTables
    {action : UInt16 → Machine → Machine}
    (isTag : opcode.tagAction = some action) (notReset : opcode ≠ .rst)
    (tagId : UInt16) (machine : Machine) :
    (action tagId machine).timers = machine.timers ∧
    (action tagId machine).counters = machine.counters := by
  cases opcode with
  | rst => exact absurd rfl notReset
  | set =>
      cases isTag
      rw [setInstruction]
      split
      · exact ⟨rfl, rfl⟩
      · exact ⟨rfl, rfl⟩
  | _ => cases isTag <;> exact ⟨rfl, rfl⟩

theorem tagAction_tables
    {action : UInt16 → Machine → Machine}
    (isTag : opcode.tagAction = some action)
    (within : TablesWithin final machine) (tagId : UInt16) :
    TablesWithin final (action tagId machine) := by
  by_cases isReset : opcode = .rst
  · subst isReset
    cases isTag
    exact resetInstruction_tables within tagId
  · have same := tagAction_sameTables isTag isReset tagId machine
    exact ⟨same.1 ▸ within.timers, same.2 ▸ within.counters⟩

theorem onDelayStep_tagId
    (accumulator : Bool) (preset : UInt16) (nowMs : Int)
    (timer : TimerState) :
    (onDelayStep accumulator preset nowMs timer).2.tagId =
      timer.tagId := by
  rw [onDelayStep]
  split
  · by_cases active : timer.active = true
    · simp [active]
    · simp [active]
  · rfl

theorem offDelayStep_tagId
    (accumulator : Bool) (preset : UInt16) (nowMs : Int)
    (timer : TimerState) :
    (offDelayStep accumulator preset nowMs timer).2.tagId =
      timer.tagId := by
  rw [offDelayStep]
  split
  · rfl
  · by_cases last : timer.lastAcc = true
    · simp only [last, if_true]
      split
      · rfl
      · rfl
    · simp only [last, if_false, Bool.false_eq_true]
      split
      · split
        · rfl
        · rfl
      · rfl

theorem timerInstruction_tables
    {step : Bool → UInt16 → Int → TimerState → Bool × TimerState}
    (keepsTag :
      ∀ accumulator preset nowMs timer,
        (step accumulator preset nowMs timer).2.tagId = timer.tagId)
    (within : TablesWithin final machine)
    (few : final.timerTags.length ≤ maxTimers)
    (counted : tagId ∈ final.timerTags)
    (nowMs : Int) (preset : UInt16) :
    ∃ after,
      timerInstruction step nowMs tagId preset machine = some after ∧
      TablesWithin final after := by
  rcases KeyedTable.getOrCreate_keysWithin within.timers
    TimerState.fresh (fun _ => rfl) few counted with
    ⟨timer, timers, created, _, inside⟩
  unfold timerInstruction getOrCreateTimer
  rw [created]
  refine ⟨_, rfl, ?_, within.counters⟩
  exact
    KeyedTable.modify_keysWithin inside tagId fun entry =>
      keepsTag _ _ _ entry

theorem counterInstruction_tables
    {step : Bool → UInt16 → CounterState → Bool × CounterState}
    (keepsTag :
      ∀ accumulator preset counter,
        (step accumulator preset counter).2.tagId = counter.tagId)
    (within : TablesWithin final machine)
    (few : final.counterTags.length ≤ maxCounters)
    (counted : tagId ∈ final.counterTags)
    (preset : UInt16) :
    ∃ after,
      counterInstruction step tagId preset machine = some after ∧
      TablesWithin final after := by
  rcases KeyedTable.getOrCreate_keysWithin within.counters
    CounterState.fresh (fun _ => rfl) few counted with
    ⟨counter, counters, created, _, inside⟩
  unfold counterInstruction getOrCreateCounter
  rw [created]
  refine ⟨_, rfl, within.timers, ?_⟩
  exact
    KeyedTable.modify_keysWithin inside tagId fun entry =>
      keepsTag _ _ entry

/-! ## One iteration of the interpreter -/

variable {program : List UInt8} {scan : Scan}

theorem scanBody_finished
    (outside : ¬ scan.pc < program.length) (nowMs : Int) :
    scanBody program nowMs scan = .stop scan := by
  rw [scanBody, if_neg outside]

theorem scanBody_terminated
    (inside : scan.pc < program.length)
    (isEnd : byteAt program scan.pc = terminator) (nowMs : Int) :
    scanBody program nowMs scan = .stop scan.fetch := by
  rw [scanBody, if_pos inside]
  exact if_pos isEnd

theorem scanBody_blockAction
    {action : Machine → Machine}
    (inside : scan.pc < program.length)
    (more : byteAt program scan.pc ≠ terminator)
    (decoded : Opcode.ofByte (byteAt program scan.pc) = some opcode)
    (isAction : opcode.blockAction = some action) (nowMs : Int) :
    scanBody program nowMs scan = .next (scan.fetch.act action) := by
  simp only [scanBody, if_pos inside, if_neg more, decoded,
    Option.bind_some, isAction]

theorem scanBody_block
    (inside : scan.pc < program.length)
    (more : byteAt program scan.pc ≠ terminator)
    (isKind : byteKind (byteAt program scan.pc) = some .block)
    (nowMs : Int) :
    ∃ opcode action,
      Opcode.blockAction opcode = some action ∧
      scanBody program nowMs scan = .next (scan.fetch.act action) := by
  rcases opcode_of_byteKind isKind with ⟨opcode, decoded, kind⟩
  have isBlock : ∃ action, opcode.blockAction = some action := by
    cases opcode <;> cases kind <;> exact ⟨_, rfl⟩
  rcases isBlock with ⟨action, isAction⟩
  exact
    ⟨opcode, action, isAction,
      scanBody_blockAction inside more decoded isAction nowMs⟩

theorem scanBody_operand
    (room : scan.pc + 2 < program.length)
    (more : byteAt program scan.pc ≠ terminator)
    (decoded : Opcode.ofByte (byteAt program scan.pc) = some opcode)
    (noBlock : opcode.blockAction = none) (nowMs : Int) :
    scanBody program nowMs scan =
      match opcode.mathResult with
      | some result => scanMath program result scan.fetch
      | none =>
          .next
            (scanSwitch program nowMs (some opcode)
              (wordAt program (scan.pc + 1))
              (scan.fetch.readOperands 2)) := by
  have inside : scan.pc < program.length := by omega
  have enough : ¬ scan.fetch.pc + 1 ≥ program.length := Nat.not_le.mpr room
  simp only [scanBody, if_pos inside, if_neg more, decoded,
    Option.bind_some, noBlock, if_neg enough]
  rfl

theorem scanBody_tag
    (room : scan.pc + 2 < program.length)
    (more : byteAt program scan.pc ≠ terminator)
    (isKind : byteKind (byteAt program scan.pc) = some .tag)
    (nowMs : Int) :
    ∃ opcode action,
      Opcode.tagAction opcode = some action ∧
      scanBody program nowMs scan =
        .next
          ((scan.fetch.readOperands 2).act
            (action (wordAt program (scan.pc + 1)))) := by
  rcases opcode_of_byteKind isKind with ⟨opcode, decoded, kind⟩
  refine ⟨opcode, ?_⟩
  cases opcode <;> cases kind <;>
    exact ⟨_, rfl, scanBody_operand room more decoded rfl nowMs⟩

theorem scanBody_math
    (room : scan.pc + 7 < program.length)
    (more : byteAt program scan.pc ≠ terminator)
    (isKind : byteKind (byteAt program scan.pc) = some .math)
    (nowMs : Int) :
    ∃ result,
      scanBody program nowMs scan =
        .next
          (((scan.fetch.readOperands 2).readOperands 5).act
            (mathInstruction result (wordAt program (scan.pc + 1))
              (byteAt program (scan.pc + 3))
              (wordAt program (scan.pc + 4))
              (wordAt program (scan.pc + 6)))) := by
  rcases opcode_of_byteKind isKind with ⟨opcode, decoded, kind⟩
  have short : scan.pc + 2 < program.length := by omega
  have enough : ¬ (scan.fetch.readOperands 2).pc + 4 ≥ program.length :=
    Nat.not_le.mpr room
  have noBlock : opcode.blockAction = none := by
    cases opcode <;> cases kind <;> rfl
  have isMath : ∃ result, opcode.mathResult = some result := by
    cases opcode <;> cases kind <;> exact ⟨_, rfl⟩
  rcases isMath with ⟨result, isResult⟩
  refine ⟨result, ?_⟩
  rw [scanBody_operand short more decoded noBlock nowMs, isResult]
  exact if_neg enough

theorem scanPreset_room
    (room : scan.pc + 1 < program.length)
    (opcode : Opcode) (null : ScanFault)
    {action : UInt16 → Machine → Option Machine} {after : Machine}
    (acts : action (wordAt program scan.pc) scan.machine = some after) :
    scanPreset program opcode null action scan =
      { scan.readOperands 2 with machine := after } := by
  rw [scanPreset, if_neg (Nat.not_le.mpr room), acts]

theorem scanBody_preset
    (room : scan.pc + 4 < program.length)
    (more : byteAt program scan.pc ≠ terminator)
    (decoded : Opcode.ofByte (byteAt program scan.pc) = some opcode)
    (noBlock : opcode.blockAction = none)
    (noMath : opcode.mathResult = none) {nowMs : Int} {null : ScanFault}
    {action : UInt16 → Machine → Option Machine}
    (isPreset :
      ∀ ready,
        scanSwitch program nowMs (some opcode)
            (wordAt program (scan.pc + 1)) ready =
          scanPreset program opcode null action ready)
    {after : Machine}
    (acts : action (wordAt program (scan.pc + 3)) scan.machine = some after) :
    scanBody program nowMs scan =
      .next
        { (scan.fetch.readOperands 2).readOperands 2 with
          machine := after } := by
  have short : scan.pc + 2 < program.length := by omega
  have preset : (scan.fetch.readOperands 2).pc + 1 < program.length := room
  rw [scanBody_operand short more decoded noBlock, noMath]
  exact
    congrArg Flow.next ((isPreset _).trans (scanPreset_room preset _ _ acts))

theorem scanBody_timer
    (room : scan.pc + 4 < program.length)
    (more : byteAt program scan.pc ≠ terminator)
    (isKind : byteKind (byteAt program scan.pc) = some .timer)
    (within : TablesWithin final scan.machine)
    (few : final.timerTags.length ≤ maxTimers)
    (counted : wordAt program (scan.pc + 1) ∈ final.timerTags)
    (nowMs : Int) :
    ∃ after,
      TablesWithin final after ∧
      scanBody program nowMs scan =
        .next
          { (scan.fetch.readOperands 2).readOperands 2 with
            machine := after } := by
  rcases opcode_of_byteKind isKind with ⟨opcode, decoded, kind⟩
  cases opcode <;> cases kind
  · rcases timerInstruction_tables onDelayStep_tagId within few counted
      nowMs (wordAt program (scan.pc + 3)) with ⟨after, acts, inside⟩
    exact
      ⟨after, inside,
        scanBody_preset room more decoded rfl rfl (fun _ => rfl) acts⟩
  · rcases timerInstruction_tables offDelayStep_tagId within few counted
      nowMs (wordAt program (scan.pc + 3)) with ⟨after, acts, inside⟩
    exact
      ⟨after, inside,
        scanBody_preset room more decoded rfl rfl (fun _ => rfl) acts⟩

theorem scanBody_counter
    (room : scan.pc + 4 < program.length)
    (more : byteAt program scan.pc ≠ terminator)
    (isKind : byteKind (byteAt program scan.pc) = some .counter)
    (within : TablesWithin final scan.machine)
    (few : final.counterTags.length ≤ maxCounters)
    (counted : wordAt program (scan.pc + 1) ∈ final.counterTags)
    (nowMs : Int) :
    ∃ after,
      TablesWithin final after ∧
      scanBody program nowMs scan =
        .next
          { (scan.fetch.readOperands 2).readOperands 2 with
            machine := after } := by
  rcases opcode_of_byteKind isKind with ⟨opcode, decoded, kind⟩
  cases opcode <;> cases kind
  · rcases counterInstruction_tables
      (fun _ _ _ => rfl : ∀ accumulator preset counter,
        (countUpStep accumulator preset counter).2.tagId = counter.tagId)
      within few counted (wordAt program (scan.pc + 3)) with
      ⟨after, acts, inside⟩
    exact
      ⟨after, inside,
        scanBody_preset room more decoded rfl rfl (fun _ => rfl) acts⟩
  · rcases counterInstruction_tables
      (fun _ _ _ => rfl : ∀ accumulator preset counter,
        (countDownStep accumulator preset counter).2.tagId = counter.tagId)
      within few counted (wordAt program (scan.pc + 3)) with
      ⟨after, acts, inside⟩
    exact
      ⟨after, inside,
        scanBody_preset room more decoded rfl rfl (fun _ => rfl) acts⟩

theorem scanSwitch_pc
    (program : List UInt8) (nowMs : Int) (decoded : Option Opcode)
    (tagId : UInt16) (scan : Scan) :
    scan.pc ≤ (scanSwitch program nowMs decoded tagId scan).pc := by
  have preset
      (opcode : Opcode) (null : ScanFault)
      (action : UInt16 → Machine → Option Machine) :
      scan.pc ≤ (scanPreset program opcode null action scan).pc := by
    rw [scanPreset]
    split
    · exact Nat.le_refl _
    · split
      · exact Nat.le_add_right _ _
      · exact Nat.le_add_right _ _
  unfold scanSwitch
  split
  · exact preset _ _ _
  · exact preset _ _ _
  · exact preset _ _ _
  · exact preset _ _ _
  · split
    · exact Nat.le_refl _
    · exact Nat.le_refl _

theorem scanBody_decreasing (program : List UInt8) (nowMs : Int) :
    Decreasing (fun scan : Scan => program.length - scan.pc)
      (scanBody program nowMs) := by
  intro scan after flow
  rw [scanBody] at flow
  by_cases inside : scan.pc < program.length
  · rw [if_pos inside] at flow
    simp only at flow
    have advances : scan.pc < after.pc := by
      split at flow
      · cases flow
      · split at flow
        · cases flow
          exact Nat.lt_succ_self _
        · split at flow
          · cases flow
          · split at flow
            · simp only [scanMath] at flow
              split at flow
              · cases flow
              · cases flow
                exact Nat.lt_add_of_pos_right (Nat.zero_lt_succ 7)
            · cases flow
              have forward :=
                scanSwitch_pc program nowMs
                  (Opcode.ofByte (byteAt program scan.pc))
                  (wordAt program scan.fetch.pc)
                  (scan.fetch.readOperands 2)
              exact
                Nat.lt_of_lt_of_le
                  (Nat.lt_add_of_pos_right (Nat.zero_lt_succ 2)) forward
    exact Nat.sub_lt_sub_left inside advances
  · rw [if_neg inside] at flow
    cases flow

/-! ## Lockstep -/

/-- The interpreter is where the first pass is, and nothing went wrong. -/
structure InStep (program : List UInt8) (final pass : Pass1)
    (scan : Scan) : Prop where
  samePc : scan.pc = pass.pc
  visits : scan.fetches = pass.offsets
  reads : ∀ offset ∈ scan.reads, offset < program.length
  faultless : scan.faults = []
  tables : TablesWithin final scan.machine

variable {pass : Pass1}

theorem InStep.fetch
    (inStep : InStep program final pass scan)
    (inside : pass.pc < program.length) :
    InStep program final pass.fetched scan.fetch := by
  refine ⟨?_, ?_, ?_, inStep.faultless, inStep.tables⟩
  · exact congrArg Nat.succ inStep.samePc
  · change scan.fetches ++ [scan.pc] = pass.offsets ++ [pass.pc]
    rw [inStep.visits, inStep.samePc]
  · intro offset member
    rcases List.mem_append.mp member with earlier | here
    · exact inStep.reads offset earlier
    · rw [List.mem_singleton.mp here, inStep.samePc]
      exact inside

theorem InStep.readOperands
    (inStep : InStep program final pass scan) (width : Nat)
    (room : pass.pc + width ≤ program.length) :
    InStep program final { pass with pc := pass.pc + width }
      (scan.readOperands width) := by
  refine ⟨?_, inStep.visits, ?_, inStep.faultless, inStep.tables⟩
  · exact congrArg (· + width) inStep.samePc
  · intro offset member
    rcases List.mem_append.mp member with earlier | here
    · exact inStep.reads offset earlier
    · have bound := (List.mem_range'_1.mp here).2
      rw [inStep.samePc] at bound
      omega

theorem InStep.readTagAnd
    (inStep : InStep program final pass scan) (width : Nat)
    (room : pass.pc + 3 + width ≤ program.length) :
    InStep program final
      { pass.fetched with pc := pass.pc + 1 + 2 + width }
      ((scan.fetch.readOperands 2).readOperands width) := by
  have fetched := inStep.fetch (by omega)
  have tagRead := fetched.readOperands 2 (by simp only [Pass1.fetched]; omega)
  exact tagRead.readOperands width room

theorem InStep.withMachine
    (inStep : InStep program final pass scan)
    (tables : TablesWithin final machine) :
    InStep program final pass { scan with machine := machine } :=
  ⟨inStep.samePc, inStep.visits, inStep.reads, inStep.faultless, tables⟩

theorem InStep.withTags
    (inStep : InStep program final pass scan)
    (timerTags counterTags : List UInt16) :
    InStep program final
      { pass with timerTags := timerTags, counterTags := counterTags }
      scan :=
  ⟨inStep.samePc, inStep.visits, inStep.reads, inStep.faultless, inStep.tables⟩

theorem pass1Body_scanBody
    (inStep : InStep program final pass scan)
    (fewTimers : pass.timerTags.length ≤ maxTimers)
    (fewCounters : pass.counterTags.length ≤ maxCounters)
    (ends :
      Loop.run (fun state : Pass1 => program.length - state.pc)
        (pass1Body program) pass = final)
    (well : final.result = .ok) (nowMs : Int) :
    Together
      (fun nextPass nextScan =>
        InStep program final nextPass nextScan ∧
        nextPass.timerTags.length ≤ maxTimers ∧
        nextPass.counterTags.length ≤ maxCounters)
      (fun lastPass lastScan => InStep program final lastPass lastScan)
      (pass1Body program pass) (scanBody program nowMs scan) := by
  have whole := @pass1_tagsWithin program pass fewTimers fewCounters
  rw [ends] at whole
  have samePc := inStep.samePc
  have step := pass1Body_step program pass
  cases flow : pass1Body program pass with
  | stop last =>
      rw [run_stop flow] at ends
      rw [flow] at step
      cases step with
      | finished outside =>
          rw [scanBody_finished (by rwa [samePc]) nowMs]
          exact Together.stop inStep
      | terminated inside isEnd =>
          rw [scanBody_terminated (by rwa [samePc]) (by rwa [samePc]) nowMs]
          exact Together.stop (inStep.fetch inside)
      | rejected error failure =>
          subst ends
          exact (failure well).elim
  | next after =>
      rw [run_next (pass1Body_decreasing program) flow] at ends
      have tags := pass1Body_tags (Or.inl flow) fewTimers fewCounters
      have later := @pass1_tagsWithin program after tags.2.1 tags.2.2
      rw [ends] at later
      rw [flow] at step
      cases step with
      | block inside more isKind =>
          rcases scanBody_block (by rwa [samePc]) (by rwa [samePc])
            (by rwa [samePc]) nowMs with ⟨opcode, action, isAction, body⟩
          rw [body]
          have fetched := inStep.fetch inside
          have same := blockAction_tables isAction scan.fetch.machine
          refine
            Together.goOn ⟨fetched.withMachine ⟨?_, ?_⟩, fewTimers, fewCounters⟩
          · rw [same.1]
            exact inStep.tables.timers
          · rw [same.2]
            exact inStep.tables.counters
      | tag room more isKind =>
          rcases scanBody_tag (by rwa [samePc]) (by rwa [samePc])
            (by rwa [samePc]) nowMs with ⟨opcode, action, isAction, body⟩
          rw [body]
          have fetched := inStep.fetch (by omega)
          have operands := fetched.readOperands 2 room
          exact
            Together.goOn
              ⟨operands.withMachine
                  (tagAction_tables isAction inStep.tables _),
                fewTimers, fewCounters⟩
      | timer tagsNow room more isKind recorded =>
          have counted := later.1.timers (recordTag_some recorded fewTimers).1
          rcases scanBody_timer (by rwa [samePc]) (by rwa [samePc])
            (by rwa [samePc]) inStep.tables whole.2.1
            (by rwa [samePc]) nowMs with ⟨machine, inside, body⟩
          rw [body]
          have presetRead := inStep.readTagAnd 2 room
          exact
            Together.goOn
              ⟨(presetRead.withMachine inside).withTags tagsNow
                  pass.counterTags,
                tags.2.1, fewCounters⟩
      | counter tagsNow room more isKind recorded =>
          have counted :=
            later.1.counters (recordTag_some recorded fewCounters).1
          rcases scanBody_counter (by rwa [samePc]) (by rwa [samePc])
            (by rwa [samePc]) inStep.tables whole.2.2
            (by rwa [samePc]) nowMs with ⟨machine, inside, body⟩
          rw [body]
          have presetRead := inStep.readTagAnd 2 room
          exact
            Together.goOn
              ⟨(presetRead.withMachine inside).withTags pass.timerTags
                  tagsNow,
                fewTimers, tags.2.2⟩
      | math room more isKind =>
          rcases scanBody_math (by rwa [samePc]) (by rwa [samePc])
            (by rwa [samePc]) nowMs with ⟨result, body⟩
          rw [body]
          have restRead := inStep.readTagAnd 5 room
          refine
            Together.goOn
              ⟨restRead.withMachine ⟨?_, ?_⟩, fewTimers, fewCounters⟩
          · rw [(mathInstruction_tables _ _ _ _ _ _).1]
            exact inStep.tables.timers
          · rw [(mathInstruction_tables _ _ _ _ _ _).2]
            exact inStep.tables.counters

variable {engine : LadderEngine}

theorem scanProgram_inStep
    (well : (pass1 program).result = .ok)
    (timers :
      KeyedTable.KeysWithin TimerState.tagId (pass1 program).timerTags
        engine.timers)
    (counters :
      KeyedTable.KeysWithin CounterState.tagId (pass1 program).counterTags
        engine.counters)
    (store : StateStore) (nowMs : Int) :
    InStep program (pass1 program) (pass1 program)
      (scanProgram program nowMs (startScan engine store)) := by
  refine
    @run_lockstep _ _ _ _ (fun scan : Scan => program.length - scan.pc)
      (scanBody program nowMs)
      (pass1Body_decreasing program) (scanBody_decreasing program nowMs)
      (fun pass scan =>
        InStep program (pass1 program) pass scan ∧
        pass.timerTags.length ≤ maxTimers ∧
        pass.counterTags.length ≤ maxCounters)
      (fun pass scan => InStep program (pass1 program) pass scan)
      (fun final => final = pass1 program)
      ?_ Pass1.start (startScan engine store) ?_ rfl
  · rintro pass scan ⟨inStep, fewTimers, fewCounters⟩ ends
    exact pass1Body_scanBody inStep fewTimers fewCounters ends well nowMs
  · refine
      ⟨⟨rfl, rfl, ?_, rfl, timers, counters⟩, Nat.zero_le _, Nat.zero_le _⟩
    intro offset member
    cases member

/-! ## Whole runs -/

/-- A scan in a run: the state table it finds and the clock it reads. -/
structure ScanInput where
  store : StateStore
  clockUs : Int

/-- `ladder_engine_run` as a component. -/
def ladderScan (engine : LadderEngine) (input : ScanInput) :
    LadderEngine × LadderRun :=
  let run := ladderEngineRun engine input.store input.clockUs
  (run.engine, run)

/-- The engine holds an accepted program and only tables for its tags. -/
structure Follows (program : List UInt8) (engine : LadderEngine) : Prop where
  holds : engine.bytecode = program
  present : engine.hasProgram = true
  timers :
    KeyedTable.KeysWithin TimerState.tagId (pass1 program).timerTags
      engine.timers
  counters :
    KeyedTable.KeysWithin CounterState.tagId (pass1 program).counterTags
      engine.counters

theorem Follows.runs
    (follows : Follows program engine)
    (accepted : validateProgram program = .ok) :
    ¬ (engine.hasProgram = false ∨ engine.bytecode.length < codeStart) := by
  rw [follows.present, follows.holds]
  rintro (absent | short)
  · cases absent
  · exact Nat.not_le_of_gt short (validateProgram_ok accepted).1

theorem ladderScan_follows
    (accepted : validateProgram program = .ok)
    (follows : Follows program engine)
    (input : ScanInput) :
    Follows program (ladderScan engine input).1 ∧
    (ladderScan engine input).2.fetches = (pass1 program).offsets ∧
    (∀ offset ∈ (ladderScan engine input).2.reads, offset < program.length) ∧
    (ladderScan engine input).2.faults = [] := by
  have runs := follows.runs accepted
  rcases follows with ⟨rfl, present, timers, counters⟩
  have inStep :=
    scanProgram_inStep (validateProgram_ok accepted).2.2 timers counters
      input.store (input.clockUs.tdiv 1000)
  simp only [ladderScan, ladderEngineRun, if_neg runs]
  exact
    ⟨⟨rfl, present, inStep.tables.timers, inStep.tables.counters⟩,
      inStep.visits, inStep.reads, inStep.faultless⟩

theorem ladderEngineLoadProgram_follows
    (engine : LadderEngine) (blob : LadderBlob)
    (erased stored : NvsOutcome)
    (accepted :
      (ladderEngineLoadProgram engine blob buffer erased stored).1 = .ok) :
    validateProgram buffer = .ok ∧
    Follows buffer
      (ladderEngineLoadProgram engine blob buffer erased
        stored).2.1 := by
  have valid : validateProgram buffer = .ok :=
    (ladderEngineLoadProgram_result engine blob erased stored).symm.trans
      accepted
  refine ⟨valid, ?_⟩
  rw [ladderEngineLoadProgram_accepted engine blob erased stored valid]
  exact
    ⟨rfl, rfl, KeyedTable.empty_keysWithin _ _, KeyedTable.empty_keysWithin _ _⟩

/--
The validator and the interpreter agree: in every scan after an accepted
load, whatever the state tables and clocks are, the interpreter fetches the
opcodes that the first pass visited, reads inside the program and takes no
defensive exit.
-/
theorem ladder_scans_follow_validator
    (engine : LadderEngine) (blob : LadderBlob) (buffer : List UInt8)
    (erased stored : NvsOutcome)
    (accepted :
      (ladderEngineLoadProgram engine blob buffer erased stored).1 = .ok)
    (inputs : List ScanInput) :
    ∀ transition ∈
        Run.history ladderScan
          (ladderEngineLoadProgram engine blob buffer erased stored).2.1
          inputs,
      transition.output.fetches = (pass1 buffer).offsets ∧
      (∀ offset ∈ transition.output.reads,
        offset < transition.before.bytecode.length) ∧
      transition.output.faults = [] := by
  rcases ladderEngineLoadProgram_follows engine blob erased stored
    accepted with ⟨valid, start⟩
  intro transition member
  rcases Run.history_invariant (Follows buffer) start
    (fun state input follows => (ladderScan_follows valid follows input).1)
    member with ⟨follows, isCall⟩
  have scan := ladderScan_follows valid follows transition.action
  rw [isCall]
  refine ⟨scan.2.1, ?_, scan.2.2.2⟩
  intro offset read
  change offset < transition.before.bytecode.length
  rw [follows.holds]
  exact scan.2.2.1 offset read

/-- `LD 10`, `TON 100` with a preset of one second, `ST 101`. -/
def delayedOutput : List UInt8 :=
  [0x45, 0x4E, 0x44, 0x50, 0x01, 0x01, 0x00, 0x0A, 0x30, 0x00, 0x64, 0x03,
    0xE8, 0x10, 0x00, 0x65, 0xFF]

/-- Two scans of a program with a timer. -/
theorem ladder_scans_follow_validator_delayedOutput :
    validateProgram delayedOutput = .ok ∧
    ∀ transition ∈
        Run.history ladderScan
          (ladderEngineLoadProgram LadderEngine.cleared none
            delayedOutput .committed .committed).2.1
          [⟨stateInit, 0⟩, ⟨stateInit, 1000⟩],
      transition.output.fetches = [5, 8, 13, 16] ∧
      (∀ offset ∈ transition.output.reads,
        offset < transition.before.bytecode.length) ∧
      transition.output.faults = [] := by
  have offsets : (pass1 delayedOutput).offsets = [5, 8, 13, 16] := by
    decide +kernel
  rw [← offsets]
  constructor
  · decide +kernel
  · exact
      ladder_scans_follow_validator LadderEngine.cleared none
        delayedOutput .committed .committed (by decide +kernel) _

end Endap.Ladder
