import Endap.Library.KeyedTable
import Endap.State.Store

/-!
# Ladder instructions

The machine on which ladder bytecode acts: an accumulator, a stack for OR
blocks, the state table, and the tables of timers and counters.  Each
instruction is a function on this machine; how instructions are laid out in
the program is the business of the interpreter.

The stack is kept with its top first, so `stack_ptr` is its length.
-/

namespace Endap.Ladder

open Endap.Library
open Endap.State

def maxTimers : Nat := 16

def maxCounters : Nat := 16

def maxStack : Nat := 16

/-! ## Opcodes -/

/-- The opcodes of the compiler. -/
inductive Opcode where
  | ld
  | ldn
  | and
  | andn
  | or
  | orn
  | st
  | set
  | rst
  | orBlockStart
  | orBlockNext
  | orBlockEnd
  | ton
  | tof
  | ctu
  | ctd
  | equ
  | grt
  | les
  | add
  | sub
  | mul
  | div
deriving DecidableEq

/-- The byte of an opcode. -/
def Opcode.byte : Opcode → UInt8
  | .ld => 0x01
  | .ldn => 0x02
  | .and => 0x03
  | .andn => 0x04
  | .or => 0x05
  | .orn => 0x06
  | .st => 0x10
  | .set => 0x11
  | .rst => 0x12
  | .orBlockStart => 0x20
  | .orBlockNext => 0x21
  | .orBlockEnd => 0x22
  | .ton => 0x30
  | .tof => 0x31
  | .ctu => 0x32
  | .ctd => 0x33
  | .equ => 0x40
  | .grt => 0x41
  | .les => 0x42
  | .add => 0x50
  | .sub => 0x51
  | .mul => 0x52
  | .div => 0x53

/-- All opcodes, in the order of their bytes. -/
def Opcode.all : List Opcode :=
  [.ld, .ldn, .and, .andn, .or, .orn, .st, .set, .rst, .orBlockStart,
    .orBlockNext, .orBlockEnd, .ton, .tof, .ctu, .ctd, .equ, .grt, .les,
    .add, .sub, .mul, .div]

/-- The opcode of a byte. -/
def Opcode.ofByte (byte : UInt8) : Option Opcode :=
  Opcode.all.find? fun opcode => opcode.byte = byte

/-- The byte that ends a program. -/
def terminator : UInt8 := 0xFF

/-! ## Timers and counters -/

structure TimerState where
  tagId : UInt16
  active : Bool
  lastAcc : Bool
  startTimeMs : Int

structure CounterState where
  tagId : UInt16
  lastAcc : Bool
  currentCount : Int32

/-- The table of timers. -/
abbrev TimerTable := KeyedTable TimerState maxTimers

/-- The table of counters. -/
abbrev CounterTable := KeyedTable CounterState maxCounters

/-- A timer that was just created. -/
def TimerState.fresh (tagId : UInt16) : TimerState where
  tagId := tagId
  active := false
  lastAcc := false
  startTimeMs := 0

/-- A counter that was just created. -/
def CounterState.fresh (tagId : UInt16) : CounterState where
  tagId := tagId
  lastAcc := false
  currentCount := 0

/-- `get_or_create_timer`; `none` stands for `NULL`. -/
def getOrCreateTimer (timers : TimerTable) (tagId : UInt16) :
    Option (TimerState × TimerTable) :=
  timers.getOrCreate TimerState.tagId TimerState.fresh tagId

/-- `get_or_create_counter`; `none` stands for `NULL`. -/
def getOrCreateCounter (counters : CounterTable) (tagId : UInt16) :
    Option (CounterState × CounterTable) :=
  counters.getOrCreate CounterState.tagId CounterState.fresh tagId

/-- `TON` on its timer: the output and the timer afterwards. -/
def onDelayStep (accumulator : Bool) (presetMs : UInt16) (nowMs : Int)
    (timer : TimerState) : Bool × TimerState :=
  if accumulator then
    let started :=
      if timer.active then timer
      else { timer with active := true, startTimeMs := nowMs }
    (decide (nowMs - started.startTimeMs ≥ presetMs.toNat), started)
  else (false, { timer with active := false })

/-- `TOF` on its timer: the output and the timer afterwards. -/
def offDelayStep (accumulator : Bool) (presetMs : UInt16) (nowMs : Int)
    (timer : TimerState) : Bool × TimerState :=
  if accumulator then
    (true, { timer with active := false, lastAcc := true })
  else
    let edged :=
      if timer.lastAcc then
        { timer with active := true, startTimeMs := nowMs }
      else timer
    if edged.active then
      if nowMs - edged.startTimeMs ≥ presetMs.toNat then
        (false, { edged with active := false, lastAcc := false })
      else (true, { edged with lastAcc := true })
    else (false, { edged with lastAcc := false })

/-- `CTU` on its counter: the output and the counter afterwards. -/
def countUpStep (accumulator : Bool) (presetCnt : UInt16)
    (counter : CounterState) : Bool × CounterState :=
  let counted :=
    if accumulator && !counter.lastAcc then counter.currentCount + 1
    else counter.currentCount
  (decide (counted.toInt ≥ presetCnt.toNat),
    { counter with currentCount := counted, lastAcc := accumulator })

/-- `CTD` on its counter: the output and the counter afterwards. -/
def countDownStep (accumulator : Bool) (presetCnt : UInt16)
    (counter : CounterState) : Bool × CounterState :=
  let reloaded :=
    if counter.currentCount = 0 then Int32.ofNat presetCnt.toNat
    else counter.currentCount
  let counted :=
    if accumulator && !counter.lastAcc && decide (reloaded > 0) then
      reloaded - 1
    else reloaded
  (decide (counted = 0),
    { counter with currentCount := counted, lastAcc := accumulator })

/-! ## The machine -/

/-- What ladder instructions act on. -/
structure Machine where
  accumulator : Bool
  stack : List (Bool × Bool)
  store : StateStore
  timers : TimerTable
  counters : CounterTable

def Machine.orBlockStart (machine : Machine) : Machine :=
  if machine.stack.length < maxStack then
    { machine with stack := (machine.accumulator, false) :: machine.stack }
  else machine

def Machine.orBlockNext (machine : Machine) : Machine :=
  match machine.stack with
  | [] => machine
  | (logic, or) :: rest =>
      { machine with
        stack := (logic, or || machine.accumulator) :: rest
        accumulator := logic }

def Machine.orBlockEnd (machine : Machine) : Machine :=
  match machine.stack with
  | [] => machine
  | (_, or) :: rest =>
      { machine with
        stack := rest
        accumulator := or || machine.accumulator }

/-- The stack instructions, which have no operand. -/
def Opcode.blockAction : Opcode → Option (Machine → Machine)
  | .orBlockStart => some Machine.orBlockStart
  | .orBlockNext => some Machine.orBlockNext
  | .orBlockEnd => some Machine.orBlockEnd
  | _ => none

/-- The 64-bit result of an arithmetic instruction. -/
def Opcode.mathResult : Opcode → Option (Int → Int → Int)
  | .add => some fun left right => left + right
  | .sub => some fun left right => left - right
  | .mul => some fun left right => left * right
  | .div => some fun left right => if right = 0 then 0 else left.tdiv right
  | _ => none

/-- Saturation to 32 bits. -/
def saturate (result : Int) : Int32 :=
  if result > 2147483647 then Int32.ofInt 2147483647
  else if result < -2147483648 then Int32.ofInt (-2147483648)
  else Int32.ofInt result

/-- The second operand of an arithmetic instruction. -/
def mathOperand (store : StateStore) (flagsB : UInt8)
    (operandBRaw : UInt16) : Int32 :=
  if flagsB = 0 then stateValue store operandBRaw
  else if flagsB = 1 then operandBRaw.toInt16.toInt32
  else 0

/-- `ADD`, `SUB`, `MUL` and `DIV`. -/
def mathInstruction (result : Int → Int → Int) (tagAId : UInt16)
    (flagsB : UInt8) (operandBRaw destTagId : UInt16) (machine : Machine) :
    Machine :=
  if machine.accumulator then
    { machine with
      store :=
        stateSetInt machine.store destTagId
          (saturate
            (result (stateValue machine.store tagAId).toInt
              (mathOperand machine.store flagsB operandBRaw).toInt)) }
  else machine

def resetTimerOrCounter (tagId : UInt16) (machine : Machine) : Machine :=
  { machine with
    timers :=
      machine.timers.modify TimerState.tagId tagId fun timer =>
        { timer with active := false, lastAcc := false, startTimeMs := 0 }
    counters :=
      machine.counters.modify CounterState.tagId tagId fun counter =>
        { counter with lastAcc := false, currentCount := 0 } }

/-- A condition of the accumulator with the value of a tag. -/
def combine (condition : Bool → Int32 → Bool) (tagId : UInt16)
    (machine : Machine) : Machine :=
  { machine with
    accumulator :=
      condition machine.accumulator (stateValue machine.store tagId) }

/-- `ST`. -/
def storeInstruction (tagId : UInt16) (machine : Machine) : Machine :=
  { machine with
    store :=
      stateSetInt machine.store tagId (if machine.accumulator then 1 else 0) }

/-- `SET`. -/
def setInstruction (tagId : UInt16) (machine : Machine) : Machine :=
  if machine.accumulator then
    { machine with store := stateSetInt machine.store tagId 1 }
  else machine

/-- `RST`. -/
def resetInstruction (tagId : UInt16) (machine : Machine) : Machine :=
  if machine.accumulator then
    resetTimerOrCounter tagId
      { machine with store := stateSetInt machine.store tagId 0 }
  else machine

/-- The instructions with a tag and no preset. -/
def Opcode.tagAction : Opcode → Option (UInt16 → Machine → Machine)
  | .ld => some (combine fun _ value => decide (value > 0))
  | .ldn => some (combine fun _ value => !decide (value > 0))
  | .and => some (combine fun acc value => acc && decide (value > 0))
  | .andn => some (combine fun acc value => acc && !decide (value > 0))
  | .or => some (combine fun acc value => acc || decide (value > 0))
  | .orn => some (combine fun acc value => acc || !decide (value > 0))
  | .st => some storeInstruction
  | .set => some setInstruction
  | .rst => some resetInstruction
  | .equ => some (combine fun acc value => acc && decide (value = 0))
  | .grt => some (combine fun acc value => acc && decide (value > 0))
  | .les => some (combine fun acc value => acc && decide (value < 0))
  | _ => none

/-- The output of a timer or counter goes to its tag and the accumulator. -/
def Machine.output (machine : Machine) (tagId : UInt16) (done : Bool) :
    Machine :=
  { machine with
    accumulator := done
    store := stateSetInt machine.store tagId (if done then 1 else 0) }

/-- `TON` and `TOF`, from what they do to their timer. -/
def timerInstruction
    (step : Bool → UInt16 → Int → TimerState → Bool × TimerState)
    (nowMs : Int) (tagId preset : UInt16) (machine : Machine) :
    Option Machine :=
  match getOrCreateTimer machine.timers tagId with
  | none => none
  | some (timer, timers) =>
      some
        ({ machine with
            timers :=
              timers.modify TimerState.tagId tagId fun entry =>
                (step machine.accumulator preset nowMs entry).2 }.output
          tagId (step machine.accumulator preset nowMs timer).1)

/-- `CTU` and `CTD`, from what they do to their counter. -/
def counterInstruction
    (step : Bool → UInt16 → CounterState → Bool × CounterState)
    (tagId preset : UInt16) (machine : Machine) : Option Machine :=
  match getOrCreateCounter machine.counters tagId with
  | none => none
  | some (counter, counters) =>
      some
        ({ machine with
            counters :=
              counters.modify CounterState.tagId tagId fun entry =>
                (step machine.accumulator preset entry).2 }.output
          tagId (step machine.accumulator preset counter).1)

end Endap.Ladder
