import Endap.Library.Delimited
import Endap.Rs485.Codec

/-!
# The frame parser of the receive path

The parser keeps the bytes stored since the last `<`, whether it is inside a
frame, and whether a finished frame waits to be fetched.  `frame` is the
first `index` bytes of the static buffer, so `index` is its length.

The parser stores at most `PARSER_MAX_FRAME` bytes.  It is related to the
unbounded receiver of delimited streams by truncation: between two frames its
state is computed from what that receiver is collecting.
-/

namespace Endap.Rs485.FrameParser

open Endap.Library
open Endap.Rs485.Codec

def parserMaxFrame : Nat := 192

/-- The static state of the parser. -/
structure Parser where
  frame : List UInt8
  receiving : Bool
  frameReady : Bool

def parserInit : Parser where
  frame := []
  receiving := false
  frameReady := false

def parserProcessByte (parser : Parser) (byte : UInt8) : Bool × Parser :=
  if byte = startByte then
    (false, { parser with receiving := true, frame := [] })
  else if parser.receiving = false then (false, parser)
  else if byte = endByte then
    (true, { parser with frameReady := true, receiving := false })
  else if parser.frame.length < parserMaxFrame then
    (false, { parser with frame := parser.frame ++ [byte] })
  else (false, parser)

/-- `parser_get_frame`: the bytes copied out and the parser afterwards. -/
def parserGetFrame (parser : Parser) (maxLen : Nat) : List UInt8 × Parser :=
  if parser.frameReady = false then ([], parser)
  else
    (parser.frame.take maxLen, { parser with frameReady := false, frame := [] })

/--
The loop of `rs485_engine_receive` that feeds received bytes.  It stops after
the first `>` that ends a frame.
-/
def parserFeed : Parser → List UInt8 → Parser
  | parser, [] => parser
  | parser, byte :: rest =>
      if (parserProcessByte parser byte).1 = true then
        (parserProcessByte parser byte).2
      else parserFeed (parserProcessByte parser byte).2 rest

/-! ## The size bound -/

/-- The number of stored bytes does not exceed the buffer. -/
def Bounded (parser : Parser) : Prop := parser.frame.length ≤ parserMaxFrame

theorem parserInit_bounded : Bounded parserInit := Nat.zero_le _

theorem parserProcessByte_bounded
    {parser : Parser} (bounded : Bounded parser) (byte : UInt8) :
    Bounded (parserProcessByte parser byte).2 := by
  unfold Bounded parserProcessByte
  split
  · exact Nat.zero_le _
  · split
    · exact bounded
    · split
      · exact bounded
      · split
        · rename_i room
          change (parser.frame ++ [byte]).length ≤ parserMaxFrame
          rw [List.length_append]
          exact room
        · exact bounded

theorem parserFeed_bounded
    {parser : Parser} (bounded : Bounded parser) (chunk : List UInt8) :
    Bounded (parserFeed parser chunk) := by
  induction chunk generalizing parser with
  | nil => exact bounded
  | cons byte rest induction =>
      have next := parserProcessByte_bounded bounded byte
      rw [parserFeed]
      split
      · exact next
      · exact induction next

/-! ## The parser as a truncated receiver -/

/-- The parser between two frames, from what the receiver collects. -/
def parserOf : Option (List UInt8) → Parser
  | none => parserInit
  | some body =>
      { frame := body.take parserMaxFrame
        receiving := true
        frameReady := false }

/-- The parser when a body has just been delivered. -/
def parserHolding (body : List UInt8) : Parser where
  frame := body.take parserMaxFrame
  receiving := false
  frameReady := true

theorem parserProcessByte_collect
    (body : List UInt8) (byte : UInt8)
    (notStart : byte ≠ startByte) (notEnd : byte ≠ endByte) :
    parserProcessByte (parserOf (some body)) byte =
      (false, parserOf (some (body ++ [byte]))) := by
  by_cases room : body.length < parserMaxFrame
  · have stored : body.take parserMaxFrame = body :=
      List.take_of_length_le (by omega)
    have storedLonger : (body ++ [byte]).take parserMaxFrame = body ++ [byte] :=
      List.take_of_length_le (by
        rw [List.length_append]
        exact room)
    simp [parserProcessByte, parserOf, notStart, notEnd, stored,
      storedLonger, room]
  · have full :
        ¬ (body.take parserMaxFrame).length < parserMaxFrame := by
      rw [List.length_take]
      omega
    have storedLonger :
        (body ++ [byte]).take parserMaxFrame = body.take parserMaxFrame :=
      List.take_append_of_le_length (by omega)
    simp only [parserProcessByte, parserOf, notStart, notEnd, full,
      storedLonger, if_false, Bool.true_eq_false]

theorem parserProcessByte_parserOf
    (collecting : Option (List UInt8)) (byte : UInt8) :
    (∃ next,
        Delimited.receive startByte endByte collecting byte = (next, none) ∧
        parserProcessByte (parserOf collecting) byte = (false, parserOf next)) ∨
      ∃ body,
        byte = endByte ∧
        collecting = some body ∧
        parserProcessByte (parserOf collecting) byte =
          (true, parserHolding body) := by
  by_cases isStart : byte = startByte
  · left
    subst byte
    cases collecting <;> exact ⟨some [], rfl, rfl⟩
  · cases collecting with
    | none =>
        left
        refine ⟨none, ?_, ?_⟩
        · simp [Delimited.receive, isStart]
        · simp [parserProcessByte, parserOf, parserInit, isStart]
    | some body =>
        by_cases isEnd : byte = endByte
        · right
          subst byte
          exact ⟨body, rfl, rfl, rfl⟩
        · left
          refine ⟨some (body ++ [byte]), ?_, ?_⟩
          · simp [Delimited.receive, isStart, isEnd]
          · exact parserProcessByte_collect body byte isStart isEnd

/-- What feeding one chunk does. -/
inductive Feeding (collecting : Option (List UInt8)) (chunk : List UInt8) :
    Parser → Prop where
  /-- No frame ends in the chunk and every byte is fed. -/
  | quiet
      (silent : Delimited.deliveries startByte endByte collecting chunk = []) :
      Feeding collecting chunk
        (parserOf (Delimited.receiveAll startByte endByte collecting chunk))
  /-- The first frame of the chunk ends with the fed part; the rest is not
  fed. -/
  | ended
      (body fed skipped : List UInt8)
      (split : chunk = fed ++ endByte :: skipped)
      (silent : Delimited.deliveries startByte endByte collecting fed = [])
      (collected :
        Delimited.receiveAll startByte endByte collecting fed = some body) :
      Feeding collecting chunk (parserHolding body)

theorem parserFeed_feeding
    (collecting : Option (List UInt8)) (chunk : List UInt8) :
    Feeding collecting chunk
      (parserFeed (parserOf collecting) chunk) := by
  induction chunk generalizing collecting with
  | nil => exact Feeding.quiet rfl
  | cons byte rest induction =>
      rcases parserProcessByte_parserOf collecting byte with
        ⟨next, received, processed⟩ | ⟨body, rfl, rfl, processed⟩
      · have tail := induction next
        rw [parserFeed, processed, if_neg (by simp)]
        change
          Feeding collecting (byte :: rest) (parserFeed (parserOf next) rest)
        revert tail
        generalize parserFeed (parserOf next) rest = fedParser
        intro tail
        cases tail with
        | quiet silent =>
            have whole := @Feeding.quiet collecting (byte :: rest)
            simp only [Delimited.deliveries, Delimited.receiveAll,
              received, Option.toList_none, List.nil_append] at whole
            exact whole silent
        | ended body fed skipped split silent collected =>
            refine
              Feeding.ended body (byte :: fed) skipped (by simp [split]) ?_ ?_
            · simp only [Delimited.deliveries, received,
                Option.toList_none, List.nil_append]
              exact silent
            · simp only [Delimited.receiveAll, received]
              exact collected
      · rw [parserFeed, processed, if_pos rfl]
        exact Feeding.ended body [] rest rfl rfl rfl

end Endap.Rs485.FrameParser
