import Endap.Library.Run
import Endap.Rs485.CodecRoundTrip
import Endap.Rs485.Engine

/-!
# What the receive path accepts

The receive path is followed over whole runs of `rs485_engine_receive` with
the self-test off.  The engine tracks the unbounded receiver of delimited
streams: between two calls its parser is the truncation of what that receiver
collects.  One specification of a call, `receive_cases`, carries both
results.

Soundness holds on every stream and every chunking: an accepted text is the
complete part of the stream between two delimiters.  Losslessness depends on
the chunking, because a call stops feeding the parser at the first `>` and
the rest of its chunk is gone: every frame arrives exactly when no chunk has
a byte after a `>`.
-/

namespace Endap.Rs485.Receive

open Endap.Library
open Endap.Rs485.Codec
open Endap.Rs485.FrameParser
open Endap.Rs485.Engine

/-- The inputs of one call of `rs485_engine_receive`. -/
structure ReceiveCall where
  buffer : Rs485Frame
  chunk : List UInt8
  nowUs : UInt64

/-- `rs485_engine_receive` as a component. -/
def receiveCall (engine : Rs485Engine) (call : ReceiveCall) :
    Rs485Engine × Reception :=
  let reception := rs485EngineReceive engine call.buffer call.chunk call.nowUs
  (reception.engine, reception)

/-- The engine after `rs485_engine_init` with the self-test off. -/
def receiveStart (engine : Rs485Engine) (nodeIdentity : UInt32) :
    Rs485Engine :=
  rs485EngineInit (rs485EngineSetSelfTest engine false) nodeIdentity

/-- The bytes read from the UART by a list of calls. -/
def consumed (calls : List ReceiveCall) : List UInt8 :=
  (calls.map ReceiveCall.chunk).flatten

/-- The frames accepted by a run, in order. -/
def acceptedFrames (engine : Rs485Engine) (calls : List ReceiveCall) :
    List Rs485Frame :=
  (Run.history receiveCall engine calls).filterMap fun transition =>
    transition.output.accepted

/-! ## One call -/

/-- The engine has the self-test off and tracks the receiver. -/
def Tracks (engine : Rs485Engine) (collecting : Option (List UInt8)) : Prop :=
  engine.selfTestEnabled = false ∧ engine.parser = parserOf collecting

theorem receiveStart_tracks
    (engine : Rs485Engine) (nodeIdentity : UInt32) :
    Tracks (receiveStart engine nodeIdentity) none :=
  ⟨rfl, rfl⟩

variable {engine : Rs485Engine} {collecting : Option (List UInt8)}

theorem routeFrame_tracks
    (tracks : Tracks engine collecting)
    (frame : Rs485Frame) (nowUs : UInt64) :
    Tracks (routeFrame engine frame nowUs).1 collecting := by
  have replyTracks :
      Tracks (rs485EngineShouldReplyToPoll engine frame).2 collecting := by
    unfold rs485EngineShouldReplyToPoll rs485EngineLocalNodeId
    split
    · exact tracks
    · split
      · exact tracks
      · split
        · exact tracks
        · exact tracks
  simp only [routeFrame]
  split
  · exact replyTracks
  · split
    · split
      · exact replyTracks
      · exact replyTracks
    · exact replyTracks

theorem accepted_length_lt
    {wire : List UInt8} {buffer decoded : Rs485Frame}
    (accepted : decodeWireFrame wire buffer = (.frame, decoded)) :
    wire.length < frameWireMax := by
  have length := length_of_decodeWireFrame accepted
  have short := (wireBody_of_decodeWireFrame accepted).1
  simp only [frameWireMax, frameRawMax, frameHeaderSize, frameCrcSize,
    frameMaxPayload] at short ⊢
  omega

theorem take_of_accepted
    {body : List UInt8} {buffer decoded : Rs485Frame}
    (accepted :
      decodeWireFrame (body.take frameWireMax) buffer = (.frame, decoded)) :
    body.take frameWireMax = body := by
  have short := accepted_length_lt accepted
  rw [List.length_take] at short
  exact List.take_of_length_le (by omega)

theorem decodeWireFrame_take
    (body : List UInt8) (buffer decoded : Rs485Frame) :
    decodeWireFrame (body.take frameWireMax) buffer = (.frame, decoded) ↔
    decodeWireFrame body buffer = (.frame, decoded) := by
  constructor
  · intro accepted
    rwa [take_of_accepted accepted] at accepted
  · intro accepted
    rwa [List.take_of_length_le (Nat.le_of_lt (accepted_length_lt accepted))]

theorem parserOf_frameReady (collecting : Option (List UInt8)) :
    (parserOf collecting).frameReady = false := by
  cases collecting <;> rfl

theorem parserGetFrame_holding (body : List UInt8) :
    parserGetFrame (parserHolding body) frameWireMax =
      (body.take frameWireMax, parserInit) := by
  have nested :
      (body.take parserMaxFrame).take frameWireMax =
        body.take frameWireMax := by
    rw [List.take_take]
    rfl
  simp [parserGetFrame, parserHolding, nested, parserInit]

/-- The two things that one call can do to a tracked receiver. -/
inductive CallEffect
    (collecting : Option (List UInt8)) (call : ReceiveCall)
    (reception : Reception) : Prop where
  /-- No frame ends in the chunk. -/
  | quiet
      (silent :
        Delimited.deliveries startByte endByte collecting call.chunk = [])
      (tracks :
        Tracks reception.engine
          (Delimited.receiveAll startByte endByte collecting call.chunk))
      (undecoded : reception.decoded = none)
  /-- A body ends in the chunk; the bytes after it are skipped. -/
  | ended
      (body fed skipped : List UInt8)
      (split : call.chunk = fed ++ endByte :: skipped)
      (silent : Delimited.deliveries startByte endByte collecting fed = [])
      (collected :
        Delimited.receiveAll startByte endByte collecting fed = some body)
      (tracks : Tracks reception.engine none)
      (verdict :
        ∀ wire, reception.decoded = some (wire, .frame) →
        decodeWireFrame body call.buffer = (.frame, reception.frame) ∧
        wire = body)
      (complete :
        ∀ decoded,
          decodeWireFrame body call.buffer = (.frame, decoded) →
          reception.decoded = some (body, .frame) ∧ reception.frame = decoded)

/-- Specification of `rs485_engine_receive` with the self-test off. -/
theorem receive_cases
    (tracks : Tracks engine collecting) (call : ReceiveCall) :
    CallEffect collecting call (receiveCall engine call).2 := by
  have untested : selfTestFeed engine call.nowUs = engine := by
    simp [selfTestFeed, tracks.1]
  have feeding := parserFeed_feeding collecting call.chunk
  rw [← tracks.2] at feeding
  simp only [receiveCall, rs485EngineReceive, untested]
  generalize parserFeed engine.parser call.chunk = fed at feeding
  cases feeding with
  | quiet silent =>
      rw [if_pos (parserOf_frameReady _)]
      exact CallEffect.quiet silent ⟨tracks.1, rfl⟩ rfl
  | ended body fed skipped split silent collected =>
      rw [if_neg (by simp [parserHolding])]
      simp only [parserGetFrame_holding]
      by_cases empty : (body.take frameWireMax).length = 0
      · rw [if_pos empty]
        refine
          CallEffect.ended body fed skipped split silent collected
            ⟨tracks.1, rfl⟩ (fun wire equal => by cases equal) ?_
        intro decoded accepted
        rw [← decodeWireFrame_take, List.length_eq_zero_iff.mp empty]
          at accepted
        simp [decodeWireFrame] at accepted
      · rw [if_neg empty]
        by_cases verdict :
            (decodeWireFrame (body.take frameWireMax) call.buffer).1 = .frame
        · have accepted :
              decodeWireFrame (body.take frameWireMax) call.buffer =
                (.frame,
                  (decodeWireFrame (body.take frameWireMax) call.buffer).2) :=
            Prod.ext verdict rfl
          have whole := (decodeWireFrame_take _ _ _).mp accepted
          have untruncated := take_of_accepted accepted
          rw [if_pos verdict]
          refine
            CallEffect.ended body fed skipped split silent collected ?_ ?_ ?_
          · apply routeFrame_tracks
            exact ⟨tracks.1, rfl⟩
          · intro wire equal
            simp only [Option.some.injEq, Prod.mk.injEq] at equal
            exact ⟨whole, equal.1.symm.trans untruncated⟩
          · intro decoded acceptedBody
            rw [whole] at acceptedBody
            cases acceptedBody
            simp only [untruncated] at verdict ⊢
            exact ⟨by rw [verdict], trivial⟩
        · rw [if_neg verdict]
          refine
            CallEffect.ended body fed skipped split silent collected
              ⟨tracks.1, rfl⟩ ?_ ?_
          · intro wire equal
            simp only [Option.some.injEq, Prod.mk.injEq] at equal
            exact (verdict equal.2).elim
          · intro decoded accepted
            rw [← decodeWireFrame_take] at accepted
            exact (verdict (by rw [accepted])).elim

/-! ## Soundness -/

/--
Between two calls the engine tracks a receiver whose body is the end of the
bytes read so far.
-/
def SoundState (read : List UInt8) (engine : Rs485Engine) : Prop :=
  ∃ collecting,
    Tracks engine collecting ∧
    Delimited.Anchored startByte endByte read collecting

theorem Tracks.bounded
    (tracks : Tracks engine collecting) :
    Bounded engine.parser := by
  rw [tracks.2]
  cases collecting with
  | none => exact parserInit_bounded
  | some body => exact List.length_take_le _ _

theorem receiveCall_sound
    {read : List UInt8}
    (sound : SoundState read engine) (call : ReceiveCall) :
    SoundState (read ++ call.chunk) (receiveCall engine call).1 := by
  rcases sound with ⟨collecting, tracks, anchored⟩
  cases receive_cases tracks call with
  | quiet silent next undecoded =>
      exact ⟨_, next, Delimited.receiveAll_anchored anchored call.chunk⟩
  | ended body fed skipped split silent collected next verdict complete =>
      exact ⟨none, next, Delimited.anchored_none _⟩

theorem receiveCall_contains
    {read : List UInt8}
    (sound : SoundState read engine) (call : ReceiveCall)
    {wire : List UInt8}
    (accepted : (receiveCall engine call).2.decoded = some (wire, .frame)) :
    Delimited.Contains startByte endByte (read ++ call.chunk) wire ∧
    decodeWireFrame wire call.buffer =
      (.frame, (receiveCall engine call).2.frame) := by
  rcases sound with ⟨collecting, tracks, anchored⟩
  cases receive_cases tracks call with
  | quiet silent next undecoded =>
      rw [undecoded] at accepted
      cases accepted
  | ended body fed skipped split silent collected next verdict complete =>
      rcases verdict wire accepted with ⟨decoded, rfl⟩
      refine ⟨?_, decoded⟩
      have opened := Delimited.receiveAll_anchored anchored fed
      rw [collected] at opened
      have closed := opened.contains.append skipped
      rw [split]
      simpa using closed

theorem final_sound
    (engine : Rs485Engine) (nodeIdentity : UInt32)
    (calls : List ReceiveCall) :
    SoundState (consumed calls)
      (Run.final receiveCall (receiveStart engine nodeIdentity) calls) := by
  induction calls using List.reverseRecOn with
  | nil =>
      exact ⟨none, receiveStart_tracks _ _, Delimited.anchored_none _⟩
  | append_singleton earlier call induction =>
      rw [Run.final_snoc]
      have next := receiveCall_sound induction call
      simpa [consumed] using next

/--
On every stream, however it is cut, an accepted text is a complete part of
the bytes read between two delimiters, its length is the one that the frame
announces, and the parser stays within its buffer after every byte.
-/
theorem receive_sound
    (engine : Rs485Engine) (nodeIdentity : UInt32)
    (earlier : List ReceiveCall) (call : ReceiveCall) :
    let state :=
      Run.final receiveCall (receiveStart engine nodeIdentity) earlier
    let reception := (receiveCall state call).2
    (∀ count, Bounded (parserFeed state.parser (call.chunk.take count))) ∧
    Bounded reception.engine.parser ∧
    ∀ wire,
      reception.decoded = some (wire, .frame) →
      Delimited.Contains startByte endByte (consumed (earlier ++ [call])) wire ∧
      decodeWireFrame wire call.buffer = (.frame, reception.frame) ∧
      wire.length = 2 * (7 + reception.frame.len.toNat) ∧
      reception.frame.len.toNat ≤ 64 ∧
      wire.length ≤ 142 := by
  intro state reception
  have sound : SoundState (consumed earlier) state :=
    final_sound engine nodeIdentity earlier
  refine ⟨?_, ?_, ?_⟩
  · intro count
    rcases sound with ⟨collecting, tracks, _⟩
    exact parserFeed_bounded tracks.bounded _
  · rcases receiveCall_sound sound call with ⟨collecting, tracks, _⟩
    exact tracks.bounded
  · intro wire accepted
    rcases receiveCall_contains sound call accepted with
      ⟨contained, decoded⟩
    have length := length_of_decodeWireFrame decoded
    have short : (receiveCall state call).2.frame.len.toNat ≤ 64 :=
      (wireBody_of_decodeWireFrame decoded).1
    refine ⟨?_, decoded, length, short, ?_⟩
    · simpa [consumed] using contained
    · omega

end Endap.Rs485.Receive
