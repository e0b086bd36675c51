import Endap.Rs485.Receive

/-!
# When the receive path loses no frame

A call of `rs485_engine_receive` stops feeding the parser at the first `>`
that ends a frame, and what follows it in the chunk is never fed.  On a bus
that carries encoded frames back to back this decides which chunkings are
harmless: every frame arrives exactly when no chunk has a byte after a `>`.

One direction follows the receiver of delimited streams call by call.  The
other counts delimiters: an accepted frame uses up one `<` and one `>` of its
own, so a call that skips a delimiter leaves too few for the remaining
frames.
-/

namespace Endap.Rs485.Delivery

open Endap.Library
open Endap.Rs485.Codec
open Endap.Rs485.FrameParser
open Endap.Rs485.Engine
open Endap.Rs485.Receive

/-- The bytes on the bus when the frames are sent one after the other. -/
def busStream (frames : List Rs485Frame) : List UInt8 :=
  (frames.map fun frame =>
    (encodeWireFrame frame frameWireMax).getD []).flatten

/-- No byte of the chunk follows a `>`. -/
def ClosingLast (chunk : List UInt8) : Prop :=
  ∀ before after, chunk = before ++ endByte :: after → after = []

/-! ## The bus as a delimited stream -/

theorem start_ne_end : startByte ≠ endByte := by
  decide

theorem wireBody_plain (frame : Rs485Frame) :
    Delimited.Plain startByte endByte (wireBody frame) :=
  hexCode_write_not_delimiter _

theorem wireBodies_plain (frames : List Rs485Frame) :
    ∀ body ∈ frames.map wireBody,
      Delimited.Plain startByte endByte body := by
  intro body member
  rcases List.mem_map.mp member with ⟨frame, _, rfl⟩
  exact wireBody_plain frame

theorem busStream_eq
    {frames : List Rs485Frame}
    (short : ∀ frame ∈ frames, frame.len.toNat ≤ frameMaxPayload) :
    busStream frames =
      Delimited.stream startByte endByte (frames.map wireBody) := by
  have encoded :
      (frames.map fun frame =>
          (encodeWireFrame frame frameWireMax).getD []) =
        frames.map fun frame =>
          Delimited.enclose startByte endByte (wireBody frame) := by
    apply List.map_congr_left
    intro frame member
    rw [encodeWireFrame_eq frame frameWireMax (Nat.le_refl _),
      if_pos (short frame member)]
    rfl
  rw [busStream, encoded, Delimited.stream, List.map_map]
  rfl

/-! ## A harmless chunking delivers every frame -/

theorem acceptedFrames_cons
    (engine : Rs485Engine) (call : ReceiveCall)
    (rest : List ReceiveCall) :
    acceptedFrames engine (call :: rest) =
      (receiveCall engine call).2.accepted.toList ++
        acceptedFrames (receiveCall engine call).1 rest := by
  simp only [acceptedFrames, Run.history, Run.call]
  cases accepted : (receiveCall engine call).2.accepted with
  | _ => simp [accepted]

theorem consumed_cons (call : ReceiveCall) (rest : List ReceiveCall) :
    consumed (call :: rest) = call.chunk ++ consumed rest :=
  rfl

theorem accepted_none
    {reception : Reception} (undecoded : reception.decoded = none) :
    reception.accepted = none := by
  simp [Reception.accepted, undecoded]

theorem accepted_some
    {reception : Reception} {wire : List UInt8}
    (decoded : reception.decoded = some (wire, .frame)) :
    reception.accepted = some reception.frame := by
  simp [Reception.accepted, decoded]

variable {engine : Rs485Engine} {collecting : Option (List UInt8)}

theorem acceptedFrames_of_deliveries
    (tracks : Tracks engine collecting)
    {calls : List ReceiveCall}
    (closing : ∀ call ∈ calls, ClosingLast call.chunk)
    {frames : List Rs485Frame}
    (short : ∀ frame ∈ frames, frame.len.toNat ≤ frameMaxPayload)
    (delivered :
      Delimited.deliveries startByte endByte collecting (consumed calls) =
        frames.map wireBody) :
    List.Forall₂ Rs485Frame.SameMessage
      (acceptedFrames engine calls) frames := by
  induction calls generalizing engine collecting frames with
  | nil =>
      have noFrames : frames = [] := List.map_eq_nil_iff.mp delivered.symm
      rw [noFrames]
      exact List.Forall₂.nil
  | cons call rest induction =>
      have restClosing : ∀ other ∈ rest, ClosingLast other.chunk :=
        fun other member => closing other (List.mem_cons_of_mem _ member)
      rw [consumed_cons, Delimited.deliveries_append] at delivered
      rw [acceptedFrames_cons]
      cases receive_cases tracks call with
      | quiet silent next undecoded =>
          rw [silent, List.nil_append] at delivered
          rw [accepted_none undecoded]
          exact induction next restClosing short delivered
      | ended body fed skipped split silent collected next verdict
          complete =>
          have noneSkipped : skipped = [] :=
            closing call (List.mem_cons_self ..) fed skipped split
          subst skipped
          have closed :
              Delimited.receive startByte endByte (some body) endByte =
                (none, some body) := by
            simp [Delimited.receive, start_ne_end.symm]
          have chunkDelivered :
              Delimited.deliveries startByte endByte collecting
                call.chunk = [body] := by
            rw [split, Delimited.deliveries_append, silent, collected]
            simp [Delimited.deliveries, closed]
          have idle :
              Delimited.receiveAll startByte endByte collecting
                call.chunk = none := by
            rw [split, Delimited.receiveAll_append, collected]
            simp [Delimited.receiveAll, closed]
          rw [chunkDelivered, idle] at delivered
          cases frames with
          | nil => simp at delivered
          | cons frame others =>
              rcases List.cons.inj delivered with ⟨rfl, restDelivered⟩
              have frameShort := short frame (List.mem_cons_self ..)
              rcases decodeWireFrame_wireBody frame call.buffer frameShort
                with ⟨decoded, accepted, same⟩
              rcases complete decoded accepted with ⟨decodedHere, rfl⟩
              rw [accepted_some decodedHere]
              refine List.Forall₂.cons same ?_
              exact
                induction next restClosing
                  (fun other member =>
                    short other (List.mem_cons_of_mem _ member))
                  restDelivered

/-! ## A skipped delimiter costs a frame -/

/-- The number of delimiters in a list of bytes. -/
def delimiterCount (bytes : List UInt8) : Nat :=
  bytes.count startByte + bytes.count endByte

theorem delimiterCount_append (first second : List UInt8) :
    delimiterCount (first ++ second) =
      delimiterCount first + delimiterCount second := by
  simp only [delimiterCount, List.count_append]
  omega

theorem accepted_length_le (reception : Reception) :
    reception.accepted.toList.length ≤ 1 := by
  cases reception.accepted <;> simp

theorem closingLast_of_not_mem
    {chunk : List UInt8} (absent : endByte ∉ chunk) :
    ClosingLast chunk := by
  intro before after split
  exact (absent (by simp [split])).elim

theorem closingLast_snoc
    {fed : List UInt8} (absent : endByte ∉ fed) :
    ClosingLast (fed ++ [endByte]) := by
  intro before after split
  rcases List.append_eq_append_iff.mp split with
    ⟨shared, _, tail⟩ | ⟨shared, head, tail⟩
  · cases shared with
    | nil => simpa using tail.symm
    | cons byte others => simp at tail
  · cases shared with
    | nil => simpa using tail
    | cons byte others =>
        rcases List.cons.inj tail with ⟨rfl, _⟩
        exact (absent (by simp [head])).elim

theorem closingLast_of_dropLast
    {chunk : List UInt8} (absent : endByte ∉ chunk.dropLast) :
    ClosingLast chunk := by
  rcases List.eq_nil_or_concat chunk with rfl | ⟨fed, last, rfl⟩
  · exact closingLast_of_not_mem absent
  · rw [List.concat_eq_append, List.dropLast_concat] at absent
    rw [List.concat_eq_append]
    by_cases closes : last = endByte
    · rw [closes]
      exact closingLast_snoc absent
    · apply closingLast_of_not_mem
      rw [List.mem_append, List.mem_singleton, not_or]
      exact ⟨absent, Ne.symm closes⟩

/--
Delimiters used by one call.  A call with a byte after a `>` leaves at least
one delimiter unused.
-/
theorem receiveCall_delimiters
    (tracks : Tracks engine collecting) (call : ReceiveCall)
    (chain : List.IsChain (Delimited.Follows startByte endByte) call.chunk) :
    ∃ next,
      Tracks (receiveCall engine call).1 next ∧
      2 * (receiveCall engine call).2.accepted.toList.length +
          Delimited.pending next ≤
        Delimited.pending collecting + delimiterCount call.chunk ∧
      (¬ ClosingLast call.chunk →
      2 * (receiveCall engine call).2.accepted.toList.length +
          Delimited.pending next <
        Delimited.pending collecting + delimiterCount call.chunk) := by
  cases receive_cases tracks call with
  | quiet silent next undecoded =>
      have opened :=
        @Delimited.deliveries_count_opening _ _ startByte endByte
          collecting call.chunk
      rw [silent] at opened
      rw [accepted_none undecoded]
      refine ⟨_, next, ?_, ?_⟩
      · simp only [delimiterCount, Option.toList_none,
          List.length_nil] at opened ⊢
        omega
      · intro violated
        have member : endByte ∈ call.chunk := by
          by_contra absent
          exact violated (closingLast_of_not_mem absent)
        have closings := List.count_pos_iff.mpr member
        simp only [delimiterCount, Option.toList_none,
          List.length_nil] at opened ⊢
        omega
  | ended body fed skipped split silent collected next verdict complete =>
      have opened :=
        @Delimited.deliveries_count_opening _ _ startByte endByte collecting fed
      rw [silent, collected] at opened
      have single := accepted_length_le (receiveCall engine call).2
      have total :
          delimiterCount call.chunk =
            delimiterCount fed + 1 + delimiterCount skipped := by
        rw [split, delimiterCount_append]
        simp only [delimiterCount, List.count_cons_self,
          List.count_cons_of_ne start_ne_end.symm]
        omega
      refine ⟨none, next, ?_, ?_⟩
      · simp only [delimiterCount, Delimited.pending, Option.isSome_some,
          Option.isSome_none, if_true, List.length_nil] at opened total ⊢
        simp only [Bool.false_eq_true, if_false] at opened ⊢
        omega
      · intro violated
        have unused : 0 < fed.count endByte + skipped.count startByte := by
          cases skipped with
          | cons byte later =>
              rw [split, List.isChain_append] at chain
              have isStart : byte = startByte :=
                (List.isChain_cons_cons.mp chain.2.1).1 rfl
              subst byte
              rw [List.count_cons_self]
              omega
          | nil =>
              have member : endByte ∈ fed := by
                by_contra absent
                apply violated
                rw [split]
                exact closingLast_snoc absent
              exact Nat.add_pos_left (List.count_pos_iff.mpr member) _
        simp only [delimiterCount, Delimited.pending, Option.isSome_some,
          Option.isSome_none, if_true, List.length_nil] at opened total ⊢
        simp only [Bool.false_eq_true, if_false] at opened ⊢
        omega

theorem acceptedFrames_delimiters
    (tracks : Tracks engine collecting)
    {calls : List ReceiveCall}
    (chain :
      List.IsChain (Delimited.Follows startByte endByte) (consumed calls)) :
    2 * (acceptedFrames engine calls).length ≤
        Delimited.pending collecting + delimiterCount (consumed calls) ∧
    ∀ call ∈ calls, ¬ ClosingLast call.chunk →
    2 * (acceptedFrames engine calls).length <
      Delimited.pending collecting +
        delimiterCount (consumed calls) := by
  induction calls generalizing engine collecting with
  | nil => simp [acceptedFrames, Run.history]
  | cons call rest induction =>
      rw [consumed_cons, List.isChain_append] at chain
      rcases receiveCall_delimiters tracks call chain.1 with
        ⟨next, nextTracks, used, unused⟩
      have tail := induction nextTracks chain.2.1
      rw [acceptedFrames_cons, consumed_cons, delimiterCount_append,
        List.length_append]
      constructor
      · have head := tail.1
        omega
      · intro other member violated
        rcases List.mem_cons.mp member with rfl | later
        · have here := unused violated
          have head := tail.1
          omega
        · have there := tail.2 other later violated
          omega

/--
A bus that carries encoded frames back to back is received without loss
exactly when the chunking never puts a byte after a `>`.
-/
theorem receive_lossless_iff
    (engine : Rs485Engine) (nodeIdentity : UInt32)
    (frames : List Rs485Frame) (calls : List ReceiveCall)
    (short : ∀ frame ∈ frames, frame.len.toNat ≤ frameMaxPayload)
    (bus : consumed calls = busStream frames) :
    List.Forall₂ Rs485Frame.SameMessage
        (acceptedFrames (receiveStart engine nodeIdentity) calls)
        frames ↔
    ∀ call ∈ calls, ClosingLast call.chunk := by
  have tracks := receiveStart_tracks engine nodeIdentity
  have plain := wireBodies_plain frames
  rw [busStream_eq short] at bus
  constructor
  · intro complete call member
    by_contra violated
    have chain := Delimited.follows_stream start_ne_end _ plain
    rw [← bus] at chain
    have unused :=
      (acceptedFrames_delimiters tracks chain).2 call member violated
    have counts := Delimited.count_stream start_ne_end _ plain
    have length := complete.length_eq
    rw [bus, delimiterCount, counts.1, counts.2, List.length_map,
      length] at unused
    simp only [Delimited.pending, Option.isSome_none, Bool.false_eq_true,
      if_false] at unused
    omega
  · intro closing
    apply acceptedFrames_of_deliveries tracks closing short
    rw [bus]
    exact Delimited.deliveries_stream start_ne_end _ plain

def callsOf (chunks : List (List UInt8)) : List ReceiveCall :=
  chunks.map fun chunk =>
    { buffer := Rs485Frame.zero, chunk := chunk, nowUs := 0 }

theorem callsOf_closing
    {chunks : List (List UInt8)}
    (absent : ∀ chunk ∈ chunks, endByte ∉ chunk.dropLast) :
    ∀ call ∈ callsOf chunks, ClosingLast call.chunk := by
  intro call member
  rcases List.mem_map.mp member with ⟨chunk, isChunk, rfl⟩
  exact closingLast_of_dropLast (absent chunk isChunk)

def twoFrames : List Rs485Frame :=
  [{ Rs485Frame.zero with node := 1, type := 1 },
    { node := 2
      msgId := 7
      type := 3
      len := 3
      payload := Vector.ofFn fun index => UInt8.ofNat (10 * index) }]

def twoFramesPieces : List (List UInt8) :=
  let stream := busStream twoFrames
  [stream.take 5, (stream.drop 5).take 11, (stream.drop 16).take 10,
    stream.drop 26]

/-- Both frames are received. -/
theorem receive_lossless_iff_pieces :
    List.Forall₂ Rs485Frame.SameMessage
      (acceptedFrames (receiveStart staticEngine 0) (callsOf twoFramesPieces))
      twoFrames := by
  refine
    (receive_lossless_iff staticEngine 0 twoFrames
      (callsOf twoFramesPieces) ?_ ?_).mpr ?_
  · decide
  · decide +kernel
  · exact callsOf_closing (by decide +kernel)

/--
Two frames sent back to back and read as 8, 16 and 8 bytes: the second chunk
holds the end of the first frame and the start of the second, which is lost.
-/
theorem receive_loses_second_frame :
    ¬ ∀ (engine : Rs485Engine) (nodeIdentity : UInt32)
        (frames : List Rs485Frame) (calls : List ReceiveCall),
        (∀ frame ∈ frames, frame.len.toNat ≤ frameMaxPayload) →
        (∀ call ∈ calls, call.chunk.length ≤ rxBytesPerCall) →
        consumed calls = busStream frames →
        List.Forall₂ Rs485Frame.SameMessage
          (acceptedFrames (receiveStart engine nodeIdentity) calls)
          frames := by
  intro lossless
  have lossless :=
    lossless staticEngine 0 [Rs485Frame.zero, Rs485Frame.zero]
      (callsOf
        [(busStream [Rs485Frame.zero, Rs485Frame.zero]).take 8,
          ((busStream [Rs485Frame.zero, Rs485Frame.zero]).drop 8).take 16,
          (busStream [Rs485Frame.zero, Rs485Frame.zero]).drop 24])
      (by decide) (by decide +kernel) (by decide +kernel)
  have length := lossless.length_eq
  revert length
  decide +kernel

end Endap.Rs485.Delivery
