import Endap.Http.Query
import Endap.Library.Search

/-!
# The response of the control proxy

The proxy reads the response of a remote node in pieces, as `recv` returns
them, into one array that is used again for each piece.  Until the end of the
headers is found it also collects the pieces in a buffer.  When the end is
found there, it is searched for once more in the array, which is not a text:
behind the piece stands what the array held before, and behind that whatever
lies in memory.  The pieces that follow are passed on as they are.

The main theorem says exactly for which responses, pieces and contents of the
array what is passed on is the body.
-/

namespace Endap.Http

open Endap.Library

/-- The end of the headers. -/
def crlfCrlf : List UInt8 := [13, 10, 13, 10]

/-! ## The status -/

/-- `%d` of `sscanf`: the number and the rest of the text. -/
def scanInteger (text : List UInt8) : Option (Int × List UInt8) :=
  let start := text.dropWhile isSpace
  let digits :=
    match start with
    | [] => []
    | sign :: rest => if sign = 45 ∨ sign = 43 then rest else start
  if digits.takeWhile isDigit = [] then none
  else some (integerValue text, digits.dropWhile isDigit)

/-- The number that `"HTTP/1.%*d %d"` reads, or 200. -/
def httpStatus (header : List UInt8) : Int :=
  if CText.bytes "HTTP/1." <+: header then
    match scanInteger (header.drop 7) with
    | none => 200
    | some (_, rest) =>
        match scanInteger rest with
        | none => 200
        | some (status, _) => max (-2147483648) (min 2147483647 status)
  else 200

/-- The status that is set for the client. -/
def statusText (status : Int) : List UInt8 :=
  if status = 409 then CText.bytes "409 Conflict"
  else if status = 404 then CText.bytes "404 Not Found"
  else if status = 503 then CText.bytes "503 Service Unavailable"
  else if status ≥ 400 then
    Lines.decimal status.toNat ++ CText.bytes " Error"
  else CText.bytes "200 OK"

/-! ## The loop -/

/-- The variables of the loop of `control_proxy_handler`: the array `chunk`,
what is in use of `header_buf`, the status, and the pieces that were sent. -/
structure ProxyReading where
  headersParsed : Bool
  headerBuf : List UInt8
  chunk : List UInt8
  status : List UInt8
  sent : List (List UInt8)

/-- The variables before the loop. -/
def ProxyReading.start (chunk : List UInt8) : ProxyReading where
  headersParsed := false
  headerBuf := []
  chunk := chunk
  status := []
  sent := []

/-- The array after a piece was received into it. -/
def receiveInto (chunk piece : List UInt8) : List UInt8 :=
  piece ++ chunk.drop piece.length

/-- `header_buf` with as much of a piece as it has room for. -/
def appendHeader (headerBuf piece : List UInt8) : List UInt8 :=
  headerBuf ++
    piece.take
      (if headerBuf.length + piece.length > 1023 then 1023 - headerBuf.length
      else piece.length)

/-- A piece that is sent, unless it is empty. -/
def ProxyReading.send (reading : ProxyReading) (piece : List UInt8) :
    ProxyReading :=
  if 0 < piece.length then
    { reading with sent := reading.sent ++ [piece] }
  else reading

/-- One iteration of the loop; `behind` is what lies in memory behind the
array. -/
def proxyStep (behind : List UInt8) (reading : ProxyReading)
    (piece : List UInt8) : ProxyReading :=
  let received := { reading with chunk := receiveInto reading.chunk piece }
  if reading.headersParsed then
    { received with sent := reading.sent ++ [piece] }
  else
    let headerBuf := appendHeader reading.headerBuf piece
    match Search.find crlfCrlf (CText.upToZero headerBuf) with
    | none => { received with headerBuf := headerBuf }
    | some hdrEnd =>
        let parsed :=
          { received with
            headersParsed := true
            headerBuf := headerBuf
            status := statusText (httpStatus (CText.upToZero headerBuf)) }
        match
          Search.find crlfCrlf
            (CText.upToZero (received.chunk ++ behind)) with
        | some chunkHdrEnd => parsed.send (piece.drop (chunkHdrEnd + 4))
        | none => parsed.send (headerBuf.drop (hdrEnd + 4))

/-- The answer of `control_proxy_handler` once the request was sent: the
status with the pieces of the body, or `504 Gateway Timeout` with the error
`REMOTE_NO_RESPONSE`. -/
inductive ProxyAnswer where
  | forwarded (status : List UInt8) (pieces : List (List UInt8))
  | remoteNoResponse

/-- What an answer passes on of the body. -/
def ProxyAnswer.body : ProxyAnswer → List UInt8
  | .forwarded _ pieces => pieces.flatten
  | .remoteNoResponse => []

/-- The variables after the pieces that `recv` returns before it ends. -/
def proxyRead (chunk behind : List UInt8) (pieces : List (List UInt8)) :
    ProxyReading :=
  pieces.foldl (proxyStep behind) (.start chunk)

/-- The part of `control_proxy_handler` that passes the response on. -/
def controlProxyForward
    (chunk behind : List UInt8) (pieces : List (List UInt8)) : ProxyAnswer :=
  let reading := proxyRead chunk behind pieces
  if reading.headersParsed then .forwarded reading.status reading.sent
  else .remoteNoResponse

/-! ## Responses -/

/-- The block of headers of a response: it is not too long, and the first end
of headers is the one behind it. -/
structure HeaderBlock (header : List UInt8) : Prop where
  short : header.length ≤ 1000
  noInner :
    ∀ place < header.length, ¬ crlfCrlf <+: (header ++ crlfCrlf).drop place

/-- The pieces before the one that has the given number of bytes complete,
and that one. -/
def completing (count : Nat) :
    List (List UInt8) → List (List UInt8) × List UInt8
  | [] => ([], [])
  | piece :: rest =>
      if count ≤ piece.length then ([], piece)
      else
        let later := completing (count - piece.length) rest
        (piece :: later.1, later.2)

/-- The array holds no end of headers, neither in the piece nor in what stands
behind it. -/
def NoEndInArray (chunk behind : List UInt8) (earlier : List (List UInt8))
    (piece : List UInt8) : Prop :=
  Search.find crlfCrlf
      (CText.upToZero
        (receiveInto (earlier.foldl receiveInto chunk) piece ++ behind)) =
    none

/-- There is no body, or no zero in the headers and a good piece completes
them: one in which the end of the headers also begins, or one without any of
the body, or one that fits into the buffer and leaves no end of headers in the
array. -/
def ForwardsIntact
    (header body chunk behind : List UInt8) (pieces : List (List UInt8)) :
    Prop :=
  body = [] ∨
  0 ∉ header ∧
  let part := completing (header.length + 4) pieces
  let start := part.1.flatten.length
  start ≤ header.length ∨
  start + part.2.length = header.length + 4 ∨
  (start + part.2.length ≤ 1023 ∧ NoEndInArray chunk behind part.1 part.2)

/-! ## The pieces -/

/-- A piece that completes a number of bytes ends behind it and begins before
its end. -/
theorem completing_spec
    {count : Nat} (positive : 0 < count) {pieces : List (List UInt8)}
    (enough : count ≤ pieces.flatten.length) :
    ∃ later,
      pieces =
          (completing count pieces).1 ++ (completing count pieces).2 :: later ∧
      (completing count pieces).1.flatten.length < count ∧
      count ≤
        (completing count pieces).1.flatten.length +
          (completing count pieces).2.length := by
  induction pieces generalizing count with
  | nil =>
      rw [List.flatten_nil, List.length_nil] at enough
      omega
  | cons piece rest induction =>
      rw [completing]
      split
      · next ends => exact ⟨rest, rfl, positive, by simpa using ends⟩
      · next more =>
          rw [List.flatten_cons, List.length_append] at enough
          have left : 0 < count - piece.length := by omega
          rcases induction left (by omega) with ⟨later, same, before, ends⟩
          refine ⟨later, congrArg (piece :: ·) same, ?_, ?_⟩
          · simp only [List.flatten_cons, List.length_append]
            omega
          · simp only [List.flatten_cons, List.length_append]
            omega

theorem appendHeader_take (received piece : List UInt8) :
    appendHeader (received.take 1023) piece =
      (received ++ piece).take 1023 := by
  rw [appendHeader, List.take_append, List.length_take]
  by_cases full : 1023 ≤ received.length
  · rw [Nat.min_eq_left full]
    congr 2
    split <;> omega
  · have fits : received.length ≤ 1023 := by omega
    rw [Nat.min_eq_right fits]
    congr 1
    split
    · rfl
    · next short =>
        rw [List.take_of_length_le le_rfl, List.take_of_length_le (by omega)]

theorem proxyRead_unparsed
    {chunk behind : List UInt8} {pieces : List (List UInt8)}
    (unseen :
      ∀ front, front <+: pieces.flatten →
      Search.find crlfCrlf (CText.upToZero (front.take 1023)) = none) :
    proxyRead chunk behind pieces =
      { headersParsed := false
        headerBuf := pieces.flatten.take 1023
        chunk := pieces.foldl receiveInto chunk
        status := []
        sent := [] } := by
  induction pieces using List.reverseRecOn with
  | nil => rfl
  | append_singleton earlier piece induction =>
      have here := unseen _ (List.prefix_refl _)
      rw [List.flatten_append, List.flatten_singleton] at unseen here
      have before := induction fun front begins =>
        unseen front (begins.trans (List.prefix_append _ _))
      rw [proxyRead, List.foldl_append, ← proxyRead, before]
      simp only [List.foldl_cons, List.foldl_nil, proxyStep,
        Bool.false_eq_true, if_false, appendHeader_take, here,
        List.foldl_append, List.flatten_append, List.flatten_singleton]

theorem proxyStep_parsed
    (behind : List UInt8) {reading : ProxyReading}
    (parsed : reading.headersParsed = true) (pieces : List (List UInt8)) :
    (pieces.foldl (proxyStep behind) reading).headersParsed = true ∧
    (pieces.foldl (proxyStep behind) reading).sent =
      reading.sent ++ pieces := by
  induction pieces generalizing reading with
  | nil => exact ⟨parsed, (List.append_nil _).symm⟩
  | cons piece rest induction =>
      have step :
          proxyStep behind reading piece =
            { reading with
              chunk := receiveInto reading.chunk piece
              sent := reading.sent ++ [piece] } := by
        rw [proxyStep, if_pos parsed]
      rw [List.foldl_cons, step]
      have rest' :=
        @induction
          { reading with
            chunk := receiveInto reading.chunk piece
            sent := reading.sent ++ [piece] }
          parsed
      exact ⟨rest'.1, rest'.2.trans (List.append_assoc _ _ _)⟩

theorem ProxyReading.send_flatten
    (reading : ProxyReading) (piece : List UInt8) :
    (reading.send piece).sent.flatten = reading.sent.flatten ++ piece ∧
    (reading.send piece).headersParsed = reading.headersParsed := by
  rw [ProxyReading.send]
  split
  · exact ⟨by simp, rfl⟩
  · next empty =>
      rw [List.length_eq_zero_iff.mp (by omega : piece.length = 0)]
      exact ⟨(List.append_nil _).symm, rfl⟩

/-! ## Responses -/

section

variable {header : List UInt8}

theorem HeaderBlock.found (block : HeaderBlock header) :
    Search.find crlfCrlf (header ++ crlfCrlf) = some header.length := by
  refine (Search.find_eq_some_iff _).mpr ⟨?_, ?_, block.noInner⟩
  · rw [List.drop_left]
  · rw [List.length_append]
    omega

variable {body : List UInt8}

theorem HeaderBlock.response (block : HeaderBlock header) :
    Search.find crlfCrlf (header ++ crlfCrlf ++ body) = some header.length :=
  Search.find_of_prefix (List.prefix_append _ _) block.found

variable {front : List UInt8}

theorem HeaderBlock.unseen
    (block : HeaderBlock header)
    (begins : front <+: header ++ crlfCrlf ++ body)
    (short : front.length < header.length + 4) :
    Search.find crlfCrlf (CText.upToZero (front.take 1023)) = none := by
  have isFront :=
    (CText.upToZero_front (front.take 1023)).trans (List.take_prefix ..)
  refine Search.find_prefix_eq_none (isFront.trans begins) block.response ?_
  exact lt_of_le_of_lt isFront.length_le short

theorem HeaderBlock.unseen_of_zero
    (block : HeaderBlock header) (hasZero : 0 ∈ header)
    (begins : front <+: header ++ crlfCrlf ++ body) :
    Search.find crlfCrlf (CText.upToZero (front.take 1023)) = none := by
  have isFront :=
    (CText.upToZero_front (front.take 1023)).trans (List.take_prefix ..)
  refine Search.find_prefix_eq_none (isFront.trans begins) block.response ?_
  by_contra long
  have inText : header <+: CText.upToZero (front.take 1023) := by
    refine List.prefix_of_prefix_length_le ?_ (isFront.trans begins) ?_
    · rw [List.append_assoc]
      exact List.prefix_append _ _
    · omega
  exact CText.zero_notMem_upToZero _ (inText.subset hasZero)

/-- Without a zero in the headers their end is found as soon as they are
complete. -/
theorem HeaderBlock.seen
    (block : HeaderBlock header) (noZero : 0 ∉ header)
    (begins : front <+: header ++ crlfCrlf ++ body)
    (long : header.length + 4 ≤ front.length) :
    Search.find crlfCrlf (CText.upToZero (front.take 1023)) =
      some header.length := by
  have short := block.short
  have inFront : header ++ crlfCrlf <+: front.take 1023 := by
    refine List.prefix_of_prefix_length_le (List.prefix_append _ body)
      ((List.take_prefix ..).trans begins) ?_
    rw [List.length_append, List.length_take]
    change header.length + 4 ≤ _
    omega
  have clean : 0 ∉ header ++ crlfCrlf := by
    simpa [crlfCrlf] using noZero
  rcases inFront with ⟨rest, isRest⟩
  rw [← isRest, CText.upToZero_append clean]
  exact Search.find_of_prefix (List.prefix_append _ _) block.found

end

/-! ## The piece that completes the headers -/

/-- The pieces up to the one that completes the headers, and the response
around them. -/
structure Completes (header body : List UInt8)
    (earlier : List (List UInt8)) (piece : List UInt8)
    (later : List (List UInt8)) : Prop where
  whole :
    (earlier.flatten ++ piece) ++ later.flatten = header ++ crlfCrlf ++ body
  before : earlier.flatten.length < header.length + 4
  ends : header.length + 4 ≤ earlier.flatten.length + piece.length

section

variable {header body piece : List UInt8}
    {earlier later : List (List UInt8)}

theorem Completes.body_eq
    (completes : Completes header body earlier piece later) :
    piece.drop (header.length + 4 - earlier.flatten.length) ++ later.flatten =
      body := by
  have before := completes.before
  have ends := completes.ends
  have dropped := congrArg (List.drop (header.length + 4)) completes.whole
  rw [List.drop_append_of_le_length
      (by rw [List.length_append]; exact ends),
    List.drop_append, List.drop_eq_nil_of_le before.le, List.nil_append,
    List.drop_left' (by simp [crlfCrlf])] at dropped
  exact dropped

theorem Completes.begins
    (completes : Completes header body earlier piece later) :
    earlier.flatten ++ piece <+: header ++ crlfCrlf ++ body :=
  ⟨later.flatten, completes.whole⟩

/-- A piece in which the end of the headers begins has it first, whatever
stands behind the piece. -/
theorem Completes.found_in_array
    (completes : Completes header body earlier piece later)
    (block : HeaderBlock header) (noZero : 0 ∉ header)
    (within : earlier.flatten.length ≤ header.length)
    (chunk behind : List UInt8) :
    Search.find crlfCrlf (CText.upToZero (receiveInto chunk piece ++ behind)) =
      some (header.length - earlier.flatten.length) := by
  have ends := completes.ends
  have clean : 0 ∉ (header ++ crlfCrlf).drop earlier.flatten.length := by
    intro member
    have inside := List.mem_of_mem_drop member
    simp [crlfCrlf, noZero] at inside
  have inPiece :
      (header ++ crlfCrlf).drop earlier.flatten.length <+: piece := by
    have here :
        (header ++ crlfCrlf).drop earlier.flatten.length <+:
          (earlier.flatten ++ piece).drop earlier.flatten.length := by
      refine List.IsPrefix.drop ?_ _
      refine List.prefix_of_prefix_length_le (List.prefix_append _ body)
        completes.begins ?_
      rw [List.length_append, List.length_append]
      exact ends
    rwa [List.drop_left] at here
  rcases inPiece with ⟨rest, isRest⟩
  have memory :
      receiveInto chunk piece ++ behind =
        (header ++ crlfCrlf).drop earlier.flatten.length ++
          (rest ++ (chunk.drop piece.length ++ behind)) := by
    rw [receiveInto, ← List.append_assoc, isRest, List.append_assoc]
  rw [memory, CText.upToZero_append clean]
  exact Search.find_of_prefix (List.prefix_append _ _)
    (Search.find_drop_eq_some block.found within)

/-- What the piece that completes the headers has sent of itself. -/
def sentOfCompleting
    (header chunk behind : List UInt8) (earlier : List (List UInt8))
    (piece : List UInt8) : List UInt8 :=
  match
    Search.find crlfCrlf
      (CText.upToZero
        (receiveInto (earlier.foldl receiveInto chunk) piece ++ behind)) with
  | some chunkHdrEnd => piece.drop (chunkHdrEnd + 4)
  | none =>
      ((earlier.flatten ++ piece).take 1023).drop (header.length + 4)

/-- Without a zero in the headers the answer is what that piece sends of
itself and the later pieces. -/
theorem Completes.forwarded
    (completes : Completes header body earlier piece later)
    (block : HeaderBlock header) (noZero : 0 ∉ header)
    (chunk behind : List UInt8) :
    (controlProxyForward chunk behind (earlier ++ piece :: later)).body =
      sentOfCompleting header chunk behind earlier piece ++
        later.flatten := by
  have unseen :=
    @proxyRead_unparsed chunk behind earlier fun front begins =>
      block.unseen
        (begins.trans ((List.prefix_append _ _).trans completes.begins))
        (lt_of_le_of_lt begins.length_le completes.before)
  have seen :=
    block.seen noZero completes.begins
      (by rw [List.length_append]; exact completes.ends)
  have read :
      ∃ reading : ProxyReading,
        (earlier ++ [piece]).foldl (proxyStep behind) (.start chunk) = reading ∧
        reading.headersParsed = true ∧
        reading.sent.flatten =
          sentOfCompleting header chunk behind earlier piece := by
    rw [List.foldl_append, ← proxyRead, unseen]
    simp only [List.foldl_cons, List.foldl_nil, proxyStep,
      Bool.false_eq_true, if_false, appendHeader_take, seen,
      sentOfCompleting]
    split
    · next chunkHdrEnd found =>
        refine ⟨_, rfl, ?_, ?_⟩
        · exact (ProxyReading.send_flatten _ _).2
        · exact (ProxyReading.send_flatten _ _).1
    · next missing =>
        refine ⟨_, rfl, ?_, ?_⟩
        · exact (ProxyReading.send_flatten _ _).2
        · exact (ProxyReading.send_flatten _ _).1
  rcases read with ⟨reading, isReading, parsed, sent⟩
  rcases proxyStep_parsed behind parsed later with ⟨stays, all⟩
  have final :
      proxyRead chunk behind (earlier ++ piece :: later) =
        later.foldl (proxyStep behind) reading := by
    rw [proxyRead, List.append_cons, List.foldl_append, isReading]
  rw [controlProxyForward, final]
  simp only [stays, if_true, ProxyAnswer.body, all, List.flatten_append, sent]

/-- What the piece sends of itself is its part of the body exactly if it is a
good one. -/
theorem Completes.sent_iff
    (completes : Completes header body earlier piece later)
    (block : HeaderBlock header) (noZero : 0 ∉ header)
    (chunk behind : List UInt8) :
    sentOfCompleting header chunk behind earlier piece =
        piece.drop (header.length + 4 - earlier.flatten.length) ↔
    (earlier.flatten.length ≤ header.length ∨
    earlier.flatten.length + piece.length = header.length + 4 ∨
    (earlier.flatten.length + piece.length ≤ 1023 ∧
    NoEndInArray chunk behind earlier piece)) := by
  have before := completes.before
  have ends := completes.ends
  have whole := @List.length_append _ earlier.flatten piece
  by_cases within : earlier.flatten.length ≤ header.length
  · refine iff_of_true ?_ (Or.inl within)
    rw [sentOfCompleting, completes.found_in_array block noZero within _ behind]
    simp only
    rw [Nat.sub_add_comm within]
  rw [or_iff_right within, sentOfCompleting, NoEndInArray]
  by_cases last : earlier.flatten.length + piece.length = header.length + 4
  · -- The piece has nothing of the body, and is too short for more.
    refine iff_of_true ?_ (Or.inl last)
    have none' : piece.drop (header.length + 4 - earlier.flatten.length) = [] :=
      List.drop_eq_nil_of_le (by omega)
    rw [none']
    split
    · exact List.drop_eq_nil_of_le (by omega)
    · refine List.drop_eq_nil_of_le ?_
      rw [List.length_take]
      omega
  rw [or_iff_right last]
  cases found :
      Search.find crlfCrlf
        (CText.upToZero
          (receiveInto (earlier.foldl receiveInto chunk) piece ++
            behind)) with
  | some chunkHdrEnd =>
      -- An end of headers in the array is not the one that was completed.
      refine iff_of_false (fun same => ?_) fun right => ?_
      · have lengths := congrArg List.length same
        rw [List.length_drop, List.length_drop] at lengths
        omega
      · cases right.2
  | none =>
      have part :
          piece.drop (header.length + 4 - earlier.flatten.length) =
            (earlier.flatten ++ piece).drop (header.length + 4) := by
        rw [List.drop_append, List.drop_eq_nil_of_le before.le, List.nil_append]
      rw [part]
      constructor
      · intro same
        have lengths := congrArg List.length same
        rw [List.length_drop, List.length_drop, List.length_take] at lengths
        exact ⟨by omega, rfl⟩
      · rintro ⟨fits, _⟩
        rw [List.take_of_length_le (by omega)]

end

/-- The proxy passes on the body of a response exactly if there is none, or
there is no zero in the headers and the piece that completes them is a good
one. -/
theorem controlProxyForward_intact_iff
    {header : List UInt8} (block : HeaderBlock header)
    (body chunk behind : List UInt8) {pieces : List (List UInt8)}
    (cut : pieces.flatten = header ++ crlfCrlf ++ body) :
    (controlProxyForward chunk behind pieces).body = body ↔
    ForwardsIntact header body chunk behind pieces := by
  have enough : header.length + 4 ≤ pieces.flatten.length := by
    rw [cut, List.length_append, List.length_append]
    change header.length + 4 ≤ header.length + 4 + body.length
    omega
  rcases completing_spec (Nat.succ_pos _) enough with
    ⟨later, isPieces, before, ends⟩
  rw [ForwardsIntact]
  generalize completing (header.length + 4) pieces = part at *
  have completes : Completes header body part.1 part.2 later :=
    { whole := by
        rw [← cut, isPieces, List.flatten_append, List.flatten_cons,
          List.append_assoc]
      before := before
      ends := ends }
  by_cases hasZero : 0 ∈ header
  · have unseen :=
      @proxyRead_unparsed chunk behind pieces fun front begins =>
        block.unseen_of_zero hasZero (cut ▸ begins)
    have answer : (controlProxyForward chunk behind pieces).body = [] := by
      rw [controlProxyForward, unseen]
      rfl
    rw [answer]
    simp [hasZero, eq_comm]
  · have isBody := completes.body_eq
    rw [isPieces, completes.forwarded block hasZero]
    have same :
        sentOfCompleting header chunk behind part.1 part.2 ++ later.flatten =
            body ↔
        sentOfCompleting header chunk behind part.1 part.2 =
          part.2.drop
            (header.length + 4 - part.1.flatten.length) := by
      rw [← isBody, List.append_left_inj]
    rw [same, completes.sent_iff block hasZero]
    constructor
    · intro good
      exact Or.inr ⟨hasZero, good⟩
    · rintro (empty | ⟨_, good⟩)
      · refine Or.inr (Or.inl ?_)
        have rest := List.append_eq_nil_iff.mp (isBody.trans empty)
        have short := List.drop_eq_nil_iff.mp rest.1
        omega
      · exact good

def okHeader : List UInt8 := CText.bytes "HTTP/1.1 200 OK"

theorem okHeader_block : HeaderBlock okHeader where
  short := by decide
  noInner := by decide

/-- A response that arrives in one piece is passed on. -/
theorem controlProxyForward_intact_whole :
    (controlProxyForward (List.replicate 512 0) []
        [okHeader ++ crlfCrlf ++ CText.bytes "open"]).body =
      CText.bytes "open" :=
  (controlProxyForward_intact_iff okHeader_block (CText.bytes "open")
      (List.replicate 512 0) []
      (List.flatten_singleton)).mpr
    (Or.inr ⟨by decide, Or.inl (by decide)⟩)

def bodyWithBlankLine : List UInt8 :=
  CText.bytes "A" ++ crlfCrlf ++ CText.bytes "B"

/-- When the end of the headers is cut by the pieces, the one in the body is
taken for it, and what is before that is lost. -/
theorem proxy_loses_body :
    ¬ ∀ header body chunk behind pieces,
      HeaderBlock header → chunk.length = 512 →
      (∀ piece ∈ pieces, 1 ≤ piece.length ∧ piece.length ≤ 512) →
      pieces.flatten = header ++ crlfCrlf ++ body →
      (controlProxyForward chunk behind pieces).body = body := by
  intro claimed
  have passed :=
    claimed okHeader bodyWithBlankLine (List.replicate 512 0) []
      [okHeader ++ [13, 10, 13], 10 :: bodyWithBlankLine] okHeader_block
      List.length_replicate (by decide) (by decide)
  exact absurd passed (by decide)

end Endap.Http
