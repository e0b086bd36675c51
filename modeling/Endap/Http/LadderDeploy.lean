import Endap.Auth.Access
import Endap.Http.RequestBody
import Endap.Ladder.Engine

/-!
# Deploying a ladder program

The handler of the ladder editor receives a program with one call, into
memory that it did not clear, and loads as many bytes as the request
announced.  A call may return fewer bytes than were asked for.  Then the rest
of the program is what the memory held before.

The loop of the other handlers reads a body whatever the calls return.  The
main theorem says exactly when the single call does.
-/

namespace Endap.Http

open Endap.Auth
open Endap.Ladder
open Endap.Library
open Endap.Library.Loop
open Endap.Library.Receiving
open Endap.State

/-! ## The handler -/

/-- The methods for which the handler is registered. -/
inductive HttpMethod where
  | get
  | post
deriving DecidableEq

/-- The statuses of the answers. -/
inductive HttpStatus where
  | ok
  | badRequest
  | notFound
  | internalServerError
deriving DecidableEq

/-- The text of a status. -/
def HttpStatus.text : HttpStatus → List UInt8
  | .ok => CText.bytes "200 OK"
  | .badRequest => CText.bytes "400 Bad Request"
  | .notFound => CText.bytes "404 Not Found"
  | .internalServerError => CText.bytes "500 Internal Server Error"

/-- The answers of `automation_ladder_handler`. -/
inductive LadderAnswer where
  | program (bytes : List UInt8)
  | noProgramLoaded
  | ladderCleared
  | invalidPayloadSize
  | noMemory
  | recvFailed
  | invalidBytecode
  | ladderDeployed
deriving DecidableEq

def LadderAnswer.status : LadderAnswer → HttpStatus
  | .program _ => .ok
  | .noProgramLoaded => .notFound
  | .ladderCleared => .ok
  | .invalidPayloadSize => .badRequest
  | .noMemory => .internalServerError
  | .recvFailed => .internalServerError
  | .invalidBytecode => .badRequest
  | .ladderDeployed => .ok

/-- The text of an answer. -/
def LadderAnswer.content : LadderAnswer → List UInt8
  | .program bytes => bytes
  | .noProgramLoaded =>
      CText.bytes "\x7b\"ok\":false,\"error\":\"no_program_loaded\"\x7d"
  | .ladderCleared =>
      CText.bytes "\x7b\"ok\":true,\"status\":\"ladder_cleared\"\x7d"
  | .invalidPayloadSize =>
      CText.bytes "\x7b\"ok\":false,\"error\":\"invalid_payload_size\"\x7d"
  | .noMemory => CText.bytes "\x7b\"ok\":false,\"error\":\"no_memory\"\x7d"
  | .recvFailed =>
      CText.bytes "\x7b\"ok\":false,\"error\":\"recv_failed\"\x7d"
  | .invalidBytecode =>
      CText.bytes "\x7b\"ok\":false,\"error\":\"invalid_bytecode\"\x7d"
  | .ladderDeployed =>
      CText.bytes "\x7b\"ok\":true,\"status\":\"ladder_deployed\"\x7d"

theorem LadderAnswer.content_status
    {answer : LadderAnswer} (text : ∀ bytes, answer ≠ .program bytes) :
    CText.bytes "\x7b\"ok\":true," <+: answer.content ↔
    answer.status = .ok := by
  cases answer with
  | program bytes => exact absurd rfl (text bytes)
  | _ => decide

/-- What a request does: the answer, the bytes that were passed to the
loader, and the engine and its blob afterwards. -/
structure LadderExchange where
  answer : Option LadderAnswer
  loaded : Option (List UInt8)
  engine : LadderEngine
  blob : LadderBlob

def ladderEngineGetProgram (engine : LadderEngine) (maxLen : Nat) :
    List UInt8 :=
  if engine.hasProgram = false ∨ maxLen = 0 then []
  else engine.bytecode.take maxLen

/-- `automation_ladder_handler`; `block` is what the allocated memory holds,
if there is memory. -/
def automationLadderHandler (method : HttpMethod) (request : HttpRequest)
    (engine : LadderEngine) (blob : LadderBlob) (arrival : Arrival UInt8)
    (block : Option (Nat → UInt8)) (erased stored : NvsOutcome) :
    LadderExchange :=
  let answered (answer : LadderAnswer) : LadderExchange :=
    ⟨some answer, none, engine, blob⟩
  let contentLen := arrival.body.length
  if method = .get then
    let program := ladderEngineGetProgram engine 2048
    if program.length = 0 then answered .noProgramLoaded
    else answered (.program program)
  else if
      httpAuthRequireCapability request capAutomationWrite false =
        false then
    ⟨none, none, engine, blob⟩
  else if contentLen = 0 then
    let cleared := ladderEngineClear blob erased
    ⟨some .ladderCleared, none, cleared.1, cleared.2⟩
  else if contentLen > 2048 then answered .invalidPayloadSize
  else
    match block with
    | none => answered .noMemory
    | some cells =>
        let entered := Reception.start cells
        if entered.returned arrival contentLen ≤ 0 then answered .recvFailed
        else
          -- One call; the rest of the memory is not looked at again.
          let received := entered.receive arrival 0 contentLen
          let buffer := ArrayList.listed received.cells contentLen
          let loading :=
            ladderEngineLoadProgram engine blob buffer erased stored
          if loading.1 ≠ .ok then
            ⟨some .invalidBytecode, some buffer, loading.2.1, loading.2.2⟩
          else
            ⟨some .ladderDeployed, some buffer, loading.2.1, loading.2.2⟩

/-! ## What a deployment should be -/

/-- The body is what was passed to the loader; or the answer is an error, and
the engine and its blob are left as they were. -/
def DeploysBody (body : List UInt8) (engine : LadderEngine)
    (blob : LadderBlob) (exchange : LadderExchange) : Prop :=
  exchange.loaded = some body ∨
  (∃ answer, exchange.answer = some answer ∧ answer.status ≠ .ok) ∧
  exchange.engine = engine ∧ exchange.blob = blob

/-- How many bytes the single call returns. -/
def receivedCount (arrival : Arrival UInt8) : Nat :=
  (arrival.returns 0 arrival.body.length).toNat

/-- The bytes that the memory holds behind the received ones. -/
def staleBytes (arrival : Arrival UInt8) (cells : Nat → UInt8) : List UInt8 :=
  (ArrayList.listed cells arrival.body.length).drop (receivedCount arrival)

/-- The received bytes and behind them what the memory holds. -/
def mixture (arrival : Arrival UInt8) (cells : Nat → UInt8) : List UInt8 :=
  arrival.body.take (receivedCount arrival) ++ staleBytes arrival cells

/-- When there is memory and the call does not fail, the memory holds the
bytes that were not received, or the validator refuses the mixture.  The
first is the case when nothing is missing. -/
def DeliveredOrRefused (arrival : Arrival UInt8)
    (block : Option (Nat → UInt8)) : Prop :=
  ∀ cells, block = some cells →
  0 < arrival.returns 0 arrival.body.length →
  staleBytes arrival cells = arrival.body.drop (receivedCount arrival) ∨
  validateProgram (mixture arrival cells) ≠ .ok

/-! ## When the body is deployed -/

section

variable {arrival : Arrival UInt8}

theorem listed_received (cells : Nat → UInt8) :
    ArrayList.listed
        ((Reception.start cells).receive arrival 0 arrival.body.length).cells
        arrival.body.length =
      mixture arrival cells := by
  have front : (Reception.start cells).Front arrival cells :=
    Reception.front_start
  have received := (front.receive (Nat.le_of_eq (Nat.zero_add _))).listed
  have taken :
      ((Reception.start cells).receive arrival (Reception.start cells).taken
        arrival.body.length).taken = receivedCount arrival :=
    Nat.zero_add _
  rw [taken] at received
  exact received

theorem mixture_eq_body (cells : Nat → UInt8) :
    mixture arrival cells = arrival.body ↔
    staleBytes arrival cells =
      arrival.body.drop (receivedCount arrival) := by
  have parts := List.take_append_drop (receivedCount arrival) arrival.body
  constructor
  · intro same
    rw [mixture] at same
    exact List.append_cancel_left (same.trans parts.symm)
  · intro same
    rw [mixture, same, parts]

/-- A request with a body of 1 to 2048 bytes is answered with an error when
there is no memory or the call fails; otherwise it loads the mixture. -/
theorem automationLadderHandler_cases
    (request : HttpRequest) (engine : LadderEngine) (blob : LadderBlob)
    (nonempty : arrival.body ≠ [])
    (small : arrival.body.length ≤ ladderMaxProgramSize)
    (block : Option (Nat → UInt8)) (erased stored : NvsOutcome) :
    let exchange :=
      automationLadderHandler .post request engine blob arrival block erased
        stored
    ((block = none ∨ arrival.returns 0 arrival.body.length ≤ 0) ∧
        ∃ answer : LadderAnswer, answer.status ≠ .ok ∧
        exchange = ⟨some answer, none, engine, blob⟩) ∨
      ∃ cells,
        block = some cells ∧ 0 < arrival.returns 0 arrival.body.length ∧
        exchange =
          let loading :=
            ladderEngineLoadProgram engine blob (mixture arrival cells)
              erased stored
          if loading.1 ≠ .ok then
            ⟨some .invalidBytecode, some (mixture arrival cells),
              loading.2.1, loading.2.2⟩
          else
            ⟨some .ladderDeployed, some (mixture arrival cells),
              loading.2.1, loading.2.2⟩ := by
  intro exchange
  have isPost : ¬ HttpMethod.post = .get := by decide
  have letIn :
      ¬ httpAuthRequireCapability request capAutomationWrite false =
        false :=
    Bool.noConfusion
  have some : ¬ arrival.body.length = 0 := by
    rw [List.length_eq_zero_iff]
    exact nonempty
  have fits : ¬ arrival.body.length > 2048 := Nat.not_lt_of_le small
  simp only [exchange, automationLadderHandler]
  rw [if_neg isPost, if_neg letIn, if_neg some, if_neg fits]
  cases block with
  | none => exact Or.inl ⟨Or.inl rfl, .noMemory, by decide, rfl⟩
  | some cells =>
      simp only [listed_received]
      split
      · next failed =>
          exact Or.inl ⟨Or.inr failed, .recvFailed, by decide, rfl⟩
      · next delivered =>
          exact Or.inr ⟨cells, rfl, Int.lt_of_not_ge delivered, rfl⟩

/--
For every body of 1 to 2048 bytes and every way in which it arrives, the body
itself is what is loaded, or the answer is an error and nothing changes, if
and only if the memory holds the bytes that the single call leaves out or the
validator refuses what the memory holds instead.
-/
theorem automationLadderHandler_deploys_iff
    (request : HttpRequest) (engine : LadderEngine) (blob : LadderBlob)
    (arrival : Arrival UInt8) (nonempty : arrival.body ≠ [])
    (small : arrival.body.length ≤ ladderMaxProgramSize)
    (block : Option (Nat → UInt8)) (erased stored : NvsOutcome) :
    DeploysBody arrival.body engine blob
        (automationLadderHandler .post request engine blob arrival block
          erased stored) ↔
    DeliveredOrRefused arrival block := by
  rcases
    automationLadderHandler_cases request engine blob nonempty small block
      erased stored with
    ⟨refused, answer, isError, isExchange⟩ |
      ⟨cells, isBlock, delivered, isExchange⟩
  · rw [isExchange]
    constructor
    · intro _ cells isBlock delivered
      rcases refused with missing | failed
      · rw [missing] at isBlock
        cases isBlock
      · exact absurd failed (Int.not_le_of_gt delivered)
    · intro _
      exact Or.inr ⟨⟨answer, rfl, isError⟩, rfl, rfl⟩
  · have condition :
        DeliveredOrRefused arrival block ↔
        mixture arrival cells = arrival.body ∨
        validateProgram (mixture arrival cells) ≠ .ok := by
      rw [mixture_eq_body, isBlock]
      constructor
      · exact fun holds => holds cells rfl delivered
      · rintro holds _ ⟨⟩ _
        exact holds
    rw [condition, isExchange]
    simp only [ladderEngineLoadProgram_result]
    by_cases accepted : validateProgram (mixture arrival cells) = .ok
    · rw [if_neg (not_not.mpr accepted)]
      constructor
      · rintro (loaded | ⟨⟨answer, isAnswer, isError⟩, -⟩)
        · exact Or.inl (Option.some.inj loaded)
        · cases isAnswer
          exact absurd rfl isError
      · rintro (same | refused)
        · exact Or.inl (congrArg some same)
        · exact absurd accepted refused
    · rw [if_pos accepted,
        ladderEngineLoadProgram_refused engine blob erased stored accepted]
      constructor
      · exact fun _ => Or.inr accepted
      · exact fun _ => Or.inr ⟨⟨_, rfl, by decide⟩, rfl, rfl⟩

end

/-- A program that copies input 5 to output 7, received in pieces of the
given size. -/
def inPieces (size : Nat) : Arrival UInt8 where
  body :=
    [0x45, 0x4E, 0x44, 0x50, 0x01, 0x01, 0x00, 0x05, 0x10, 0x00, 0x07, 0xFF]
  returns _ wanted := min wanted size
  fits _ _ := Int.min_le_left _ _

def staleMemory : Nat → UInt8 := fun index =>
  [0x45, 0x4E, 0x44, 0x50, 0x01, 0x01, 0x00, 0x05, 0x10, 0x00, 0x09,
    0xFF].getD index 0

/-- Received in pieces of eight bytes, the program drives the wrong output;
the answer says that it was deployed. -/
theorem short_receive_deploys_mixture :
    (inPieces 8).Delivers ∧
    let exchange :=
      automationLadderHandler .post ⟨none, none⟩ .cleared none (inPieces 8)
        (some staleMemory) .committed .committed
    exchange.answer = some .ladderDeployed ∧
    exchange.engine.bytecode =
      [0x45, 0x4E, 0x44, 0x50, 0x01, 0x01, 0x00, 0x05, 0x10, 0x00, 0x09, 0xFF] ∧
    ¬ DeploysBody (inPieces 8).body .cleared none exchange := by
  refine ⟨?_, ?_, ?_, ?_⟩
  · intro _ wanted more
    simp only [inPieces]
    omega
  · decide
  · decide
  · rintro (loaded | ⟨⟨answer, isAnswer, isError⟩, -⟩)
    · exact absurd loaded (by decide)
    · cases isAnswer
      exact isError (by decide)

/-- Received in one piece, the program is deployed. -/
theorem whole_receive_deploys :
    DeploysBody (inPieces 12).body .cleared none
      (automationLadderHandler .post ⟨none, none⟩ .cleared none
        (inPieces 12) (some staleMemory) .committed .committed) := by
  refine
    (automationLadderHandler_deploys_iff ⟨none, none⟩ .cleared none
      (inPieces 12) (by decide) (by decide) (some staleMemory) .committed
      .committed).mpr ?_
  intro cells isBlock _
  refine Or.inl ?_
  rw [staleBytes]
  rfl

end Endap.Http
