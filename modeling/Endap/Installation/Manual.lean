import Endap.Automation.Runtime
import Endap.Device.Profile
import Endap.Http.Query
import Endap.Http.RequestBody
import Endap.Installation.Map
import Endap.Library.Json
import Endap.Registry.Operations
import Endap.Scheduler.Commands

/-!
# Manual commands

Two endpoints command an output by hand.  Both find the channel by its
identifier and then decide in the same way: a channel of another node is
commanded by a message to its owner, a channel of the node itself by a command
in the ring, if the fail-safe guard lets it through.

They read their arguments differently.  The older one takes a query, whose
values it does not decode, checks that the value is zero or one, and falls
back to the number of the output when the identifier is missing or does not
fit its buffer.  The newer one takes a JSON text of less than 256 bytes and
passes every number on; the guard makes a local command binary, a message
carries the number as it is.
-/

namespace Endap.Installation

open Endap.Automation
open Endap.Cluster
open Endap.Device
open Endap.Failsafe
open Endap.Http
open Endap.Library
open Endap.Library.Receiving
open Endap.Registry
open Endap.Scheduler
open Endap.State

/-- What the handlers read and change. -/
structure ManualWorld where
  entries : List InstallationEntry
  registry : List RegistryEntry
  io : ClusterIo
  /-- `self_node` of the metrics of the cluster. -/
  selfNode : UInt32
  transportReady : Bool
  /-- The result of `cluster_transport_broadcast_frame`. -/
  broadcasts : Bool
  failsafe : FailsafeTable
  commands : IoCommandQueue

/-- What comes of a request. -/
inductive ManualOutcome where
  | refused (status : Nat) (text : String)
  | pushed (command : IoCmd)
  | broadcast (command : Automation.ProtocolOutputCommand)
deriving DecidableEq

/-- The value that is pushed or broadcast is zero or one. -/
def ManualOutcome.Binary : ManualOutcome → Prop
  | .refused _ _ => True
  | .pushed command => command.value = 0 ∨ command.value = 1
  | .broadcast command => command.value = 0 ∨ command.value = 1

/-! ## The decision -/

/-- The request names another node. -/
def remoteTarget (world : ManualWorld) (target : Option UInt32) : Bool :=
  target.getD 0 ≠ 0 ∧ world.selfNode ≠ 0 ∧ target.getD 0 ≠ world.selfNode

/-- The owner that a message is sent to. -/
def commandOwner (world : ManualWorld) (id : UInt16)
    (target : Option UInt32) : UInt32 :=
  if target.getD 0 ≠ 0 then target.getD 0
  else clusterIoGetOwner world.io id.toUInt32

/-- The end of both handlers for a channel of another node. -/
def commandRemote (world : ManualWorld) (id : UInt16)
    (target : Option UInt32) (value : Int32) : ManualOutcome :=
  if world.selfNode = 0 then .refused 409 "SELF_NODE_UNAVAILABLE"
  else if commandOwner world id target = 0 ∨
      commandOwner world id target = world.selfNode then
    .refused 409 "REMOTE_OWNER_UNRESOLVED"
  else if getState world.registry (commandOwner world id target) <
      stateActive then
    .refused 409 "REMOTE_OWNER_OFFLINE"
  else if world.transportReady = false then
    .refused 503 "TRANSPORT_NOT_READY"
  else if world.broadcasts = false then .refused 503 "DISPATCH_FAILED"
  else
    .broadcast
      { targetNode := commandOwner world id target
        requesterNode := world.selfNode
        outputId := id
        value := value }

/-- The end of both handlers for a channel of the node itself. -/
def commandLocal (world : ManualWorld) (id : UInt16) (value : Int32) :
    ManualOutcome × ManualWorld :=
  let guarded := failsafeGuardCommand world.failsafe id value
  if guarded.1.allowed = false then
    (.refused 409 "FAILSAFE_ACTIVE", { world with failsafe := guarded.2 })
  else
    let effectiveValue := guarded.1.effectiveValue.getD value
    let pushed := ioCommandPush world.commands id effectiveValue
    if pushed.1 = false then
      (.refused 503 "BUSY", { world with failsafe := guarded.2 })
    else
      (.pushed { id := id, value := effectiveValue },
        { world with failsafe := guarded.2, commands := pushed.2 })

/-- What both handlers do once they know the output, the node that was named
and the value. -/
def commandOutput (world : ManualWorld) (id : UInt16)
    (target : Option UInt32) (value : Int32) :
    ManualOutcome × ManualWorld :=
  if deviceProfileIsValidOutput id = false then
    (.refused 404 "NOT_FOUND", world)
  else if remoteTarget world target ||
      !clusterIoIsLocal world.io id.toUInt32 then
    (commandRemote world id target value, world)
  else commandLocal world id value

/-! ## The query -/

/-- The end of `set_handler` for an identifier in `resource_id_buf`. -/
def setResource (rawValue : RawValue) (world : ManualWorld)
    (query : Option (List UInt8)) (resourceId : List UInt8) :
    ManualOutcome × ManualWorld :=
  match commandTarget world.entries resourceId with
  | none => (.refused 404 "RESOURCE_NOT_FOUND", world)
  | some (nodeId, channelId) =>
      match queryGetInt rawValue query "value" 0 1 with
      | none => (.refused 400 "BAD_REQUEST", world)
      | some value =>
          commandOutput world channelId (some nodeId) (Int32.ofInt value)

/-- The end of `set_handler` for the number of an output. -/
def setNumber (rawValue : RawValue) (world : ManualWorld)
    (query : Option (List UInt8)) : ManualOutcome × ManualWorld :=
  match queryGetInt rawValue query "id" 0 65535,
      queryGetInt rawValue query "value" 0 1,
      queryGetOptionalU32 rawValue query "target_node" with
  | some id, some value, some target =>
      commandOutput world (UInt16.ofNat id.toNat) target (Int32.ofInt value)
  | _, _, _ => (.refused 400 "BAD_REQUEST", world)

/-- `set_handler`; an identifier that is empty, or too long for the 64 bytes of
`resource_id_buf`, is as good as none. -/
def setHandler (rawValue : RawValue) (world : ManualWorld)
    (query : Option (List UInt8)) : ManualOutcome × ManualWorld :=
  match queryGetValue rawValue query "resource_id" 64 with
  | .ok (first :: rest) => setResource rawValue world query (first :: rest)
  | _ => setNumber rawValue world query

/-! ## The JSON text -/

def httpBodyBufferSize : Nat := 256

/-- The string and the number that `cJSON_GetObjectItem` finds in a JSON
text. -/
structure ActuateFields where
  resourceId : Option (List UInt8)
  value : Option Int
deriving DecidableEq

/-- `valueint` of a number: a number out of range is the nearest one in
range. -/
def cJsonValueint (number : Int) : Int32 :=
  if number ≥ 2147483647 then 2147483647
  else if number ≤ -2147483648 then -2147483648
  else Int32.ofInt number

/-- `resource_actuate_handler`; `jsonFields` is what the JSON library makes of
a text, and `body` is the array before it is filled. -/
def resourceActuateHandler
    (jsonFields : List UInt8 → Option ActuateFields) (world : ManualWorld)
    (arrival : Arrival UInt8) (body : Nat → UInt8) :
    ManualOutcome × ManualWorld :=
  let read := httpReadRequestBody arrival body httpBodyBufferSize
  if read.1 = false then (.refused 400 "BAD_REQUEST", world)
  else
    match jsonFields (arrayText read.2 httpBodyBufferSize) with
    | none => (.refused 400 "INVALID_JSON", world)
    | some { resourceId := some resourceId, value := some value } =>
        match commandTarget world.entries resourceId with
        | none => (.refused 404 "RESOURCE_NOT_FOUND", world)
        | some (nodeId, channelId) =>
            commandOutput world channelId (some nodeId) (cJsonValueint value)
    | some _ => (.refused 400 "MISSING_FIELDS", world)

/-! ## Verdicts -/

/-- What both handlers decide about an output, whatever the value. -/
inductive Verdict where
  | refuse (status : Nat) (text : String)
  | message (owner : UInt32)
  | command

/-- No command and no message comes of it. -/
def Verdict.Refuses : Verdict → Prop
  | .refuse _ _ => True
  | .message _ => False
  | .command => False

/-- The verdict on a channel of another node. -/
def remoteVerdict (world : ManualWorld) (owner : UInt32) : Verdict :=
  if world.selfNode = 0 then .refuse 409 "SELF_NODE_UNAVAILABLE"
  else if owner = 0 ∨ owner = world.selfNode then
    .refuse 409 "REMOTE_OWNER_UNRESOLVED"
  else if getState world.registry owner < stateActive then
    .refuse 409 "REMOTE_OWNER_OFFLINE"
  else if world.transportReady = false then
    .refuse 503 "TRANSPORT_NOT_READY"
  else if world.broadcasts = false then .refuse 503 "DISPATCH_FAILED"
  else .message owner

/-- The verdict on a channel of the node itself: a latch or a missing policy
refuses it, and a full ring. -/
def localVerdict (world : ManualWorld) (id : UInt16) : Verdict :=
  match failsafeFind world.failsafe id with
  | none => .refuse 409 "FAILSAFE_ACTIVE"
  | some entry =>
      if entry.Blocks then .refuse 409 "FAILSAFE_ACTIVE"
      else if (world.commands.head + 1) % ioCmdQueueSize =
          world.commands.tail then
        .refuse 503 "BUSY"
      else .command

/-- The verdict on an output. -/
def verdict (world : ManualWorld) (id : UInt16) (target : Option UInt32) :
    Verdict :=
  if deviceProfileIsValidOutput id = false then .refuse 404 "NOT_FOUND"
  else if remoteTarget world target ||
      !clusterIoIsLocal world.io id.toUInt32 then
    remoteVerdict world (commandOwner world id target)
  else localVerdict world id

/-- What comes of a verdict for a value. -/
def Verdict.outcome (world : ManualWorld) (id : UInt16) (value : Int32) :
    Verdict → ManualOutcome
  | .refuse status text => .refused status text
  | .message owner =>
      .broadcast
        { targetNode := owner
          requesterNode := world.selfNode
          outputId := id
          value := value }
  | .command => .pushed { id := id, value := failsafeBinaryValue value }

theorem commandRemote_outcome
    (world : ManualWorld) (id : UInt16) (target : Option UInt32)
    (value : Int32) :
    commandRemote world id target value =
      (remoteVerdict world (commandOwner world id target)).outcome world id
        value := by
  unfold commandRemote remoteVerdict
  split_ifs
  · rfl
  · rfl
  · rfl
  · rfl
  · rfl
  · rfl

theorem commandLocal_outcome
    (world : ManualWorld) (id : UInt16) (value : Int32) :
    (commandLocal world id value).1 =
      (localVerdict world id).outcome world id value := by
  unfold commandLocal localVerdict failsafeGuardCommand
  cases failsafeFind world.failsafe id with
  | none => rfl
  | some entry =>
      dsimp only
      by_cases blocks : entry.Blocks
      · rw [if_pos blocks, if_pos blocks]
        rfl
      · rw [if_neg blocks, if_neg blocks]
        unfold ioCommandPush
        dsimp only
        by_cases full :
            (world.commands.head + 1) % ioCmdQueueSize = world.commands.tail
        · simp [full, Verdict.outcome]
        · simp [full, Verdict.outcome]

theorem commandOutput_outcome
    (world : ManualWorld) (id : UInt16) (target : Option UInt32)
    (value : Int32) :
    (commandOutput world id target value).1 =
      (verdict world id target).outcome world id value := by
  unfold commandOutput verdict
  split_ifs
  · rfl
  · exact commandRemote_outcome world id target value
  · exact commandLocal_outcome world id value

theorem failsafeBinaryValue_binary (value : Int32) :
    failsafeBinaryValue value = 0 ∨ failsafeBinaryValue value = 1 := by
  rw [failsafeBinaryValue]
  split
  · exact .inr rfl
  · exact .inl rfl

theorem Verdict.outcome_binary
    (world : ManualWorld) (id : UInt16) {value : Int32}
    (binary : value = 0 ∨ value = 1) (decided : Verdict) :
    (decided.outcome world id value).Binary := by
  cases decided with
  | refuse status text => trivial
  | message owner => exact binary
  | command => exact failsafeBinaryValue_binary value

/-- The refusals of the two handlers themselves. -/
def argumentTexts : List String := ["BAD_REQUEST", "RESOURCE_NOT_FOUND"]

theorem commandOutput_ne_refused
    (world : ManualWorld) (id : UInt16) (target : Option UInt32)
    (value : Int32) {status : Nat} {text : String}
    (ofArgument : text ∈ argumentTexts) :
    (commandOutput world id target value).1 ≠ .refused status text := by
  intro isRefusal
  have texts :
      ∀ other, (commandOutput world id target value).1 =
          .refused status other →
        other ∉ argumentTexts := by
    unfold commandOutput commandRemote commandLocal
    dsimp only
    intro other
    split_ifs
    all_goals
      rintro ⟨⟩
      try decide
  exact texts text isRefusal ofArgument

/-! ## One request at both endpoints -/

/-- The query for an identifier, which is sent encoded, and a value. -/
def setQuery (sent : List UInt8) (value : Int) : List UInt8 :=
  CText.bytes "resource_id=" ++ sent ++ CText.bytes "&value=" ++
    Lines.signed value

/-- A query and a JSON text carry one identifier and one value, and both
reach their endpoints. -/
structure SameRequest
    (rawValue : RawValue) (jsonFields : List UInt8 → Option ActuateFields)
    (resourceId sent : List UInt8) (value : Int)
    (arrival : Arrival UInt8) : Prop where
  encodes : Percent.FormEncodes resourceId sent
  /-- The framework finds the two fields of the query, and no other one. -/
  idFound :
    rawValue (setQuery sent value) (CText.bytes "resource_id") = some sent
  valueFound :
    rawValue (setQuery sent value) (CText.bytes "value") =
      some (Lines.signed value)
  noNumber : rawValue (setQuery sent value) (CText.bytes "id") = none
  /-- The JSON library finds the two fields of the body. -/
  parsed :
    jsonFields (CText.upToZero arrival.body) =
      some { resourceId := some resourceId, value := some value }
  delivers : arrival.Delivers

example :
    setQuery (CText.bytes "R1") 2 = CText.bytes "resource_id=R1&value=2" := by
  decide +kernel

/-- The query fits its buffer, and the encoded identifier that of the
identifier. -/
def UsableQuery (sent : List UInt8) (value : Int) : Prop :=
  (setQuery sent value).length < httpQueryBufferSize ∧
  sent ≠ [] ∧ sent.length < 64

instance (sent : List UInt8) (value : Int) :
    Decidable (UsableQuery sent value) :=
  inferInstanceAs (Decidable (_ ∧ _))

/-- The JSON text fits its buffer. -/
def ReadableBody (body : List UInt8) : Prop :=
  body ≠ [] ∧ body.length < httpBodyBufferSize

instance (body : List UInt8) : Decidable (ReadableBody body) :=
  inferInstanceAs (Decidable (_ ∧ _))

section

variable {rawValue : RawValue}
    {jsonFields : List UInt8 → Option ActuateFields}
    {resourceId sent : List UInt8} {value : Int}
    {arrival : Arrival UInt8}

theorem SameRequest.setNumber_refused
    (same : SameRequest rawValue jsonFields resourceId sent value arrival)
    (world : ManualWorld) :
    setNumber rawValue world (some (setQuery sent value)) =
      (.refused 400 "BAD_REQUEST", world) := by
  have noId :
      queryGetInt rawValue (some (setQuery sent value)) "id" 0 65535 =
        none := by
    rw [queryGetInt, queryGetValue]
    rw [same.noNumber]
    split_ifs
    · rfl
    · rfl
  rw [setNumber, noId]

theorem SameRequest.setHandler_unusable
    (same : SameRequest rawValue jsonFields resourceId sent value arrival)
    (world : ManualWorld) (unusable : ¬ UsableQuery sent value) :
    setHandler rawValue world (some (setQuery sent value)) =
      (.refused 400 "BAD_REQUEST", world) := by
  have looked :
      queryGetValue rawValue (some (setQuery sent value)) "resource_id" 64 =
          .invalid ∨
      queryGetValue rawValue (some (setQuery sent value)) "resource_id" 64 =
        .ok [] := by
    rw [queryGetValue]
    rw [same.idFound]
    by_cases long : httpQueryBufferSize ≤ (setQuery sent value).length
    · exact .inl (if_pos long)
    · rw [if_neg long]
      by_cases fits : sent.length < 64
      · have empty : sent = [] := by
          by_contra nonempty
          exact unusable ⟨Nat.lt_of_not_le long, nonempty, fits⟩
        exact .inr ((if_pos fits).trans (congrArg QueryValue.ok empty))
      · exact .inl (if_neg fits)
  rw [setHandler]
  rcases looked with invalid | empty
  · rw [invalid]
    exact same.setNumber_refused world
  · rw [empty]
    exact same.setNumber_refused world

theorem SameRequest.queryGetInt_value
    (same : SameRequest rawValue jsonFields resourceId sent value arrival)
    (fits : (setQuery sent value).length < httpQueryBufferSize) :
    queryGetInt rawValue (some (setQuery sent value)) "value" 0 1 =
      if value = 0 ∨ value = 1 then some value else none := by
  have looked :
      queryGetValue rawValue (some (setQuery sent value)) "value" 32 =
        if (Lines.signed value).length < 32 then .ok (Lines.signed value)
        else .invalid := by
    rw [queryGetValue]
    rw [if_neg (Nat.not_le_of_lt fits), same.valueFound]
  rw [queryGetInt, looked]
  rcases integerValue_signed value with ⟨isWhole, isValue⟩
  by_cases short : (Lines.signed value).length < 32
  · rw [if_pos short]
    dsimp only
    rw [queryParseInt, isWhole, isValue]
    simp only [Bool.true_eq_false, if_false]
    split_ifs
    all_goals first | rfl | omega
  · have wide : ¬ (value = 0 ∨ value = 1) := by
      rintro (rfl | rfl)
      · exact short (by decide)
      · exact short (by decide)
    rw [if_neg short, if_neg wide]

/-- What `set_handler` makes of a usable query. -/
theorem SameRequest.setHandler_usable
    (same : SameRequest rawValue jsonFields resourceId sent value arrival)
    (world : ManualWorld) (usable : UsableQuery sent value) :
    setHandler rawValue world (some (setQuery sent value)) =
      match commandTarget world.entries sent with
      | none => (.refused 404 "RESOURCE_NOT_FOUND", world)
      | some target =>
          if value = 0 ∨ value = 1 then
            commandOutput world target.2 (some target.1) (Int32.ofInt value)
          else (.refused 400 "BAD_REQUEST", world) := by
  have looked :
      queryGetValue rawValue (some (setQuery sent value)) "resource_id" 64 =
        .ok sent := by
    rw [queryGetValue]
    rw [if_neg (Nat.not_le_of_lt usable.1), same.idFound]
    dsimp only
    rw [if_pos usable.2.2]
  have isResource :
      setHandler rawValue world (some (setQuery sent value)) =
        setResource rawValue world (some (setQuery sent value)) sent := by
    rw [setHandler, looked]
    cases sent with
    | nil => exact absurd rfl usable.2.1
    | cons first rest => rfl
  rw [isResource, setResource, same.queryGetInt_value usable.1]
  cases commandTarget world.entries sent with
  | none => rfl
  | some target =>
      by_cases binary : value = 0 ∨ value = 1
      · simp only [if_pos binary]
      · simp only [if_neg binary]

theorem resourceActuateHandler_unreadable
    (jsonFields : List UInt8 → Option ActuateFields)
    (world : ManualWorld) (body : Nat → UInt8)
    (unreadable : ¬ ReadableBody arrival.body) :
    resourceActuateHandler jsonFields world arrival body =
      (.refused 400 "BAD_REQUEST", world) := by
  rw [resourceActuateHandler,
    httpReadRequestBody_refused arrival body unreadable]
  rfl

/-- What `resource_actuate_handler` makes of a readable body. -/
theorem SameRequest.resourceActuateHandler_readable
    (same : SameRequest rawValue jsonFields resourceId sent value arrival)
    (world : ManualWorld) (body : Nat → UInt8)
    (readable : ReadableBody arrival.body) :
    resourceActuateHandler jsonFields world arrival body =
      match commandTarget world.entries resourceId with
      | none => (.refused 404 "RESOURCE_NOT_FOUND", world)
      | some target =>
          commandOutput world target.2 (some target.1)
            (cJsonValueint value) := by
  rcases httpReadRequestBody_text readable same.delivers body with
    ⟨isRead, isText⟩
  rw [resourceActuateHandler]
  rw [isRead, isText, same.parsed]
  simp only [Bool.true_eq_false, if_false]
  cases commandTarget world.entries resourceId with
  | _ => rfl

end

/-! ## Agreement -/

/-- The outcomes of the two endpoints are the same, and no value but zero and
one leaves either of them. -/
def ManualAgree
    (rawValue : RawValue) (jsonFields : List UInt8 → Option ActuateFields)
    (world : ManualWorld) (query : List UInt8)
    (arrival : Arrival UInt8) (body : Nat → UInt8) : Prop :=
  let actuated := (resourceActuateHandler jsonFields world arrival body).1
  let set := (setHandler rawValue world (some query)).1
  actuated = set ∧ actuated.Binary ∧ set.Binary

/-- Two channels meet the same verdict, on the same output unless it is a
refusal. -/
def ManualWorld.Alike (world : ManualWorld)
    (first second : UInt32 × UInt16) : Prop :=
  verdict world first.2 (some first.1) =
      verdict world second.2 (some second.1) ∧
  ((verdict world first.2 (some first.1)).Refuses ∨ first.2 = second.2)

/-- Where the endpoints agree: both arguments are refused; or the body is, and
the query for its value; or both are read and the identifier leads nowhere,
decoded or not; or both are read, the value is binary and the identifier leads
to the same end, decoded or not. -/
inductive AgreesOn
    (world : ManualWorld) (resourceId sent : List UInt8) (value : Int)
    (body : List UInt8) : Prop where
  | bothRefused (unusable : ¬ UsableQuery sent value)
      (unreadable : ¬ ReadableBody body)
  | valueRefused (usable : UsableQuery sent value)
      (unreadable : ¬ ReadableBody body)
      (known : commandTarget world.entries sent ≠ none)
      (wide : ¬ (value = 0 ∨ value = 1))
  | bothUnknown (usable : UsableQuery sent value)
      (readable : ReadableBody body)
      (sentUnknown : commandTarget world.entries sent = none)
      (unknown : commandTarget world.entries resourceId = none)
  | bothKnown (usable : UsableQuery sent value)
      (readable : ReadableBody body) (first second : UInt32 × UInt16)
      (sentKnown : commandTarget world.entries sent = some first)
      (known : commandTarget world.entries resourceId = some second)
      (binary : value = 0 ∨ value = 1) (alike : world.Alike first second)

theorem cJsonValueint_binary {value : Int}
    (binary : value = 0 ∨ value = 1) :
    cJsonValueint value = Int32.ofInt value ∧
    (Int32.ofInt value = 0 ∨ Int32.ofInt value = 1) := by
  rcases binary with rfl | rfl
  · exact ⟨rfl, .inl rfl⟩
  · exact ⟨rfl, .inr rfl⟩

/-- Two verdicts come to the same for a value exactly when they are the same,
on the same output unless they refuse. -/
theorem Verdict.outcome_inj
    (world : ManualWorld) (first second : UInt16) (value : Int32)
    (decided other : Verdict) :
    decided.outcome world first value = other.outcome world second value ↔
    decided = other ∧ (decided.Refuses ∨ first = second) := by
  cases decided with
  | refuse status text =>
      cases other with
      | refuse _ _ => simp [Verdict.outcome, Verdict.Refuses]
      | _ => simp [Verdict.outcome]
  | message owner =>
      cases other with
      | message _ => simp [Verdict.outcome, Verdict.Refuses]
      | _ => simp [Verdict.outcome]
  | command =>
      cases other with
      | command => simp [Verdict.outcome, Verdict.Refuses]
      | _ => simp [Verdict.outcome]

/-- A binary value for two channels comes to the same exactly when they meet
the same verdict. -/
theorem commandOutput_eq_iff
    (world : ManualWorld) (first second : UInt32 × UInt16)
    (value : Int32) :
    (commandOutput world second.2 (some second.1) value).1 =
        (commandOutput world first.2 (some first.1) value).1 ↔
    world.Alike first second := by
  rw [commandOutput_outcome, commandOutput_outcome, eq_comm,
    Verdict.outcome_inj]
  rfl

theorem commandOutput_binary
    (world : ManualWorld) (target : UInt32 × UInt16) {value : Int32}
    (binary : value = 0 ∨ value = 1) :
    (commandOutput world target.2 (some target.1) value).1.Binary := by
  rw [commandOutput_outcome]
  exact Verdict.outcome_binary world target.2 binary _

section

variable {rawValue : RawValue}
    {jsonFields : List UInt8 → Option ActuateFields}
    {resourceId sent : List UInt8} {value : Int}
    {arrival : Arrival UInt8}

theorem SameRequest.agrees_unreadable_iff
    (same : SameRequest rawValue jsonFields resourceId sent value arrival)
    (world : ManualWorld) (body : Nat → UInt8)
    (usable : UsableQuery sent value)
    (unreadable : ¬ ReadableBody arrival.body) :
    ManualAgree rawValue jsonFields world (setQuery sent value) arrival body ↔
    commandTarget world.entries sent ≠ none ∧
    ¬ (value = 0 ∨ value = 1) := by
  rw [ManualAgree,
    resourceActuateHandler_unreadable jsonFields world body unreadable,
    same.setHandler_usable world usable]
  cases known : commandTarget world.entries sent with
  | none => simp
  | some target =>
      by_cases binary : value = 0 ∨ value = 1
      · have decided :=
          @commandOutput_ne_refused world target.2 (some target.1)
            (Int32.ofInt value) 400 "BAD_REQUEST" (by decide)
        simp only [if_pos binary]
        exact
          ⟨fun agree => absurd agree.1.symm decided,
            fun condition => absurd binary condition.2⟩
      · simp only [if_neg binary]
        exact
          ⟨fun _ => ⟨Option.some_ne_none target, binary⟩,
            fun _ => ⟨trivial, trivial, trivial⟩⟩

theorem SameRequest.disagrees_unusable
    (same : SameRequest rawValue jsonFields resourceId sent value arrival)
    (world : ManualWorld) (body : Nat → UInt8)
    (unusable : ¬ UsableQuery sent value)
    (readable : ReadableBody arrival.body) :
    ¬ ManualAgree rawValue jsonFields world (setQuery sent value) arrival
        body := by
  rw [ManualAgree, same.setHandler_unusable world unusable,
    same.resourceActuateHandler_readable world body readable]
  rintro ⟨equal, -⟩
  cases known : commandTarget world.entries resourceId with
  | none =>
      rw [known] at equal
      simp at equal
  | some target =>
      rw [known] at equal
      exact
        commandOutput_ne_refused world target.2 (some target.1)
          (cJsonValueint value) (by decide) equal

theorem agreesOn_read_iff
    (world : ManualWorld) (usable : UsableQuery sent value)
    (readable : ReadableBody arrival.body) :
    AgreesOn world resourceId sent value arrival.body ↔
    (commandTarget world.entries sent = none ∧
        commandTarget world.entries resourceId = none) ∨
      ∃ first second,
        commandTarget world.entries sent = some first ∧
        commandTarget world.entries resourceId = some second ∧
        (value = 0 ∨ value = 1) ∧ world.Alike first second := by
  constructor
  · rintro (⟨unusable, -⟩ | ⟨-, unreadable⟩ | ⟨-, -, sentUnknown, unknown⟩ |
      ⟨-, -, first, second, sentKnown, known, binary, alike⟩)
    · exact absurd usable unusable
    · exact absurd readable unreadable
    · exact .inl ⟨sentUnknown, unknown⟩
    · exact .inr ⟨first, second, sentKnown, known, binary, alike⟩
  · rintro (⟨sentUnknown, unknown⟩ |
      ⟨first, second, sentKnown, known, binary, alike⟩)
    · exact .bothUnknown usable readable sentUnknown unknown
    · exact .bothKnown usable readable first second sentKnown known binary alike

theorem SameRequest.agrees_read_iff
    (same : SameRequest rawValue jsonFields resourceId sent value arrival)
    (world : ManualWorld) (body : Nat → UInt8)
    (usable : UsableQuery sent value)
    (readable : ReadableBody arrival.body) :
    ManualAgree rawValue jsonFields world (setQuery sent value) arrival body ↔
    AgreesOn world resourceId sent value arrival.body := by
  rw [ManualAgree, same.setHandler_usable world usable,
    same.resourceActuateHandler_readable world body readable,
    agreesOn_read_iff world usable readable]
  have refusal :
      ∀ (target : UInt32 × UInt16) (number : Int32) (status : Nat)
        (text : String), text ∈ argumentTexts →
        (commandOutput world target.2 (some target.1) number).1 ≠
          .refused status text :=
    fun target number _ _ =>
      commandOutput_ne_refused world target.2 _ number
  cases commandTarget world.entries sent with
  | none =>
      cases commandTarget world.entries resourceId with
      | none =>
          exact ⟨fun _ => .inl ⟨rfl, rfl⟩, fun _ => ⟨rfl, trivial, trivial⟩⟩
      | some second =>
          -- Only the decoded identifier is known.
          have differ :=
            refusal second (cJsonValueint value) 404 "RESOURCE_NOT_FOUND"
              (by decide)
          simp [differ]
  | some first =>
      by_cases binary : value = 0 ∨ value = 1
      · rcases cJsonValueint_binary binary with ⟨sameNumber, isBinary⟩
        simp only [if_pos binary]
        cases commandTarget world.entries resourceId with
        | none =>
            -- Only the encoded identifier is known.
            have differ :=
              refusal first (Int32.ofInt value) 404 "RESOURCE_NOT_FOUND"
                (by decide)
            simp [differ.symm]
        | some second =>
            have firstBinary := commandOutput_binary world first isBinary
            have secondBinary := commandOutput_binary world second isBinary
            simp [sameNumber, commandOutput_eq_iff, firstBinary,
              secondBinary, binary]
      · -- The query is refused for its value, and the body is not.
        simp only [if_neg binary]
        cases commandTarget world.entries resourceId with
        | none => simp
        | some second =>
            have differ :=
              refusal second (cJsonValueint value) 400 "BAD_REQUEST" (by decide)
            simp [differ, binary]

/-- The endpoints agree on the requests whose arguments they read alike. -/
theorem manual_endpoints_agree_iff
    (same : SameRequest rawValue jsonFields resourceId sent value arrival)
    (world : ManualWorld) (body : Nat → UInt8) :
    ManualAgree rawValue jsonFields world (setQuery sent value) arrival body ↔
    AgreesOn world resourceId sent value arrival.body := by
  by_cases usable : UsableQuery sent value
  · by_cases readable : ReadableBody arrival.body
    · exact same.agrees_read_iff world body usable readable
    · rw [same.agrees_unreadable_iff world body usable readable]
      constructor
      · rintro ⟨known, wide⟩
        exact .valueRefused usable readable known wide
      · rintro (⟨unusable, -⟩ | ⟨-, -, known, wide⟩ | ⟨-, isReadable, -⟩ |
          ⟨-, isReadable, -⟩)
        · exact absurd usable unusable
        · exact ⟨known, wide⟩
        · exact absurd isReadable readable
        · exact absurd isReadable readable
  · by_cases readable : ReadableBody arrival.body
    · constructor
      · intro agree
        exact absurd agree (same.disagrees_unusable world body usable readable)
      · rintro (⟨-, unreadable⟩ | ⟨isUsable, -⟩ | ⟨isUsable, -⟩ |
          ⟨isUsable, -⟩)
        · exact absurd readable unreadable
        · exact absurd isUsable usable
        · exact absurd isUsable usable
        · exact absurd isUsable usable
    · rw [ManualAgree, same.setHandler_unusable world usable,
        resourceActuateHandler_unreadable jsonFields world body readable]
      exact
        ⟨fun _ => .bothRefused usable readable,
          fun _ => ⟨rfl, trivial, trivial⟩⟩

end

/-! ## A relay of another node -/

def inPieces (body : List UInt8) : Arrival UInt8 where
  body := body
  returns := fun _ wanted => min wanted 16
  fits := fun _ _ => by omega

theorem inPieces_delivers (body : List UInt8) : (inPieces body).Delivers := by
  intro call wanted more
  simp only [inPieces]
  omega

def memberNamed (key : String) (members : List (List UInt8 × Json)) :
    Option Json :=
  (members.find? fun member => member.1 = CText.bytes key).map Prod.snd

/-- The fields that a decoder of JSON texts finds; of a fraction the whole
part counts. -/
def decodedFields (text : List UInt8) : Option ActuateFields :=
  (Json.decode text).map fun json =>
    match json with
    | .object members =>
        { resourceId :=
            match memberNamed "resource_id" members with
            | some (.string bytes) => some bytes
            | _ => none
          value :=
            match memberNamed "value" members with
            | some (.number mantissa exponent) =>
                if 0 ≤ exponent then some (mantissa * 10 ^ exponent.toNat)
                else some (mantissa.tdiv (10 ^ exponent.natAbs))
            | _ => none }
    | _ => { resourceId := none, value := none }

def outputOfTwo (channelId : UInt16) (localCode : String) :
    InstallationEntry where
  nodeId := 2
  kind := 1
  channelId := channelId
  localCode := CText.bytes localCode
  globalCode := []
  aliasText := []
  room := []
  group := []
  visibility := []
  notes := []
  sortOrder := 0

/-- The node 1, which knows the node 2 as active, its relay as `R1` and its
pump as `BOMBA 01`. -/
def relayOfTwo : ManualWorld where
  entries := [outputOfTwo 100 "R1", outputOfTwo 101 "BOMBA 01"]
  registry :=
    [{ RegistryEntry.zero with nodeId := 2, registryState := stateActive }]
  io := clusterIoInit 1
  selfNode := 1
  transportReady := true
  broadcasts := true
  failsafe := .switchOff 100 0
  commands := ioCommandInit

def relayText (value : String) : List UInt8 :=
  CText.bytes ("\x7b\"resource_id\":\"R1\",\"value\":" ++ value ++ "\x7d")

def pumpText : List UInt8 :=
  CText.bytes "\x7b\"resource_id\":\"BOMBA 01\",\"value\":1\x7d"

theorem relay_encodes :
    Percent.FormEncodes (CText.bytes "R1") (CText.bytes "R1") :=
  .literal (by decide) (by decide) (.literal (by decide) (by decide) .nil)

theorem pump_encodes :
    Percent.FormEncodes (CText.bytes "BOMBA 01")
      (CText.bytes "BOMBA%2001") := by
  have literal :
      ∀ {byte : UInt8} {text encoded : List UInt8}, byte ≠ 37 → byte ≠ 43 →
      Percent.FormEncodes text encoded →
      Percent.FormEncodes (byte :: text) (byte :: encoded) :=
    fun notPercent notPlus rest => .literal notPercent notPlus rest
  refine literal (by decide) (by decide) (literal (by decide) (by decide)
    (literal (by decide) (by decide) (literal (by decide) (by decide)
      (literal (by decide) (by decide) (.escape (by decide) (by decide)
        (literal (by decide) (by decide)
          (literal (by decide) (by decide) .nil)))))))

/-- The value 2 for the relay is refused in a query, and broadcast from a JSON
text. -/
theorem two_broadcast :
    SameRequest splitRawValue decodedFields (CText.bytes "R1")
        (CText.bytes "R1") 2 (inPieces (relayText "2")) ∧
    (setHandler splitRawValue relayOfTwo
          (some (setQuery (CText.bytes "R1") 2))).1 =
        .refused 400 "BAD_REQUEST" ∧
    (resourceActuateHandler decodedFields relayOfTwo
          (inPieces (relayText "2")) fun _ => 0).1 =
        .broadcast
          { targetNode := 2
            requesterNode := 1
            outputId := 100
            value := 2 } ∧
      ¬ ManualAgree splitRawValue decodedFields relayOfTwo
          (setQuery (CText.bytes "R1") 2) (inPieces (relayText "2"))
          fun _ => 0 := by
  have refused :
      (setHandler splitRawValue relayOfTwo
          (some (setQuery (CText.bytes "R1") 2))).1 =
        .refused 400 "BAD_REQUEST" := by
    decide +kernel
  have broadcast :
      (resourceActuateHandler decodedFields relayOfTwo
          (inPieces (relayText "2")) fun _ => 0).1 =
        .broadcast
          { targetNode := 2
            requesterNode := 1
            outputId := 100
            value := 2 } := by
    decide +kernel
  refine ⟨?_, refused, broadcast, ?_⟩
  · exact
      { encodes := relay_encodes
        idFound := by decide +kernel
        valueFound := by decide +kernel
        noNumber := by decide +kernel
        parsed := by decide +kernel
        delivers := inPieces_delivers _ }
  · rintro ⟨equal, -⟩
    rw [refused, broadcast] at equal
    cases equal

/-- With the value 1 the endpoints agree about the relay, and not about the
pump, whose identifier is not decoded. -/
theorem relay_agrees :
    ManualAgree splitRawValue decodedFields relayOfTwo
        (setQuery (CText.bytes "R1") 1) (inPieces (relayText "1"))
        (fun _ => 0) ∧
      ¬ ManualAgree splitRawValue decodedFields relayOfTwo
          (setQuery (CText.bytes "BOMBA%2001") 1) (inPieces pumpText)
          fun _ => 0 := by
  have relay :
      SameRequest splitRawValue decodedFields (CText.bytes "R1")
        (CText.bytes "R1") 1 (inPieces (relayText "1")) :=
    { encodes := relay_encodes
      idFound := by decide +kernel
      valueFound := by decide +kernel
      noNumber := by decide +kernel
      parsed := by decide +kernel
      delivers := inPieces_delivers _ }
  have pump :
      SameRequest splitRawValue decodedFields (CText.bytes "BOMBA 01")
        (CText.bytes "BOMBA%2001") 1 (inPieces pumpText) :=
    { encodes := pump_encodes
      idFound := by decide +kernel
      valueFound := by decide +kernel
      noNumber := by decide +kernel
      parsed := by decide +kernel
      delivers := inPieces_delivers _ }
  have sentUnknown :
      commandTarget relayOfTwo.entries (CText.bytes "BOMBA%2001") = none := by
    decide +kernel
  have known :
      commandTarget relayOfTwo.entries (CText.bytes "BOMBA 01") =
        some (2, 101) := by
    decide +kernel
  refine
    ⟨(manual_endpoints_agree_iff relay relayOfTwo fun _ => 0).mpr ?_,
      fun agree => ?_⟩
  · exact
      .bothKnown (by decide +kernel) (by decide +kernel) (2, 100) (2, 100)
        (by decide +kernel) (by decide +kernel) (.inr rfl)
        ⟨rfl, .inr rfl⟩
  · rcases (manual_endpoints_agree_iff pump relayOfTwo fun _ => 0).mp
        agree with
      ⟨unusable, -⟩ | ⟨-, unreadable⟩ | ⟨-, -, -, unknown⟩ |
        ⟨-, -, first, second, sentKnown, -⟩
    · exact unusable (by decide +kernel)
    · exact unreadable (by decide +kernel)
    · rw [known] at unknown
      cases unknown
    · rw [sentUnknown] at sentKnown
      cases sentKnown

end Endap.Installation
