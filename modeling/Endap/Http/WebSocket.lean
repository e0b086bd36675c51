import Endap.Library.Run
import Mathlib.Data.List.Nodup
import Mathlib.Data.UInt

/-!
# The state stream of the web server

Clients of the WebSocket are kept in a table of four behind a lock.  Whoever
changes the state of the device sets a flag afterwards, and so does a client
that registers.  One task polls the flag: it takes it, copies the table,
builds the message, sends it to the clients of the copy, and writes those it
reached back as the table.

The polling task leaves the lock between these steps, so that changes,
notifications and registrations may come between any two of them.  The state
of the device is represented by its version, the number of changes so far.
A document that does not fit its buffer is sent as an empty message, and a
client that accepts it counts as reached.
-/

namespace Endap.Http

open Endap.Library
open Endap.Library.Run

def httpWsMaxClients : Nat := 4

def wsPeriodicIntervalUs : UInt64 := 1000 * 1000

/-! ## The steps -/

/-- Where the polling task is within `http_server_process` and
`http_ws_broadcast_state`. -/
inductive WsPoint where
  | idle
  | looked (hasClients : Bool)
  | taken
  | copied (clients : List Int)
  | sending (todo aliveClients : List Int) (shown : Option Nat)
deriving DecidableEq

/-- The variables of the stream, the version of the state of the device, and
where the polling task is. -/
structure WsServer where
  wsClients : List Int
  wsBroadcastPending : Bool
  wsLastPeriodicUs : UInt64
  version : Nat
  point : WsPoint

/-- What any task does, and the steps of the polling task. -/
inductive WsAction where
  | change
  | notify
  | register (fd : Int) (authorized : Bool)
  | look
  | take (nowUs : UInt64)
  | copy
  | build (fits : Bool)
  | send (ok : Bool)
  | writeBack
deriving DecidableEq

/-- What a step does that others can see; an empty message shows no version. -/
inductive WsOutput where
  | quiet
  | registered (fd : Int)
  | copied (clients : List Int)
  | sent (fd : Int) (shown : Option Nat) (ok : Bool)
  | wroteBack

/-- The section of `ws_handler`. -/
def WsServer.register (server : WsServer) (fd : Int) (authorized : Bool) :
    WsServer × WsOutput :=
  if !authorized then (server, .quiet)
  else if fd ∉ server.wsClients ∧
      server.wsClients.length < httpWsMaxClients then
    ({ server with wsClients := server.wsClients ++ [fd] }, .registered fd)
  else (server, .quiet)

/-- The second section of `http_server_process`. -/
def WsServer.take (server : WsServer) (hasClients : Bool)
    (nowUs : UInt64) : WsServer :=
  if hasClients && (server.wsBroadcastPending ||
      wsPeriodicIntervalUs ≤ nowUs - server.wsLastPeriodicUs) then
    { server with
      wsBroadcastPending := false
      wsLastPeriodicUs := nowUs
      point := .taken }
  else { server with point := .idle }

/-- One step of some task.  Steps of the polling task come in their order. -/
def wsStep (server : WsServer) : WsAction → WsServer × WsOutput
  | .change => ({ server with version := server.version + 1 }, .quiet)
  | .notify => ({ server with wsBroadcastPending := true }, .quiet)
  | .register fd authorized => server.register fd authorized
  | .look =>
      match server.point with
      | .idle =>
          if server.wsClients = [] ∧ server.wsBroadcastPending = false then
            (server, .quiet)
          else
            ({ server with point := .looked (server.wsClients ≠ []) }, .quiet)
      | _ => (server, .quiet)
  | .take nowUs =>
      match server.point with
      | .looked hasClients => (server.take hasClients nowUs, .quiet)
      | _ => (server, .quiet)
  | .copy =>
      match server.point with
      | .taken =>
          ({ server with point := .copied server.wsClients },
            .copied server.wsClients)
      | _ => (server, .quiet)
  | .build fits =>
      match server.point with
      | .copied clients =>
          -- Of a document that does not fit the length zero is returned.
          ({ server with
              point :=
                .sending clients []
                  (if fits then some server.version else none) },
            .quiet)
      | _ => (server, .quiet)
  | .send ok =>
      match server.point with
      | .sending (fd :: todo) aliveClients shown =>
          ({ server with
              point :=
                .sending todo
                  (if ok then aliveClients ++ [fd] else aliveClients)
                  shown },
            .sent fd shown ok)
      | _ => (server, .quiet)
  | .writeBack =>
      match server.point with
      | .sending [] aliveClients _ =>
          ({ server with wsClients := aliveClients, point := .idle },
            .wroteBack)
      | _ => (server, .quiet)

/-- The variables as `http_server_start` leaves them. -/
def wsStart (nowUs : UInt64) (version : Nat) : WsServer where
  wsClients := []
  wsBroadcastPending := false
  wsLastPeriodicUs := nowUs
  version := version
  point := .idle

/-! ## What happened -/

abbrev WsPast := List (Transition WsServer WsAction WsOutput)

/-- The version of the state when it was last notified. -/
def notifiedVersion (past : WsPast) : Nat :=
  past.foldl
    (fun version made =>
      if made.action = .notify then made.before.version else version)
    0

/-- The clients that registered since the state was last notified. -/
def registeredSinceNotify (past : WsPast) : List Int :=
  past.foldl
    (fun recent made =>
      if made.action = .notify then []
      else
        match made.output with
        | .registered fd => recent ++ [fd]
        | _ => recent)
    []

/-- The version that was last sent to a client with success. -/
def lastSent (fd : Int) (past : WsPast) : Option Nat :=
  past.foldl
    (fun last made =>
      match made.output with
      | .sent client (some version) true =>
          if client = fd then some version else last
      | _ => last)
    none

/-- The clients of the last copy, those that registered since, and those that
were sent the message since. -/
def sinceCopy (past : WsPast) : List Int × List Int × List Int :=
  past.foldl
    (fun seen made =>
      match made.output with
      | .copied clients => (clients, [], [])
      | .registered fd => (seen.1, seen.2.1 ++ [fd], seen.2.2)
      | .sent fd _ true => (seen.1, seen.2.1, seen.2.2 ++ [fd])
      | _ => seen)
    ([], [], [])

theorem notifiedVersion_snoc (past : WsPast)
    (made : Transition WsServer WsAction WsOutput) :
    notifiedVersion (past ++ [made]) =
      if made.action = .notify then made.before.version
      else notifiedVersion past := by
  rw [notifiedVersion, List.foldl_append]
  rfl

theorem registeredSinceNotify_snoc (past : WsPast)
    (made : Transition WsServer WsAction WsOutput) :
    registeredSinceNotify (past ++ [made]) =
      if made.action = .notify then []
      else
        match made.output with
        | .registered fd => registeredSinceNotify past ++ [fd]
        | _ => registeredSinceNotify past := by
  rw [registeredSinceNotify, List.foldl_append]
  rfl

theorem lastSent_snoc (fd : Int) (past : WsPast)
    (made : Transition WsServer WsAction WsOutput) :
    lastSent fd (past ++ [made]) =
      match made.output with
      | .sent client (some version) true =>
          if client = fd then some version else lastSent fd past
      | _ => lastSent fd past := by
  rw [lastSent, List.foldl_append]
  rfl

theorem sinceCopy_snoc (past : WsPast)
    (made : Transition WsServer WsAction WsOutput) :
    sinceCopy (past ++ [made]) =
      match made.output with
      | .copied clients => (clients, [], [])
      | .registered fd =>
          ((sinceCopy past).1, (sinceCopy past).2.1 ++ [fd],
            (sinceCopy past).2.2)
      | .sent fd _ true =>
          ((sinceCopy past).1, (sinceCopy past).2.1,
            (sinceCopy past).2.2 ++ [fd])
      | _ => sinceCopy past := by
  rw [sinceCopy, List.foldl_append]
  rfl

/-! ## Nobody is left with an old state -/

/-- The client was sent the state that was last notified, or a later one. -/
def Served (past : WsPast) (fd : Int) : Prop :=
  ∃ version, lastSent fd past = some version ∧ notifiedVersion past ≤ version

/-- A client is owed nothing if it registered since the last notification or
was served. -/
def Settled (past : WsPast) (fd : Int) : Prop :=
  fd ∈ registeredSinceNotify past ∨ Served past fd

/-- What is owed to the clients at each point of the polling task. -/
def Owes (past : WsPast) (server : WsServer) : Prop :=
  match server.point with
  | .idle | .looked _ =>
      server.wsBroadcastPending = true ∨
      ∀ fd ∈ server.wsClients, Settled past fd
  | .taken | .copied _ => True
  | .sending _ aliveClients shown =>
      ∃ version,
        shown = some version ∧
        (∀ fd ∈ aliveClients, lastSent fd past = some version) ∧
        (server.wsBroadcastPending = true ∨ notifiedVersion past ≤ version)

/-- Two pasts tell the same of the clients. -/
structure SameTold (past after : WsPast) : Prop where
  notified : notifiedVersion after = notifiedVersion past
  registered : registeredSinceNotify after = registeredSinceNotify past
  sent : ∀ fd, lastSent fd after = lastSent fd past

theorem sameTold_quiet (past : WsPast)
    {made : Transition WsServer WsAction WsOutput}
    (unnotified : made.action ≠ .notify) (quiet : made.output = .quiet) :
    SameTold past (past ++ [made]) where
  notified := by rw [notifiedVersion_snoc, if_neg unnotified]
  registered := by
    rw [registeredSinceNotify_snoc, if_neg unnotified, quiet]
  sent fd := by rw [lastSent_snoc, quiet]

variable {past : WsPast}

theorem SameTold.settled {after : WsPast} (told : SameTold past after)
    {fd : Int} (settled : Settled past fd) : Settled after fd := by
  unfold Settled Served at settled ⊢
  rw [told.registered, told.notified, told.sent]
  exact settled

variable {server : WsServer}

theorem SameTold.owes {after : WsPast} (told : SameTold past after)
    {next : WsServer} (owes : Owes past server)
    (point : next.point = server.point)
    (clients : next.wsClients = server.wsClients)
    (pending : next.wsBroadcastPending = server.wsBroadcastPending) :
    Owes after next := by
  have settled {fd : Int} (holds : Settled past fd) : Settled after fd :=
    told.settled holds
  unfold Owes at owes ⊢
  rw [point, clients, pending, told.notified]
  simp only [told.sent]
  cases at' : server.point with
  | idle =>
      rw [at'] at owes
      exact owes.imp_right fun all fd member => settled (all fd member)
  | looked hasClients =>
      rw [at'] at owes
      exact owes.imp_right fun all fd member => settled (all fd member)
  | taken => trivial
  | copied copy => trivial
  | sending todo aliveClients shown =>
      rw [at'] at owes
      exact owes

theorem notify_owes
    (owes : Owes past server) :
    Owes (past ++ [call wsStep server .notify])
      (wsStep server .notify).1 := by
  have unsent (fd : Int) :
      lastSent fd (past ++ [call wsStep server .notify]) = lastSent fd past :=
    lastSent_snoc fd past _
  unfold Owes at owes ⊢
  simp only [wsStep, unsent]
  cases at' : server.point with
  | idle => exact .inl trivial
  | looked hasClients => exact .inl trivial
  | taken => trivial
  | copied copy => trivial
  | sending todo aliveClients shown =>
      rw [at'] at owes
      rcases owes with ⟨version, isShown, reached, _⟩
      exact ⟨version, isShown, reached, .inl trivial⟩

theorem register_owes
    (owes : Owes past server) (fd : Int) (authorized : Bool) :
    Owes (past ++ [call wsStep server (.register fd authorized)])
      (wsStep server (.register fd authorized)).1 := by
  by_cases enters :
      authorized = true ∧ fd ∉ server.wsClients ∧
      server.wsClients.length < httpWsMaxClients
  · have step :
        wsStep server (.register fd authorized) =
          ({ server with wsClients := server.wsClients ++ [fd] },
            .registered fd) := by
      simp [wsStep, WsServer.register, enters]
    have registered :
        registeredSinceNotify
            (past ++ [call wsStep server (.register fd authorized)]) =
          registeredSinceNotify past ++ [fd] := by
      rw [registeredSinceNotify_snoc, call, step]
      rfl
    have notified :
        notifiedVersion
            (past ++ [call wsStep server (.register fd authorized)]) =
          notifiedVersion past :=
      notifiedVersion_snoc past _
    have unsent (client : Int) :
        lastSent client
            (past ++ [call wsStep server (.register fd authorized)]) =
          lastSent client past := by
      rw [lastSent_snoc, call, step]
    unfold Owes at owes ⊢
    rw [step]
    simp only [Settled, Served, registered, notified, unsent] at owes ⊢
    have everyone
        (all : ∀ client ∈ server.wsClients,
          client ∈ registeredSinceNotify past ∨
          ∃ version,
            lastSent client past = some version ∧
            notifiedVersion past ≤ version) :
        ∀ client ∈ server.wsClients ++ [fd],
          client ∈ registeredSinceNotify past ++ [fd] ∨
          ∃ version,
            lastSent client past = some version ∧
            notifiedVersion past ≤ version := by
      intro client member
      rcases List.mem_append.mp member with old | isNew
      · exact (all client old).imp_left (List.mem_append_left _)
      · exact .inl (List.mem_append_right _ isNew)
    cases at' : server.point with
    | idle =>
        rw [at'] at owes
        exact owes.imp_right everyone
    | looked hasClients =>
        rw [at'] at owes
        exact owes.imp_right everyone
    | taken => trivial
    | copied copy => trivial
    | sending todo aliveClients shown =>
        rw [at'] at owes
        exact owes
  · have step :
        wsStep server (.register fd authorized) = (server, .quiet) := by
      simp only [wsStep, WsServer.register]
      cases authorized with
      | false => rfl
      | true =>
          rw [if_neg (by decide), if_neg fun room => enters ⟨rfl, room⟩]
    have told :
        SameTold past
          (past ++ [call wsStep server (.register fd authorized)]) :=
      sameTold_quiet past (by simp [call]) (congrArg Prod.snd step)
    rw [step]
    exact told.owes owes rfl rfl rfl

theorem send_owes
    (owes : Owes past server) (ok : Bool) :
    Owes (past ++ [call wsStep server (.send ok)])
      (wsStep server (.send ok)).1 := by
  rcases server with ⟨clients, pending, last, current, point⟩
  have elsewhere
      (step :
        wsStep ⟨clients, pending, last, current, point⟩ (.send ok) =
          (⟨clients, pending, last, current, point⟩, .quiet)) :
      Owes
        (past ++
          [call wsStep ⟨clients, pending, last, current, point⟩ (.send ok)])
        (wsStep ⟨clients, pending, last, current, point⟩ (.send ok)).1 := by
    have told :=
      @sameTold_quiet past
        (call wsStep ⟨clients, pending, last, current, point⟩ (.send ok))
        nofun (congrArg Prod.snd step)
    rw [step]
    exact told.owes owes rfl rfl rfl
  cases point with
  | idle => exact elsewhere rfl
  | looked hasClients => exact elsewhere rfl
  | taken => exact elsewhere rfl
  | copied copy => exact elsewhere rfl
  | sending todo aliveClients shown =>
      cases todo with
      | nil => exact elsewhere rfl
      | cons fd todo =>
          rcases owes with ⟨version, rfl, reached, good⟩
          have notified :
              notifiedVersion
                  (past ++
                    [call wsStep
                      ⟨clients, pending, last, current,
                        .sending (fd :: todo) aliveClients (some version)⟩
                      (.send ok)]) =
                notifiedVersion past :=
            notifiedVersion_snoc past _
          refine ⟨version, rfl, ?_, ?_⟩
          · intro client member
            rw [lastSent_snoc]
            cases ok with
            | false => exact reached client member
            | true =>
                rcases List.mem_append.mp member with before | isNow
                · simp only [call, wsStep, reached client before, ite_self]
                · rw [List.mem_singleton.mp isNow]
                  exact if_pos rfl
          · rw [notified]
            exact good

theorem writeBack_owes
    (owes : Owes past server)
    {aliveClients : List Int} {shown : Option Nat}
    (point : server.point = .sending [] aliveClients shown) :
    Owes past { server with wsClients := aliveClients, point := .idle } := by
  rw [Owes, point] at owes
  rcases owes with ⟨version, rfl, reached, pending | recent⟩
  · exact .inl pending
  · exact .inr fun fd member => .inr ⟨version, reached fd member, recent⟩

/-- The clients are owed no more after a step than the flag or the message on
its way makes good, as long as the documents fit. -/
theorem step_owes
    (owes : Owes past server)
    (bound : notifiedVersion past ≤ server.version)
    (action : WsAction) (fits : action ≠ .build false) :
    Owes (past ++ [call wsStep server action])
      (wsStep server action).1 := by
  -- Most steps are seen by no client, and leave what is told of them.
  have unseen {next : WsServer} (unnotified : action ≠ .notify)
      (step : wsStep server action = (next, .quiet))
      (later : Owes past next) :
      Owes (past ++ [call wsStep server action])
        (wsStep server action).1 := by
    have told :=
      @sameTold_quiet past (call wsStep server action) unnotified
        (congrArg Prod.snd step)
    rw [step]
    exact told.owes later rfl rfl rfl
  rcases server with ⟨clients, pending, last, version, point⟩
  cases action with
  | change =>
      refine unseen nofun rfl ?_
      cases point with
      | idle => exact owes
      | looked hasClients => exact owes
      | taken => trivial
      | copied copy => trivial
      | sending todo aliveClients shown => exact owes
  | notify => exact notify_owes owes
  | register fd authorized => exact register_owes owes fd authorized
  | look =>
      cases point with
      | idle =>
          by_cases quiet : clients = [] ∧ pending = false
          · exact unseen nofun (if_pos quiet) owes
          · exact unseen nofun (if_neg quiet) owes
      | looked hasClients => exact unseen nofun rfl owes
      | taken => exact unseen nofun rfl owes
      | copied copy => exact unseen nofun rfl owes
      | sending todo aliveClients shown => exact unseen nofun rfl owes
  | take nowUs =>
      cases point with
      | looked hasClients =>
          refine unseen nofun rfl ?_
          rw [WsServer.take]
          split
          · trivial
          · exact owes
      | idle => exact unseen nofun rfl owes
      | taken => exact unseen nofun rfl owes
      | copied copy => exact unseen nofun rfl owes
      | sending todo aliveClients shown => exact unseen nofun rfl owes
  | copy =>
      cases point with
      | taken => trivial
      | idle => exact unseen nofun rfl owes
      | looked hasClients => exact unseen nofun rfl owes
      | copied copy => exact unseen nofun rfl owes
      | sending todo aliveClients shown => exact unseen nofun rfl owes
  | build ok =>
      cases point with
      | copied copy =>
          cases ok with
          | false => exact absurd rfl fits
          | true =>
              -- The document shows at least what was notified so far.
              exact unseen nofun rfl ⟨version, rfl, fun _ => nofun, .inr bound⟩
      | idle => exact unseen nofun rfl owes
      | looked hasClients => exact unseen nofun rfl owes
      | taken => exact unseen nofun rfl owes
      | sending todo aliveClients shown => exact unseen nofun rfl owes
  | send ok => exact send_owes owes ok
  | writeBack =>
      cases point with
      | sending todo aliveClients shown =>
          cases todo with
          | cons fd todo => exact unseen nofun rfl owes
          | nil =>
              have told :
                  SameTold past
                    (past ++
                      [call wsStep
                        ⟨clients, pending, last, version,
                          .sending [] aliveClients shown⟩
                        .writeBack]) :=
                { notified := notifiedVersion_snoc past _
                  registered := registeredSinceNotify_snoc past _
                  sent := fun fd => lastSent_snoc fd past _ }
              exact told.owes (writeBack_owes owes rfl) rfl rfl rfl
      | idle => exact unseen nofun rfl owes
      | looked hasClients => exact unseen nofun rfl owes
      | taken => exact unseen nofun rfl owes
      | copied copy => exact unseen nofun rfl owes

theorem version_le_step (server : WsServer) (action : WsAction) :
    server.version ≤ (wsStep server action).1.version := by
  rcases server with ⟨clients, pending, last, version, point⟩
  cases action with
  | change => exact Nat.le_succ version
  | notify => exact Nat.le_refl version
  | register fd authorized =>
      simp only [wsStep, WsServer.register]
      split_ifs <;> exact Nat.le_refl version
  | look =>
      simp only [wsStep]
      cases point with
      | idle => dsimp only; split_ifs <;> exact Nat.le_refl version
      | _ => exact Nat.le_refl version
  | take nowUs =>
      simp only [wsStep]
      cases point with
      | looked hasClients =>
          dsimp only [WsServer.take]
          split_ifs <;> exact Nat.le_refl version
      | _ => exact Nat.le_refl version
  | copy => cases point <;> exact Nat.le_refl version
  | build fits => cases point <;> exact Nat.le_refl version
  | send ok =>
      cases point with
      | sending todo aliveClients shown =>
          cases todo <;> exact Nat.le_refl version
      | _ => exact Nat.le_refl version
  | writeBack =>
      cases point with
      | sending todo aliveClients shown =>
          cases todo <;> exact Nat.le_refl version
      | _ => exact Nat.le_refl version

theorem step_bound
    (bound : notifiedVersion past ≤ server.version) (action : WsAction) :
    notifiedVersion (past ++ [call wsStep server action]) ≤
      (wsStep server action).1.version := by
  rw [notifiedVersion_snoc]
  split
  · exact version_le_step server action
  · exact bound.trans (version_le_step server action)

/--
As long as every document fits its buffer: whenever the polling task is idle
and the flag is not set, every client of the table was sent the state as it
was last notified, or a later one, but for those that registered since.
-/
theorem nobody_left_behind
    (nowUs : UInt64) (version : Nat) {actions : List WsAction}
    (fits : .build false ∉ actions)
    (idle : (final wsStep (wsStart nowUs version) actions).point = .idle)
    (calm :
      (final wsStep
        (wsStart nowUs version) actions).wsBroadcastPending = false) :
    ∀ fd ∈ (final wsStep (wsStart nowUs version) actions).wsClients,
      fd ∈
          registeredSinceNotify
            (history wsStep (wsStart nowUs version) actions) ∨
      Served (history wsStep (wsStart nowUs version) actions) fd := by
  have along :
      Owes (history wsStep (wsStart nowUs version) actions)
          (final wsStep (wsStart nowUs version) actions) ∧
      notifiedVersion (history wsStep (wsStart nowUs version) actions) ≤
        (final wsStep (wsStart nowUs version) actions).version := by
    clear idle calm
    induction actions using List.reverseRecOn with
    | nil => exact ⟨.inr fun _ => nofun, Nat.zero_le _⟩
    | append_singleton earlier action induction =>
        rw [history_snoc, final_snoc]
        rcases
          induction fun member =>
            fits (List.mem_append_left _ member) with
          ⟨owes, bound⟩
        refine ⟨step_owes owes bound action ?_, step_bound bound action⟩
        rintro rfl
        exact fits (List.mem_append_right _ (List.mem_singleton_self _))
  have owes := along.1
  rw [Owes, idle] at owes
  rcases owes with pending | served
  · rw [calm] at pending
    cases pending
  · exact served

/-- A client registers, the state changes during the broadcast to it, and a
second broadcast follows. -/
def changeDuringBroadcast : List WsAction :=
  [.register 54 true, .notify, .look, .take 10, .copy, .build true, .change,
    .notify, .send true, .writeBack, .look, .take 20, .copy, .build true,
    .send true, .writeBack]

theorem nobody_left_behind_changeDuringBroadcast :
    54 ∈
        registeredSinceNotify
          (history wsStep (wsStart 0 0) changeDuringBroadcast) ∨
    Served (history wsStep (wsStart 0 0) changeDuringBroadcast) 54 :=
  nobody_left_behind 0 0 (by decide) (by decide) (by decide) 54 (by decide)

/-! ## Who leaves the table -/

/-- The table during a broadcast: the clients that were copied, done or to be
done, and those that registered since. -/
def Copies (past : WsPast) (server : WsServer) : Prop :=
  match server.point with
  | .idle | .looked _ | .taken => True
  | .copied clients =>
      ∃ recent,
        sinceCopy past = (clients, recent, []) ∧
        server.wsClients = clients ++ recent
  | .sending todo aliveClients _ =>
      ∃ done recent,
        sinceCopy past = (done ++ todo, recent, aliveClients) ∧
        server.wsClients = done ++ todo ++ recent ∧ aliveClients.Sublist done

/-- No client is in the table twice, and there are at most four. -/
structure WsServer.Tabled (server : WsServer) : Prop where
  distinct : server.wsClients.Nodup
  bound : server.wsClients.length ≤ httpWsMaxClients

theorem register_tabled (tabled : server.Tabled)
    (fd : Int) (authorized : Bool) :
    (server.register fd authorized).1.Tabled := by
  unfold WsServer.register
  split_ifs with refused fits
  · exact tabled
  · refine ⟨?_, ?_⟩
    · rw [List.nodup_append]
      refine ⟨tabled.distinct, List.nodup_singleton fd, ?_⟩
      rintro client member _ isLast rfl
      rw [List.mem_singleton] at isLast
      exact fits.1 (isLast ▸ member)
    · rw [List.length_append, List.length_singleton]
      exact fits.2
  · exact tabled

theorem step_tabled
    (copies : Copies past server) (tabled : server.Tabled)
    (action : WsAction) : (wsStep server action).1.Tabled := by
  cases action with
  | writeBack =>
      rcases server with ⟨clients, pending, last, version, point⟩
      cases point with
      | sending todo aliveClients shown =>
          cases todo with
          | nil =>
              rcases copies with ⟨done, recent, _, table, reached⟩
              have distinct := tabled.distinct
              have bound := tabled.bound
              dsimp only at table distinct bound
              rw [table, List.append_nil] at distinct bound
              rw [List.length_append] at bound
              exact
                ⟨(List.nodup_append.mp distinct).1.sublist reached,
                  reached.length_le.trans (by omega)⟩
          | cons fd todo => exact ⟨tabled.distinct, tabled.bound⟩
      | idle => exact tabled
      | looked hasClients => exact tabled
      | taken => exact tabled
      | copied copy => exact tabled
  | register fd authorized => exact register_tabled tabled fd authorized
  | take nowUs =>
      rcases server with ⟨clients, pending, last, version, point⟩
      cases point with
      | looked hasClients =>
          simp only [wsStep, WsServer.take]
          split_ifs <;> exact ⟨tabled.distinct, tabled.bound⟩
      | _ => exact tabled
  | look =>
      rcases server with ⟨clients, pending, last, version, point⟩
      cases point with
      | idle =>
          simp only [wsStep]
          split_ifs <;> exact ⟨tabled.distinct, tabled.bound⟩
      | _ => exact tabled
  | build fits =>
      rcases server with ⟨clients, pending, last, version, point⟩
      cases point <;> exact ⟨tabled.distinct, tabled.bound⟩
  | send ok =>
      rcases server with ⟨clients, pending, last, version, point⟩
      cases point with
      | sending todo aliveClients shown =>
          cases todo <;> exact ⟨tabled.distinct, tabled.bound⟩
      | _ => exact tabled
  | copy =>
      rcases server with ⟨clients, pending, last, version, point⟩
      cases point <;> exact ⟨tabled.distinct, tabled.bound⟩
  | change => exact ⟨tabled.distinct, tabled.bound⟩
  | notify => exact ⟨tabled.distinct, tabled.bound⟩

theorem step_copies
    (copies : Copies past server) (action : WsAction) :
    Copies (past ++ [call wsStep server action])
      (wsStep server action).1 := by
  rcases server with ⟨clients, pending, last, version, point⟩
  simp only [Copies, sinceCopy_snoc] at copies ⊢
  cases action with
  | send ok =>
      cases point with
      | sending todo aliveClients shown =>
          rcases copies with ⟨done, recent, seen, table, reached⟩
          cases todo with
          | nil =>
              simp only [call, wsStep]
              exact ⟨done, recent, seen, table, reached⟩
          | cons fd todo =>
              rw [List.append_cons] at seen table
              cases ok with
              | true =>
                  simp only [call, wsStep, seen, if_true]
                  exact
                    ⟨done ++ [fd], recent, rfl, table,
                      reached.append (List.Sublist.refl [fd])⟩
              | false =>
                  simp only [call, wsStep]
                  exact
                    ⟨done ++ [fd], recent, seen, table,
                      reached.trans (List.sublist_append_left done [fd])⟩
      | _ => exact copies
  | build fits =>
      cases point with
      | copied copy =>
          rcases copies with ⟨recent, seen, table⟩
          exact ⟨[], recent, seen, table, List.Sublist.refl []⟩
      | _ => exact copies
  | register fd authorized =>
      simp only [call, wsStep, WsServer.register]
      split_ifs
      · exact copies
      · cases point with
        | copied copy =>
            rcases copies with ⟨recent, seen, table⟩
            refine ⟨recent ++ [fd], ?_, ?_⟩
            · rw [seen]
            · rw [← List.append_assoc, ← table]
        | sending todo aliveClients shown =>
            rcases copies with ⟨done, recent, seen, table, reached⟩
            refine ⟨done, recent ++ [fd], ?_, ?_, reached⟩
            · rw [seen]
            · rw [← List.append_assoc, ← table]
        | _ => exact trivial
      · exact copies
  | change => exact copies
  | notify => exact copies
  | look =>
      cases point with
      | idle =>
          simp only [call, wsStep]
          split_ifs <;> exact trivial
      | _ => exact copies
  | take nowUs =>
      cases point with
      | looked hasClients =>
          simp only [call, wsStep, WsServer.take]
          split_ifs <;> exact trivial
      | _ => exact copies
  | copy =>
      cases point with
      | taken => exact ⟨[], rfl, (List.append_nil clients).symm⟩
      | _ => exact copies
  | writeBack =>
      cases point with
      | sending todo aliveClients shown =>
          cases todo with
          | nil => exact trivial
          | cons fd todo => exact copies
      | _ => exact copies

/--
In every run no client is in the table twice and there are at most four.  When
the table is written back it held the clients of the copy and those that
registered since, and it keeps exactly those of the copy that the message
reached: whoever registered during the broadcast is forgotten.
-/
theorem table_written_back
    (nowUs : UInt64) (version : Nat) (actions : List WsAction) :
    let past := history wsStep (wsStart nowUs version) actions
    let server := final wsStep (wsStart nowUs version) actions
    server.Tabled ∧
    ∀ aliveClients shown,
      server.point = .sending [] aliveClients shown →
      server.wsClients = (sinceCopy past).1 ++ (sinceCopy past).2.1 ∧
      (wsStep server .writeBack).1.wsClients = (sinceCopy past).2.2 ∧
      (sinceCopy past).2.2.Sublist (sinceCopy past).1 := by
  intro past server
  have along : Copies past server ∧ server.Tabled := by
    refine
      history_induction
        (motive := fun past (server : WsServer) =>
          Copies past server ∧ server.Tabled)
        ?_ ?_ actions
    · exact ⟨trivial, List.nodup_nil, Nat.zero_le _⟩
    · intro past server action holds
      exact ⟨step_copies holds.1 action, step_tabled holds.1 holds.2 action⟩
  refine ⟨along.2, fun aliveClients shown point => ?_⟩
  have copies := along.1
  rw [Copies, point] at copies
  rcases copies with ⟨done, recent, seen, table, reached⟩
  rw [List.append_nil] at seen table
  rw [seen]
  refine ⟨table, ?_, reached⟩
  simp only [wsStep, point]

/-- A client that registers between the copy and the writing back is no longer
in the table, though nothing went wrong. -/
example :
    (final wsStep (wsStart 0 0)
      [.register 54 true, .notify, .look, .take 10, .copy, .build true,
        .register 55 true, .notify, .send true, .writeBack]).wsClients =
      [54] := by
  decide

end Endap.Http
