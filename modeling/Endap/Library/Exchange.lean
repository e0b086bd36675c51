import Endap.Library.Run

/-!
# Calls answered over an unreliable channel

A caller sends one frame for each call and waits until its receive handler
puts an answer into a mailbox of one place, or until it gives up.  One call
runs at a time.  Frames in flight are delivered in any order, any number of
times and after any delay, or lost; a peer that handles a frame may send
another one.

A call that reports success is only as good as the frames that may reach the
mailbox while it runs.  The rule of this module says which frames do no harm:
they are not accepted as a success, and what a peer sends in answer to one
does no harm either, or was sent by a peer that did what the call is for.
-/

namespace Endap.Library.Exchange

variable {Request Frame Peers Input Event : Type*}

/-- A call, with its number among the calls of the caller. -/
structure Call (Request : Type*) where
  number : Nat
  request : Request
deriving DecidableEq

/-- A mailbox of one place and the signal that it was filled. -/
structure Mailbox (Frame : Type*) where
  signal : Bool
  content : Frame

/-- How far a call has come. -/
inductive Stage where
  | prepared
  | sent
  | taken

/-- What a protocol adds to the exchange. -/
structure Protocol (Request Frame Peers Input Event : Type*) where
  blank : Frame
  frameOf : Call Request → Frame
  accepts : Option (Call Request) → Frame → Bool
  succeeds : Frame → Bool
  handle : Peers → Frame → Input → Peers × Option (Event × Frame)

/-- The caller, the channel and the peers. -/
structure World (Request Frame Peers : Type*) where
  ready : Bool
  mailbox : Mailbox Frame
  calls : Nat
  call : Option (Call Request × Stage)
  inFlight : List Frame
  peers : Peers

inductive Action (Request Input : Type*) where
  | prepare (created : Bool)
  | begin (request : Request)
  | send (sent : Bool)
  | wake
  | expire
  | finish
  | receive (index : Nat)
  | handle (index : Nat) (input : Input)
  | lose (index : Nat)

/-- What a step shows to the outside. -/
inductive Output (Request Event : Type*) where
  | quiet
  | began (call : Call Request)
  | handled (event : Event)
  | returned (call : Call Request) (result : Bool)
deriving DecidableEq

namespace World

variable (protocol : Protocol Request Frame Peers Input Event)
    (world : World Request Frame Peers)

/-- The call that runs. -/
def current : Option (Call Request) := world.call.map Prod.fst

/-- A call begins: it clears the signal and the mailbox. -/
def begin (request : Request) :
    World Request Frame Peers × Output Request Event :=
  let call : Call Request := ⟨world.calls, request⟩
  if world.ready then
    match world.call with
    | some _ => (world, .quiet)
    | none =>
        ({ world with
            mailbox := ⟨false, protocol.blank⟩
            calls := world.calls + 1
            call := some (call, .prepared) },
          .began call)
  else
    (world, .returned call false)

/-- The frame of the call is sent, or cannot be sent. -/
def send (sent : Bool) : World Request Frame Peers × Output Request Event :=
  match world.call with
  | some (call, .prepared) =>
      if sent then
        ({ world with
            inFlight := world.inFlight ++ [protocol.frameOf call]
            call := some (call, .sent) },
          .quiet)
      else
        ({ world with call := none }, .returned call false)
  | some (_, .sent) => (world, .quiet)
  | some (_, .taken) => (world, .quiet)
  | none => (world, .quiet)

/-- The caller takes the signal, if there is one. -/
def wake : World Request Frame Peers × Output Request Event :=
  match world.call with
  | some (call, .sent) =>
      if world.mailbox.signal then
        ({ world with
            mailbox := { world.mailbox with signal := false }
            call := some (call, .taken) },
          .quiet)
      else
        (world, .quiet)
  | some (_, .prepared) => (world, .quiet)
  | some (_, .taken) => (world, .quiet)
  | none => (world, .quiet)

/-- The caller gives up waiting. -/
def expire : World Request Frame Peers × Output Request Event :=
  match world.call with
  | some (call, .sent) =>
      if world.mailbox.signal then (world, .quiet)
      else ({ world with call := none }, .returned call false)
  | some (_, .prepared) => (world, .quiet)
  | some (_, .taken) => (world, .quiet)
  | none => (world, .quiet)

/-- The caller reads the mailbox and returns. -/
def finish : World Request Frame Peers × Output Request Event :=
  match world.call with
  | some (call, .taken) =>
      ({ world with call := none },
        .returned call (protocol.succeeds world.mailbox.content))
  | some (_, .prepared) => (world, .quiet)
  | some (_, .sent) => (world, .quiet)
  | none => (world, .quiet)

/-- The receive handler of the caller gets a frame. -/
def receive (index : Nat) : World Request Frame Peers × Output Request Event :=
  match world.inFlight[index]? with
  | none => (world, .quiet)
  | some frame =>
      if world.ready && protocol.accepts world.current frame then
        ({ world with mailbox := ⟨true, frame⟩ }, .quiet)
      else
        (world, .quiet)

/-- A peer gets a frame. -/
def handle (index : Nat) (input : Input) :
    World Request Frame Peers × Output Request Event :=
  match world.inFlight[index]? with
  | none => (world, .quiet)
  | some frame =>
      match protocol.handle world.peers frame input with
      | (peers, none) => ({ world with peers := peers }, .quiet)
      | (peers, some (event, reply)) =>
          ({ world with
              peers := peers
              inFlight := world.inFlight ++ [reply] },
            .handled event)

def step :
    Action Request Input → World Request Frame Peers × Output Request Event
  | .prepare created =>
      ({ world with ready := world.ready || created }, .quiet)
  | .begin request => world.begin protocol request
  | .send sent => world.send protocol sent
  | .wake => world.wake
  | .expire => world.expire
  | .finish => world.finish protocol
  | .receive index => world.receive protocol index
  | .handle index input => world.handle protocol index input
  | .lose index =>
      ({ world with inFlight := world.inFlight.eraseIdx index }, .quiet)

end World

/-- The call that an output opens. -/
def Output.opens : Output Request Event → Option (Call Request)
  | .quiet => none
  | .began call => some call
  | .handled _ => none
  | .returned _ _ => none

/-! ## What a step can do -/

/-- Everything that one step can do. -/
inductive Move
    (protocol : Protocol Request Frame Peers Input Event)
    (world : World Request Frame Peers) :
    Action Request Input →
    World Request Frame Peers × Output Request Event → Prop where
  | rest (action : Action Request Input)
      (after : World Request Frame Peers)
      (sameCall : after.call = world.call)
      (sameMailbox : after.mailbox = world.mailbox)
      (noneNew : ∀ frame ∈ after.inFlight, frame ∈ world.inFlight) :
      Move protocol world action (after, .quiet)
  | unready (action : Action Request Input) (call : Call Request) :
      Move protocol world action (world, .returned call false)
  | opened (request : Request) (ready : world.ready = true)
      (idle : world.call = none) :
      Move protocol world (.begin request)
        ({ world with
            mailbox := ⟨false, protocol.blank⟩
            calls := world.calls + 1
            call := some (⟨world.calls, request⟩, .prepared) },
          .began ⟨world.calls, request⟩)
  | sent (action : Action Request Input) (call : Call Request)
      (running : world.call = some (call, .prepared)) :
      Move protocol world action
        ({ world with
            inFlight := world.inFlight ++ [protocol.frameOf call]
            call := some (call, .sent) },
          .quiet)
  | failed (action : Action Request Input) (call : Call Request) :
      Move protocol world action
        ({ world with call := none }, .returned call false)
  | taken (action : Action Request Input) (call : Call Request)
      (running : world.call = some (call, .sent))
      (signal : world.mailbox.signal = true) :
      Move protocol world action
        ({ world with
            mailbox := { world.mailbox with signal := false }
            call := some (call, .taken) },
          .quiet)
  | finished (action : Action Request Input) (call : Call Request)
      (running : world.call = some (call, .taken)) :
      Move protocol world action
        ({ world with call := none },
          .returned call (protocol.succeeds world.mailbox.content))
  | received (action : Action Request Input) (frame : Frame)
      (inFlight : frame ∈ world.inFlight)
      (accepted : protocol.accepts world.current frame = true) :
      Move protocol world action
        ({ world with mailbox := ⟨true, frame⟩ }, .quiet)
  | handled (action : Action Request Input) (frame : Frame)
      (inFlight : frame ∈ world.inFlight) (input : Input) (after : Peers)
      (event : Event) (reply : Frame)
      (handles :
        protocol.handle world.peers frame input =
          (after, some (event, reply))) :
      Move protocol world action
        ({ world with
            peers := after
            inFlight := world.inFlight ++ [reply] },
          .handled event)

section

variable (protocol : Protocol Request Frame Peers Input Event)
    (world : World Request Frame Peers)

theorem Move.same (action : Action Request Input) :
    Move protocol world action (world, .quiet) :=
  .rest action world rfl rfl (fun _ member => member)

theorem begin_move (request : Request) :
    Move protocol world (.begin request)
      (world.begin protocol request) := by
  rw [World.begin]
  split
  · next ready =>
      split
      · exact Move.same protocol world _
      · next idle => exact .opened request ready idle
  · exact .unready _ _

theorem send_move (sent : Bool) :
    Move protocol world (.send sent) (world.send protocol sent) := by
  rw [World.send]
  split
  · next call running =>
      split
      · exact .sent _ call running
      · exact .failed _ call
  · exact Move.same protocol world _
  · exact Move.same protocol world _
  · exact Move.same protocol world _

theorem wake_move : Move protocol world .wake world.wake := by
  rw [World.wake]
  split
  · next call running =>
      split
      · next signal => exact .taken _ call running signal
      · exact Move.same protocol world _
  · exact Move.same protocol world _
  · exact Move.same protocol world _
  · exact Move.same protocol world _

theorem expire_move : Move protocol world .expire world.expire := by
  rw [World.expire]
  split
  · next call running =>
      split
      · exact Move.same protocol world _
      · exact .failed _ call
  · exact Move.same protocol world _
  · exact Move.same protocol world _
  · exact Move.same protocol world _

theorem finish_move : Move protocol world .finish (world.finish protocol) := by
  rw [World.finish]
  split
  · next call running => exact .finished _ call running
  · exact Move.same protocol world _
  · exact Move.same protocol world _
  · exact Move.same protocol world _

theorem receive_move (index : Nat) :
    Move protocol world (.receive index)
      (world.receive protocol index) := by
  rw [World.receive]
  split
  · exact Move.same protocol world _
  · next frame found =>
      split
      · next accepted =>
          exact
            .received _ frame (List.mem_of_getElem? found)
              (Bool.and_eq_true_iff.mp accepted).2
      · exact Move.same protocol world _

theorem handle_move (index : Nat) (input : Input) :
    Move protocol world (.handle index input)
      (world.handle protocol index input) := by
  rw [World.handle]
  split
  · exact Move.same protocol world _
  · next frame found =>
      split
      · exact .rest _ _ rfl rfl (fun _ member => member)
      · next after event reply handles =>
          exact
            .handled _ frame (List.mem_of_getElem? found) input after event
              reply handles

theorem step_move (action : Action Request Input) :
    Move protocol world action (world.step protocol action) := by
  cases action with
  | prepare created => exact .rest _ _ rfl rfl (fun _ member => member)
  | begin request => exact begin_move protocol world request
  | send sent => exact send_move protocol world sent
  | wake => exact wake_move protocol world
  | expire => exact expire_move protocol world
  | finish => exact finish_move protocol world
  | receive index => exact receive_move protocol world index
  | handle index input => exact handle_move protocol world index input
  | lose index =>
      exact .rest _ _ rfl rfl (fun _ member => List.mem_of_mem_eraseIdx member)

end

/-! ## Harmless frames -/

section

variable {protocol : Protocol Request Frame Peers Input Event}
    {Harmless : Call Request → Frame → Prop}
    {Fulfils : Call Request → Event → Prop}
    {world : World Request Frame Peers} {action : Action Request Input}
    {result : World Request Frame Peers × Output Request Event}
    {call : Call Request}

/-- What makes frames harmless to a call. -/
structure Protocol.Confines
    (protocol : Protocol Request Frame Peers Input Event)
    (Harmless : Call Request → Frame → Prop)
    (Fulfils : Call Request → Event → Prop) : Prop where
  own : ∀ call, Harmless call (protocol.frameOf call)
  reply :
    ∀ call peers frame input after event reply,
      Harmless call frame →
      protocol.handle peers frame input = (after, some (event, reply)) →
      Fulfils call event ∨ Harmless call reply
  refused :
    ∀ call frame,
      Harmless call frame → protocol.accepts (some call) frame = true →
      protocol.succeeds frame = false

/-- A call begins with harmless frames in flight only. -/
def BeginsClean
    (Harmless : Call Request → Frame → Prop)
    (world : World Request Frame Peers) (action : Action Request Input) :
    Prop :=
  ∀ request, action = .begin request → world.ready = true →
  world.call = none →
  ∀ frame ∈ world.inFlight, Harmless ⟨world.calls, request⟩ frame

instance [∀ call frame, Decidable (Harmless call frame)] :
    Decidable (BeginsClean Harmless world action) :=
  match action with
  | .begin request =>
      decidable_of_iff
        (world.ready = true → world.call = none →
        ∀ frame ∈ world.inFlight, Harmless ⟨world.calls, request⟩ frame)
        ⟨fun clean _ same => by cases same; exact clean,
          fun clean => clean request rfl⟩
  | .prepare _ => .isTrue nofun
  | .send _ => .isTrue nofun
  | .wake => .isTrue nofun
  | .expire => .isTrue nofun
  | .finish => .isTrue nofun
  | .receive _ => .isTrue nofun
  | .handle _ _ => .isTrue nofun
  | .lose _ => .isTrue nofun

/-- A peer has done what the call is for. -/
def Fulfilled
    (Fulfils : Call Request → Event → Prop) (call : Call Request)
    (since :
      List
        (Run.Transition (World Request Frame Peers) (Action Request Input)
          (Output Request Event))) :
    Prop :=
  ∃ transition ∈ since, ∃ event,
    transition.output = .handled event ∧ Fulfils call event

/-- Nothing that may reach the mailbox is a success. -/
structure Unanswered
    (protocol : Protocol Request Frame Peers Input Event)
    (Harmless : Call Request → Frame → Prop) (call : Call Request)
    (stage : Stage) (world : World Request Frame Peers) : Prop where
  running : world.call = some (call, stage)
  harmless : ∀ frame ∈ world.inFlight, Harmless call frame
  mailbox :
    world.mailbox.signal = true ∨ stage = .taken →
    protocol.succeeds world.mailbox.content = false

theorem current_of_call
    {stage : Stage} (running : world.call = some (call, stage)) :
    world.current = some call := by
  rw [World.current, running]
  rfl

/-- A call that runs ends or goes on, and no other call is opened. -/
theorem Move.current
    (move : Move protocol world action result)
    (isCurrent : world.current = some call) :
    result.1.current = none ∨
    result.1.current = some call ∧ result.2.opens = none := by
  cases move with
  | rest _ after sameCall =>
      refine Or.inr ⟨?_, rfl⟩
      rw [World.current, sameCall]
      exact isCurrent
  | opened request ready idle =>
      rw [World.current, idle] at isCurrent
      cases isCurrent
  | sent _ same running =>
      rw [current_of_call running] at isCurrent
      exact Or.inr ⟨isCurrent, rfl⟩
  | failed => exact Or.inl rfl
  | taken _ same running =>
      rw [current_of_call running] at isCurrent
      exact Or.inr ⟨isCurrent, rfl⟩
  | finished => exact Or.inl rfl
  | _ => exact Or.inr ⟨isCurrent, rfl⟩

/-- As long as no peer has done what the call is for, no step brings a
success into the mailbox. -/
theorem Move.unanswered
    (confines : protocol.Confines Harmless Fulfils)
    (move : Move protocol world action result) {stage : Stage}
    (unanswered : Unanswered protocol Harmless call stage world) :
    result.1.current = none ∨
    (∃ next, Unanswered protocol Harmless call next result.1) ∨
    ∃ event, result.2 = .handled event ∧ Fulfils call event := by
  rcases unanswered with ⟨running, harmless, mailbox⟩
  cases move with
  | rest _ after sameCall sameMailbox noneNew =>
      refine Or.inr (Or.inl ⟨stage, sameCall.trans running, ?_, ?_⟩)
      · intro frame member
        exact harmless frame (noneNew frame member)
      · rw [sameMailbox]
        exact mailbox
  | unready => exact Or.inr (Or.inl ⟨stage, running, harmless, mailbox⟩)
  | opened request ready idle =>
      rw [idle] at running
      cases running
  | sent _ same prepared =>
      rw [prepared] at running
      cases running
      refine Or.inr (Or.inl ⟨.sent, rfl, ?_, ?_⟩)
      · intro frame member
        rcases List.mem_append.mp member with earlier | isOwn
        · exact harmless frame earlier
        · rw [List.mem_singleton.mp isOwn]
          exact confines.own _
      · rintro (signal | isTaken)
        · exact mailbox (Or.inl signal)
        · cases isTaken
  | taken _ same sent signal =>
      rw [sent] at running
      cases running
      refine Or.inr (Or.inl ⟨.taken, rfl, harmless, ?_⟩)
      intro _
      exact mailbox (Or.inl signal)
  | received _ frame inFlight accepted =>
      refine Or.inr (Or.inl ⟨stage, running, harmless, ?_⟩)
      intro _
      rw [current_of_call running] at accepted
      exact confines.refused call frame (harmless frame inFlight) accepted
  | handled _ frame inFlight input after event reply handles =>
      rcases
        confines.reply call _ frame input after event reply
          (harmless frame inFlight) handles with
        fulfils | safe
      · exact Or.inr (Or.inr ⟨event, rfl, fulfils⟩)
      · refine Or.inr (Or.inl ⟨stage, running, ?_, mailbox⟩)
        intro other member
        rcases List.mem_append.mp member with earlier | isReply
        · exact harmless other earlier
        · rw [List.mem_singleton.mp isReply]
          exact safe
  | _ => exact Or.inl rfl

/-- A call that begins is opened, with an empty mailbox. -/
theorem Move.opens
    (move : Move protocol world action result)
    (idle : world.call = none) (clean : BeginsClean Harmless world action)
    (isCurrent : result.1.current = some call) :
    result.2.opens = some call ∧
    Unanswered protocol Harmless call .prepared result.1 := by
  have noCurrent : world.current = none := Option.map_eq_none_iff.mpr idle
  cases move with
  | rest _ after sameCall =>
      rw [World.current, sameCall, idle] at isCurrent
      cases isCurrent
  | unready =>
      rw [noCurrent] at isCurrent
      cases isCurrent
  | opened request ready =>
      cases isCurrent
      refine ⟨rfl, rfl, clean request rfl ready idle, ?_⟩
      rintro (signal | isTaken)
      · cases signal
      · cases isTaken
  | sent _ same running =>
      rw [idle] at running
      cases running
  | taken _ same running =>
      rw [idle] at running
      cases running
  | received => exact absurd (noCurrent.symm.trans isCurrent) (by simp)
  | handled => exact absurd (noCurrent.symm.trans isCurrent) (by simp)
  | _ => cases isCurrent

theorem Move.returned_true
    (move : Move protocol world action result)
    (returns : result.2 = .returned call true) :
    world.call = some (call, .taken) ∧
    protocol.succeeds world.mailbox.content = true := by
  cases move with
  | finished _ same running =>
      injection returns with isCall success
      rw [← isCall]
      exact ⟨running, success⟩
  | _ => cases returns

/-- A call is fulfilled, or nothing that may reach its mailbox is a
success. -/
def Accountable
    (protocol : Protocol Request Frame Peers Input Event)
    (Harmless : Call Request → Frame → Prop)
    (Fulfils : Call Request → Event → Prop) (call : Call Request)
    (since :
      List
        (Run.Transition (World Request Frame Peers) (Action Request Input)
          (Output Request Event)))
    (world : World Request Frame Peers) : Prop :=
  Fulfilled Fulfils call since ∨
  ∃ stage, Unanswered protocol Harmless call stage world

theorem keepsCall (confines : protocol.Confines Harmless Fulfils) :
    Run.KeepsCall (World.step protocol) World.current Output.opens
      (BeginsClean Harmless) (Accountable protocol Harmless Fulfils) := by
  constructor
  · intro world action call idle clean isCurrent
    rcases
      (step_move protocol world action).opens (Option.map_eq_none_iff.mp idle)
        clean isCurrent with
      ⟨opens, unanswered⟩
    exact ⟨opens, Or.inr ⟨.prepared, unanswered⟩⟩
  · intro world action call since isCurrent accountable
    have move := step_move protocol world action
    rcases move.current isCurrent with ended | ⟨still, quiet⟩
    · exact Or.inl ended
    · refine Or.inr ⟨still, quiet, ?_⟩
      rcases accountable with
        ⟨transition, member, fulfils⟩ | ⟨stage, unanswered⟩
      · exact Or.inl ⟨transition, List.mem_append_left _ member, fulfils⟩
      · rcases move.unanswered confines unanswered with
          ended | ⟨next, unanswered⟩ | ⟨event, handled, fulfils⟩
        · rw [ended] at still
          cases still
        · exact Or.inr ⟨next, unanswered⟩
        · exact
            Or.inl
              ⟨_, List.mem_append_right _ (List.mem_singleton_self _),
                event, handled, fulfils⟩

/--
In every run whose calls begin with harmless frames in flight only, a call
that returns success was fulfilled after it began.
-/
theorem returned_fulfilled
    (confines : protocol.Confines Harmless Fulfils)
    {start : World Request Frame Peers} (idle : start.call = none)
    (actions : List (Action Request Input))
    (clean :
      ∀ transition ∈ Run.history (World.step protocol) start actions,
        BeginsClean Harmless transition.before transition.action)
    (returns :
      ((Run.final (World.step protocol) start actions).step protocol action).2 =
        .returned call true) :
    ∃ since,
      Run.Since Output.opens call
          (Run.history (World.step protocol) start actions) since ∧
      Fulfilled Fulfils call since := by
  rcases (step_move protocol _ action).returned_true returns with
    ⟨running, success⟩
  rcases
    (keepsCall confines).since (Option.map_eq_none_iff.mpr idle) actions
      clean (current_of_call running) with
    ⟨since, opened, fulfilled | ⟨stage, unanswered⟩⟩
  · exact ⟨since, opened, fulfilled⟩
  · have isTaken := unanswered.running.symm.trans running
    cases isTaken
    rw [unanswered.mailbox (Or.inr rfl)] at success
    cases success

end

end Endap.Library.Exchange
