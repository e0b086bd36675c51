import Endap.Network.Ready

/-!
# Bringing the network up

The auxiliary task of the supervisor polls three things: whether the HTTP
server and the cluster are to be started, which the network announces from
its own tasks, and whether the primary link has been down for so long that
the fallback is to be brought up.

An outage is a stretch of polls that find the primary link down, with none in
between that finds it up; polls that do not look at the link at all do not
count.
-/

namespace Endap.Kernel

open Endap.Cluster
open Endap.Device
open Endap.Library
open Endap.Network

/-! ## The policy -/

/-- `core_snapshot_transport_up`, of a snapshot that is there. -/
def coreSnapshotTransportUp (snapshot : ReadySnapshot) :
    ProfileTransport → Bool
  | .wifi => snapshot.wifiStaUp || snapshot.wifiApUp
  | .ethernet => snapshot.ethernetUp
  | .rs485 => true
  | .none => false
  | .espnow => false
  | .mesh => false
  | .unknown _ => false

/-- The fields of `device_network_profile_t` that the policy reads. -/
structure CorePolicy where
  onboardingPending : Bool
  primaryTransport : ProfileTransport
  fallbackTransport : ProfileTransport
  failoverDelayMs : UInt32

/-- What one poll reads. -/
structure PolicyPoll where
  network : Option CorePolicy
  snapshot : ReadySnapshot
  nowUs : UInt64

/-- The static variables of the policy. -/
structure PolicyState where
  primaryLinkDownSinceUs : UInt64 := 0
  fallbackActivationAttempted : Bool := false

/-- The links that have a manager to bring them up. -/
inductive LinkManager where
  | wifi
  | ethernet

/-- The transport that a manager brings up. -/
def LinkManager.transport : LinkManager → ProfileTransport
  | .wifi => .wifi
  | .ethernet => .ethernet

/-- What a poll calls: `wifi_manager_init`, `ethernet_manager_init` or
neither. -/
inductive PolicyOutput where
  | quiet
  | inits (manager : LinkManager)

/-- The calls for a fallback; one without a manager is only noted as
attempted. -/
def activateFallback : ProfileTransport → PolicyOutput
  | .wifi => .inits .wifi
  | .ethernet => .inits .ethernet
  | _ => .quiet

def coreNetworkPolicyPoll (state : PolicyState) (poll : PolicyPoll) :
    PolicyState × PolicyOutput :=
  match poll.network with
  | none => (state, .quiet)
  | some network =>
      if network.onboardingPending then (state, .quiet)
      else if network.primaryTransport = .none ∨
          network.fallbackTransport = .none then
        (state, .quiet)
      else if network.fallbackTransport = .rs485 then (state, .quiet)
      else if coreSnapshotTransportUp poll.snapshot
          network.primaryTransport then
        ({ primaryLinkDownSinceUs := 0
           fallbackActivationAttempted := false },
          .quiet)
      else if state.primaryLinkDownSinceUs = 0 then
        ({ state with primaryLinkDownSinceUs := poll.nowUs }, .quiet)
      else if state.fallbackActivationAttempted then (state, .quiet)
      else if poll.nowUs - state.primaryLinkDownSinceUs <
          network.failoverDelayMs.toUInt64 * 1000 then
        (state, .quiet)
      else
        ({ state with fallbackActivationAttempted := true },
          activateFallback network.fallbackTransport)

/-! ## Outages -/

/-- The profile under which a poll looks at the primary link. -/
def PolicyPoll.judge (poll : PolicyPoll) : Option CorePolicy :=
  poll.network.filter fun network =>
    !network.onboardingPending && network.primaryTransport ≠ .none &&
      network.fallbackTransport ≠ .none &&
      network.fallbackTransport ≠ .rs485

/-- The polls of the outage that is going on, oldest first. -/
def outage (polls : List PolicyPoll) : List PolicyPoll :=
  polls.foldl
    (fun down poll =>
      match poll.judge with
      | none => down
      | some network =>
          if coreSnapshotTransportUp poll.snapshot
              network.primaryTransport then
            []
          else down ++ [poll])
    []

theorem outage_snoc (polls : List PolicyPoll) (poll : PolicyPoll) :
    outage (polls ++ [poll]) =
      match poll.judge with
      | none => outage polls
      | some network =>
          if coreSnapshotTransportUp poll.snapshot
              network.primaryTransport then
            []
          else outage polls ++ [poll] := by
  rw [outage, List.foldl_append]
  rfl

/-- The outage from the poll that noted its beginning.  Zero stands for no
beginning, so a poll at the time zero notes nothing. -/
def noted (polls : List PolicyPoll) : List PolicyPoll :=
  (outage polls).dropWhile fun poll => poll.nowUs = 0

/-- At the poll the failover delay has passed since the opening of the
outage. -/
def Due (opening poll : PolicyPoll) : Prop :=
  ∃ network,
    poll.judge = some network ∧
    network.failoverDelayMs.toUInt64 * 1000 ≤ poll.nowUs - opening.nowUs

theorem coreNetworkPolicyPoll_eq (state : PolicyState) (poll : PolicyPoll) :
    coreNetworkPolicyPoll state poll =
      match poll.judge with
      | none => (state, .quiet)
      | some network =>
          if coreSnapshotTransportUp poll.snapshot
              network.primaryTransport then
            ({}, .quiet)
          else if state.primaryLinkDownSinceUs = 0 then
            ({ state with primaryLinkDownSinceUs := poll.nowUs }, .quiet)
          else if state.fallbackActivationAttempted then (state, .quiet)
          else if poll.nowUs - state.primaryLinkDownSinceUs <
              network.failoverDelayMs.toUInt64 * 1000 then
            (state, .quiet)
          else
            ({ state with fallbackActivationAttempted := true },
              activateFallback network.fallbackTransport) := by
  unfold coreNetworkPolicyPoll PolicyPoll.judge
  cases poll.network with
  | none => rfl
  | some network =>
      by_cases onboarding : network.onboardingPending = true
      · simp [onboarding, Option.filter]
      · by_cases primary : network.primaryTransport = .none
        · simp [onboarding, primary, Option.filter]
        · by_cases fallback : network.fallbackTransport = .none
          · simp [onboarding, fallback, Option.filter]
          · by_cases rs485 : network.fallbackTransport = .rs485
            · simp [onboarding, primary, rs485, Option.filter]
            · simp [onboarding, primary, fallback, rs485, Option.filter]

/-- What the variables say about the polls so far. -/
def Tracks (polls : List PolicyPoll) (state : PolicyState) : Prop :=
  match noted polls with
  | [] => state = {}
  | opening :: later =>
      state.primaryLinkDownSinceUs = opening.nowUs ∧
      (state.fallbackActivationAttempted = true ↔
      ∃ poll ∈ later, Due opening poll)

variable {polls : List PolicyPoll} {opening : PolicyPoll}

theorem opening_ne_zero {later : List PolicyPoll}
    (begins : noted polls = opening :: later) :
    opening.nowUs ≠ 0 := by
  intro isZero
  have first :=
    List.head?_dropWhile_not (fun poll : PolicyPoll => poll.nowUs = 0)
      (outage polls)
  rw [noted] at begins
  rw [begins] at first
  simp [isZero] at first

variable {poll : PolicyPoll} {network : CorePolicy}

/-- The noted part of the outage grows with a poll that finds the link
down. -/
theorem noted_down
    (judged : poll.judge = some network)
    (down :
      coreSnapshotTransportUp poll.snapshot network.primaryTransport = false) :
    noted (polls ++ [poll]) =
      match noted polls with
      | [] => if poll.nowUs = 0 then [] else [poll]
      | opening :: later => opening :: (later ++ [poll]) := by
  have longer : outage (polls ++ [poll]) = outage polls ++ [poll] := by
    rw [outage_snoc, judged]
    simp [down]
  rw [noted, longer, List.dropWhile_append]
  change (if (noted polls).isEmpty = true then _ else noted polls ++ _) = _
  cases noted polls with
  | nil =>
      by_cases isZero : poll.nowUs = 0
      · simp [isZero]
      · simp [isZero]
  | cons opening later => rfl

theorem noted_same
    (skipped : poll.judge = none) :
    noted (polls ++ [poll]) = noted polls := by
  rw [noted, outage_snoc, skipped]
  rfl

theorem noted_up
    (judged : poll.judge = some network)
    (up :
      coreSnapshotTransportUp poll.snapshot network.primaryTransport = true) :
    noted (polls ++ [poll]) = [] := by
  rw [noted, outage_snoc, judged]
  simp [up]

theorem due_iff
    (judged : poll.judge = some network) :
    Due opening poll ↔
    ¬ poll.nowUs - opening.nowUs <
      network.failoverDelayMs.toUInt64 * 1000 := by
  rw [UInt64.not_lt]
  constructor
  · rintro ⟨same, isSome, due⟩
    rw [judged] at isSome
    cases isSome
    exact due
  · exact fun due => ⟨network, judged, due⟩

theorem exists_due_snoc
    {later : List PolicyPoll} :
    (∃ made ∈ later ++ [poll], Due opening made) ↔
    (∃ made ∈ later, Due opening made) ∨ Due opening poll := by
  simp [or_and_right, exists_or]

theorem poll_tracks {state : PolicyState}
    (tracks : Tracks polls state) (poll : PolicyPoll) :
    Tracks (polls ++ [poll]) (coreNetworkPolicyPoll state poll).1 := by
  rw [coreNetworkPolicyPoll_eq]
  cases judged : poll.judge with
  | none =>
      rw [Tracks, noted_same judged]
      exact tracks
  | some network =>
      cases up :
          coreSnapshotTransportUp poll.snapshot network.primaryTransport with
      | true =>
          rw [Tracks, noted_up judged up]
          simp [up]
      | false =>
          rw [Tracks, noted_down judged up]
          rw [Tracks] at tracks
          cases begins : noted polls with
          | nil =>
              rw [begins] at tracks
              subst tracks
              by_cases isZero : poll.nowUs = 0
              · simp [up, isZero]
              · simp [up, isZero]
          | cons opening later =>
              rw [begins] at tracks
              rcases tracks with ⟨since, attempted⟩
              have noZero := opening_ne_zero begins
              have some : state.primaryLinkDownSinceUs ≠ 0 := since ▸ noZero
              dsimp only
              rw [exists_due_snoc, due_iff judged, ← attempted, ← since]
              simp only [up, Bool.false_eq_true, if_false, if_neg some]
              split_ifs with before soon
              · exact ⟨rfl, by simp [before]⟩
              · exact ⟨rfl, by simp [before, soon]⟩
              · exact ⟨rfl, by simp [soon]⟩

theorem activateFallback_iff
    (fallback : ProfileTransport) (manager : LinkManager) :
    activateFallback fallback = .inits manager ↔
    fallback = manager.transport := by
  cases fallback with
  | wifi => cases manager <;> simp [activateFallback, LinkManager.transport]
  | ethernet =>
      cases manager <;> simp [activateFallback, LinkManager.transport]
  | _ => cases manager <;> simp [activateFallback, LinkManager.transport]

/--
In every run a poll calls the manager of the fallback exactly when it finds
the primary link down and is the first poll of the outage at which the
failover delay has passed since the poll that noted the outage.  It happens
once in an outage; for a fallback without a manager it never does.
-/
theorem fallback_activated_iff
    (earlier : List PolicyPoll) (poll : PolicyPoll)
    (manager : LinkManager) :
    (coreNetworkPolicyPoll
        (Run.final coreNetworkPolicyPoll {} earlier) poll).2 =
        .inits manager ↔
    ∃ network opening later,
      poll.judge = some network ∧
      network.fallbackTransport = manager.transport ∧
      coreSnapshotTransportUp poll.snapshot network.primaryTransport = false ∧
      noted earlier = opening :: later ∧
      Due opening poll ∧ ∀ made ∈ later, ¬ Due opening made := by
  have tracks :
      Tracks earlier (Run.final coreNetworkPolicyPoll {} earlier) := by
    induction earlier using List.reverseRecOn with
    | nil => exact rfl
    | append_singleton before last induction =>
        rw [Run.final_snoc]
        exact poll_tracks induction last
  generalize Run.final coreNetworkPolicyPoll {} earlier = state at tracks ⊢
  rw [coreNetworkPolicyPoll_eq]
  rw [Tracks] at tracks
  cases judged : poll.judge with
  | none => simp
  | some network =>
      cases up :
          coreSnapshotTransportUp poll.snapshot network.primaryTransport with
      | true => simp [up]
      | false =>
          cases begins : noted earlier with
          | nil =>
              rw [begins] at tracks
              subst tracks
              simp [up]
          | cons opening later =>
              rw [begins] at tracks
              rcases tracks with ⟨since, attempted⟩
              have noZero := opening_ne_zero begins
              have some : state.primaryLinkDownSinceUs ≠ 0 := since ▸ noZero
              simp only [up, Bool.false_eq_true, if_false, if_neg some]
              constructor
              · intro inits
                split_ifs at inits with before soon
                refine
                  ⟨network, opening, later, rfl,
                    (activateFallback_iff _ manager).mp inits, up, rfl,
                    (due_iff judged).mpr (since ▸ soon),
                    fun made member due => ?_⟩
                exact before (attempted.mpr ⟨made, member, due⟩)
              · rintro ⟨judge, opens, rest, same, isFallback, _, sameNoted,
                  due, first⟩
                cases same
                cases sameNoted
                have late := (due_iff judged).mp due
                rw [← since] at late
                rw [if_neg late, if_neg]
                · exact (activateFallback_iff _ manager).mpr isFallback
                · intro before
                  rcases attempted.mp before with ⟨made, member, wasDue⟩
                  exact first made member wasDue

/-! ## Starting the services -/

/-- `cluster_transport_type_for_link`, with the primary transport of the
profile. -/
def clusterTransportTypeForLink (primary : Option ProfileTransport) :
    ReadyLink → TransportType
  | .ethernet => .ethernetUdp
  | .wifiAp | .wifiSta =>
      if primary = some .espnow then .wifiNow
      else if primary = some .mesh then .wifiMesh
      else .wifiUdp
  | .none => .none

/-- Where the auxiliary task is within `http_start_poll` and
`cluster_start_poll`. -/
inductive AuxPoint where
  | between
  | httpStarting
  | httpMarking
  | clusterStarting (link : ReadyLink)
deriving DecidableEq

/-- The static variables that say what is to be started and what has been. -/
structure BootServices where
  clusterStarted : Bool := false
  clusterStartPending : Bool := false
  pendingClusterLink : ReadyLink := .none
  httpStarted : Bool := false
  httpStartPending : Bool := false
  aux : AuxPoint := .between

/-- The fields of `device_network_profile_t` that the bootstrap reads. -/
structure Rs485Profile where
  onboardingPending : Bool
  rs485Supported : Bool
  rs485Enabled : Bool
  primaryTransport : ProfileTransport
deriving DecidableEq

/-- A section of `on_network_ready` in any task, the bootstrap of the main
task, or a step of the auxiliary task. -/
inductive BootAction where
  | bootstrap (net : Option Rs485Profile) (starts : Bool)
  | announceCluster (link : ReadyLink)
  | announceHttp
  | httpTake
  | httpStart
  | httpMark
  | clusterTake
  | clusterStart (primary : Option ProfileTransport) (starts : Bool)
deriving DecidableEq

/-- What a step starts. -/
inductive BootOutput where
  | quiet
  | httpServerStart
  | clusterTransportStart (type : TransportType) (starts : Bool)
deriving DecidableEq

/-- The end of `core_start_cluster_transport_explicit`: `starts` is what
`cluster_transport_start` answers. -/
def coreStartClusterTransport (services : BootServices)
    (type : TransportType) (starts : Bool) : BootServices × BootOutput :=
  if type = .none ∨ services.clusterStarted = true then (services, .quiet)
  else
    ({ services with clusterStarted := starts },
      .clusterTransportStart type starts)

def coreTryRs485ClusterBootstrap (services : BootServices)
    (net : Option Rs485Profile) (starts : Bool) :
    BootServices × BootOutput :=
  match net with
  | none => (services, .quiet)
  | some net =>
      if net.onboardingPending then (services, .quiet)
      else if !net.rs485Supported || !net.rs485Enabled then
        (services, .quiet)
      else if services.clusterStarted || services.clusterStartPending then
        (services, .quiet)
      else if net.primaryTransport ≠ .rs485 then (services, .quiet)
      else coreStartClusterTransport services .rs485 starts

/-- One step.  `on_network_ready` announces a snapshot that is ready; the
bootstrap is over before the auxiliary task takes anything. -/
def bootStep (services : BootServices) :
    BootAction → BootServices × BootOutput
  | .bootstrap net starts =>
      if services.aux = .between then
        coreTryRs485ClusterBootstrap services net starts
      else (services, .quiet)
  | .announceCluster link =>
      if services.clusterStartPending = false ∨
          services.pendingClusterLink ≠ link then
        ({ services with
            clusterStartPending := true
            pendingClusterLink := link },
          .quiet)
      else (services, .quiet)
  | .announceHttp =>
      if services.httpStarted = false ∧
          services.httpStartPending = false then
        ({ services with httpStartPending := true }, .quiet)
      else (services, .quiet)
  | .httpTake =>
      if services.aux = .between ∧ services.httpStarted = false ∧
          services.httpStartPending = true then
        ({ services with
            httpStartPending := false
            aux := .httpStarting },
          .quiet)
      else (services, .quiet)
  | .httpStart =>
      if services.aux = .httpStarting then
        ({ services with aux := .httpMarking }, .httpServerStart)
      else (services, .quiet)
  | .httpMark =>
      if services.aux = .httpMarking then
        ({ services with httpStarted := true, aux := .between }, .quiet)
      else (services, .quiet)
  | .clusterTake =>
      if services.aux = .between ∧ services.clusterStartPending = true then
        ({ services with
            clusterStartPending := false
            aux :=
              if services.pendingClusterLink = .none then .between
              else .clusterStarting services.pendingClusterLink },
          .quiet)
      else (services, .quiet)
  | .clusterStart primary starts =>
      match services.aux with
      | .clusterStarting link =>
          let started :=
            coreStartClusterTransport services
              (clusterTransportTypeForLink primary link) starts
          ({ started.1 with aux := .between }, started.2)
      | _ => (services, .quiet)

/-- What happened while the services were started. -/
abbrev BootPast := List (Run.Transition BootServices BootAction BootOutput)

/-- How often the HTTP server was started. -/
def httpStarts (past : BootPast) : Nat :=
  past.countP fun made => made.output = .httpServerStart

/-- The cluster transport was started. -/
def BootOutput.startsCluster : BootOutput → Bool
  | .clusterTransportStart _ starts => starts
  | _ => false

/-- How often the cluster transport was started. -/
def clusterStarts (past : BootPast) : Nat :=
  past.countP fun made => made.output.startsCluster

/-- The link that was announced last. -/
def lastAnnounced (past : BootPast) : Option ReadyLink :=
  (past.filterMap fun made =>
    match made.action with
    | .announceCluster link => some link
    | _ => none).getLast?

/-- Somebody has asked for the HTTP server. -/
def httpAnnounced (past : BootPast) : Bool :=
  past.any fun made => made.action = .announceHttp

/-- What the variables say about what happened. -/
structure BootServices.Tells (services : BootServices) (past : BootPast) :
    Prop where
  http :
    httpStarts past =
      if services.httpStarted = true ∨ services.aux = .httpMarking then 1
      else 0
  starting :
    services.aux = .httpStarting ∨ services.aux = .httpMarking →
    services.httpStarted = false
  cluster : clusterStarts past = if services.clusterStarted = true then 1 else 0
  link :
    services.clusterStartPending = true →
    lastAnnounced past = some services.pendingClusterLink
  announced :
    httpAnnounced past = true →
    services.httpStarted = true ∨ services.httpStartPending = true ∨
    services.aux = .httpStarting ∨ services.aux = .httpMarking

theorem httpStarts_snoc (past : BootPast)
    (made : Run.Transition BootServices BootAction BootOutput) :
    httpStarts (past ++ [made]) =
      httpStarts past + if made.output = .httpServerStart then 1 else 0 := by
  simp [httpStarts, List.countP_append, List.countP_cons]

theorem clusterStarts_snoc (past : BootPast)
    (made : Run.Transition BootServices BootAction BootOutput) :
    clusterStarts (past ++ [made]) =
      clusterStarts past +
        if made.output.startsCluster = true then 1 else 0 := by
  simp [clusterStarts, List.countP_append, List.countP_cons]

theorem lastAnnounced_snoc (past : BootPast)
    (made : Run.Transition BootServices BootAction BootOutput) :
    lastAnnounced (past ++ [made]) =
      match made.action with
      | .announceCluster link => some link
      | _ => lastAnnounced past := by
  rw [lastAnnounced, List.filterMap_append]
  cases action : made.action <;> simp [action, lastAnnounced]

theorem httpAnnounced_snoc (past : BootPast)
    (made : Run.Transition BootServices BootAction BootOutput) :
    httpAnnounced (past ++ [made]) =
      (httpAnnounced past || made.action = .announceHttp) := by
  simp [httpAnnounced]

/-- What a step does to the variables, one constructor for each branch that
changes one of them. -/
inductive BootMove (services : BootServices) :
    BootAction → BootServices → BootOutput → Prop
  | still (action : BootAction)
      (known : ∀ link, action = .announceCluster link →
      services.pendingClusterLink = link)
      (asked : action = .announceHttp →
      services.httpStarted = true ∨ services.httpStartPending = true) :
      BootMove services action services .quiet
  | clusterAsked (link : ReadyLink) :
      BootMove services (.announceCluster link)
        { services with clusterStartPending := true, pendingClusterLink := link }
        .quiet
  | httpAsked :
      BootMove services .announceHttp { services with httpStartPending := true }
        .quiet
  | httpTaken (idle : services.httpStarted = false)
      (between : services.aux = .between) :
      BootMove services .httpTake
        { services with httpStartPending := false, aux := .httpStarting } .quiet
  | httpRun (taken : services.aux = .httpStarting) :
      BootMove services .httpStart { services with aux := .httpMarking }
        .httpServerStart
  | httpDone (run : services.aux = .httpMarking) :
      BootMove services .httpMark
        { services with httpStarted := true, aux := .between } .quiet
  | clusterTaken (between : services.aux = .between) (aux : AuxPoint)
      (free : aux ≠ .httpStarting ∧ aux ≠ .httpMarking) :
      BootMove services .clusterTake
        { services with clusterStartPending := false, aux := aux } .quiet
  | clusterLeft (primary : Option ProfileTransport) (starts : Bool)
      (free : services.aux ≠ .httpStarting ∧ services.aux ≠ .httpMarking) :
      BootMove services (.clusterStart primary starts)
        { services with aux := .between } .quiet
  | clusterRun (action : BootAction) (type : TransportType) (starts : Bool)
      (quiet : ∀ link, action ≠ .announceCluster link)
      (unasked : action ≠ .announceHttp)
      (idle : services.clusterStarted = false)
      (free : services.aux ≠ .httpStarting ∧ services.aux ≠ .httpMarking) :
      BootMove services action
        { services with clusterStarted := starts, aux := .between }
        (.clusterTransportStart type starts)

variable {services : BootServices} {action : BootAction}

/-- A step of the auxiliary task or of the bootstrap that finds nothing to
do. -/
theorem BootMove.idle
    (quiet : ∀ link, action ≠ .announceCluster link)
    (unasked : action ≠ .announceHttp) :
    BootMove services action services .quiet :=
  .still action (fun link announced => absurd announced (quiet link))
    fun asked => absurd asked unasked

theorem coreStartClusterTransport_cases (services : BootServices)
    (type : TransportType) (starts : Bool) :
    coreStartClusterTransport services type starts = (services, .quiet) ∨
    services.clusterStarted = false ∧
    coreStartClusterTransport services type starts =
      ({ services with clusterStarted := starts },
        .clusterTransportStart type starts) := by
  unfold coreStartClusterTransport
  split
  case isTrue => exact .inl rfl
  case isFalse refused =>
      rcases not_or.mp refused with ⟨_, idle⟩
      exact .inr ⟨by simpa using idle, rfl⟩

theorem coreTryRs485ClusterBootstrap_cases (services : BootServices)
    (net : Option Rs485Profile) (starts : Bool) :
    coreTryRs485ClusterBootstrap services net starts = (services, .quiet) ∨
    coreTryRs485ClusterBootstrap services net starts =
      coreStartClusterTransport services .rs485 starts := by
  unfold coreTryRs485ClusterBootstrap
  split
  · exact .inl rfl
  · repeat' split
    all_goals first
      | exact .inl rfl
      | exact .inr rfl

theorem bootstrap_move (services : BootServices)
    (net : Option Rs485Profile) (starts : Bool) :
    BootMove services (.bootstrap net starts)
      (bootStep services (.bootstrap net starts)).1
      (bootStep services (.bootstrap net starts)).2 := by
  have idle : BootMove services (.bootstrap net starts) services .quiet :=
    .idle nofun nofun
  simp only [bootStep]
  split
  case isFalse => exact idle
  case isTrue between =>
    rcases coreTryRs485ClusterBootstrap_cases services net starts with
      answer | answer
    · rw [answer]
      exact idle
    · rw [answer]
      rcases coreStartClusterTransport_cases services .rs485 starts with
        kept | ⟨unstarted, started⟩
      · rw [kept]
        exact idle
      · rw [started]
        have move :=
          @BootMove.clusterRun services (.bootstrap net starts) .rs485
            starts nofun nofun unstarted (by simp [between])
        rwa [← between] at move

theorem clusterStart_move (services : BootServices)
    (primary : Option ProfileTransport) (starts : Bool) :
    BootMove services (.clusterStart primary starts)
      (bootStep services (.clusterStart primary starts)).1
      (bootStep services (.clusterStart primary starts)).2 := by
  simp only [bootStep]
  split
  case h_2 => exact .idle nofun nofun
  case h_1 link taken =>
    have free : services.aux ≠ .httpStarting ∧ services.aux ≠ .httpMarking := by
      simp [taken]
    rcases coreStartClusterTransport_cases services
        (clusterTransportTypeForLink primary link) starts with
      kept | ⟨unstarted, started⟩
    · rw [kept]
      exact .clusterLeft primary starts free
    · rw [started]
      exact .clusterRun _ _ starts nofun nofun unstarted free

theorem bootStep_move (services : BootServices) (action : BootAction) :
    BootMove services action (bootStep services action).1
      (bootStep services action).2 := by
  cases action with
  | bootstrap net starts => exact bootstrap_move services net starts
  | clusterStart primary starts =>
      exact clusterStart_move services primary starts
  | announceCluster link =>
      simp only [bootStep]
      split
      case isTrue => exact .clusterAsked link
      case isFalse noted =>
        refine .still _ (fun other announced => ?_) nofun
        cases announced
        exact not_ne_iff.mp (not_or.mp noted).2
  | announceHttp =>
      simp only [bootStep]
      split
      case isTrue => exact .httpAsked
      case isFalse noted =>
        refine .still _ nofun fun _ => ?_
        by_cases started : services.httpStarted = true
        · exact .inl started
        · exact .inr (by simpa [started] using noted)
  | httpTake =>
      simp only [bootStep]
      split
      case isTrue found => exact .httpTaken found.2.1 found.1
      case isFalse => exact .idle nofun nofun
  | httpStart =>
      simp only [bootStep]
      split
      case isTrue taken => exact .httpRun taken
      case isFalse => exact .idle nofun nofun
  | httpMark =>
      simp only [bootStep]
      split
      case isTrue run => exact .httpDone run
      case isFalse => exact .idle nofun nofun
  | clusterTake =>
      simp only [bootStep]
      split
      case isTrue found =>
        exact .clusterTaken found.1 _ (by split <;> exact ⟨nofun, nofun⟩)
      case isFalse => exact .idle nofun nofun

variable {past : BootPast}

/-- Only `httpStart` and `clusterStart` add to the starts, each where the
variables say that nothing was started. -/
theorem BootMove.starts {after : BootServices}
    {output : BootOutput}
    (move : BootMove services action after output)
    (tells : services.Tells past) :
    (httpStarts past + (if output = .httpServerStart then 1 else 0) =
        if after.httpStarted = true ∨ after.aux = .httpMarking then 1
        else 0) ∧
      (after.aux = .httpStarting ∨ after.aux = .httpMarking →
      after.httpStarted = false) ∧
      clusterStarts past + (if output.startsCluster = true then 1 else 0) =
        if after.clusterStarted = true then 1 else 0 := by
  have starting := tells.starting
  rw [tells.http, tells.cluster]
  cases move with
  | httpTaken idle between =>
      simp [idle, between, BootOutput.startsCluster]
  | httpRun taken =>
      simp [taken, starting (.inl taken), BootOutput.startsCluster]
  | httpDone run => simp [run, BootOutput.startsCluster]
  | clusterTaken between aux free =>
      simp [between, free, BootOutput.startsCluster]
  | clusterLeft primary starts free =>
      simp [free, BootOutput.startsCluster]
  | clusterRun action type starts quiet unasked idle free =>
      cases starts <;> simp [free, idle, BootOutput.startsCluster]
  | _ => exact ⟨by simp, starting, by simp [BootOutput.startsCluster]⟩

theorem BootMove.noted {after : BootServices}
    {output : BootOutput}
    (move : BootMove services action after output)
    (tells : services.Tells past)
    (made : Run.Transition BootServices BootAction BootOutput)
    (acted : made.action = action) :
    (after.clusterStartPending = true →
        lastAnnounced (past ++ [made]) = some after.pendingClusterLink) ∧
      (httpAnnounced (past ++ [made]) = true →
      after.httpStarted = true ∨ after.httpStartPending = true ∨
      after.aux = .httpStarting ∨ after.aux = .httpMarking) := by
  have link := tells.link
  have announced := tells.announced
  rw [lastAnnounced_snoc, httpAnnounced_snoc, acted]
  cases move with
  | still action known asked =>
      refine ⟨fun pending => ?_, fun any => ?_⟩
      · cases action with
        | announceCluster other => rw [known other rfl]
        | _ => exact link pending
      · rcases Bool.or_eq_true_iff.mp any with before | now
        · exact announced before
        · rcases asked (of_decide_eq_true now) with started | pending
          · exact .inl started
          · exact .inr (.inl pending)
  | clusterAsked => exact ⟨fun _ => rfl, by simpa using announced⟩
  | httpAsked => exact ⟨link, fun _ => .inr (.inl rfl)⟩
  | httpTaken => exact ⟨link, fun _ => .inr (.inr (.inl rfl))⟩
  | httpRun => exact ⟨link, fun _ => .inr (.inr (.inr rfl))⟩
  | httpDone => exact ⟨link, fun _ => .inl rfl⟩
  | clusterTaken between aux free =>
      refine ⟨nofun, fun any => ?_⟩
      have asked := announced (by simpa using any)
      simp only [between] at asked
      rcases asked with started | pending | taken | run
      · exact .inl started
      · exact .inr (.inl pending)
      · cases taken
      · cases run
  | clusterLeft primary starts free =>
      refine ⟨link, fun any => ?_⟩
      have asked := announced (by simpa using any)
      simpa [free] using asked
  | clusterRun action type starts quiet unasked idle free =>
      refine ⟨fun pending => ?_, fun any => ?_⟩
      · cases action with
        | announceCluster other => exact absurd rfl (quiet other)
        | _ => exact link pending
      · have asked := announced (by simpa [unasked] using any)
        simpa [free] using asked

theorem step_tells
    (tells : services.Tells past) (action : BootAction) :
    (bootStep services action).1.Tells
      (past ++ [Run.call bootStep services action]) := by
  have move := bootStep_move services action
  rcases move.starts tells with ⟨http, starting, cluster⟩
  rcases move.noted tells (Run.call bootStep services action) rfl with
    ⟨link, announced⟩
  exact
    { http := (httpStarts_snoc past _).trans http
      starting := starting
      cluster := (clusterStarts_snoc past _).trans cluster
      link := link
      announced := announced }

theorem run_tells (actions : List BootAction) :
    (Run.final bootStep {} actions).Tells (Run.history bootStep {} actions) :=
  Run.history_induction
    (motive := fun past (services : BootServices) => services.Tells past)
    { http := rfl
      starting := fun within => by cases within <;> contradiction
      cluster := rfl
      link := fun pending => by cases pending
      announced := fun asked => by cases asked }
    (fun _ _ action tells => step_tells tells action) actions

/--
However the announcements of the network cross the polls of the auxiliary
task, the start of the HTTP server is called at most once and the cluster
transport is started at most once, the link that a poll takes is the one
announced last, and once the server was asked for, its start has been called
by the end of the next whole poll.
-/
theorem services_start_once (actions : List BootAction) :
    let past := Run.history bootStep {} actions
    let services := Run.final bootStep {} actions
    httpStarts past ≤ 1 ∧ clusterStarts past ≤ 1 ∧
    (services.clusterStartPending = true →
    lastAnnounced past = some services.pendingClusterLink) ∧
    (.announceHttp ∈ actions → services.aux = .between →
    httpStarts
        (Run.history bootStep {}
          (actions ++ [.httpTake, .httpStart, .httpMark])) =
      1) := by
  intro past services
  have tells : services.Tells past := run_tells actions
  refine ⟨?_, ?_, tells.link, fun asked idle => ?_⟩
  · rw [tells.http]
    split_ifs <;> decide
  · rw [tells.cluster]
    split_ifs <;> decide
  · have announced : httpAnnounced past = true := by
      rw [httpAnnounced, List.any_eq_true]
      rcases List.append_of_mem asked with ⟨earlier, later, around⟩
      subst around
      exact
        ⟨_, Run.call_mem_history bootStep {} earlier .announceHttp later,
          by simp [Run.call]⟩
    have after := run_tells (actions ++ [.httpTake, .httpStart, .httpMark])
    rw [after.http, Run.final_append]
    change
      (if (Run.final bootStep services _).httpStarted = true ∨ _ then 1
        else 0) = 1
    have started := tells.announced announced
    rw [if_pos]
    left
    cases running : services.httpStarted with
    | true => simp [Run.final, bootStep, idle, running]
    | false =>
        simp only [running, idle] at started
        simp [Run.final, bootStep, idle, running, by simpa using started]

end Endap.Kernel
