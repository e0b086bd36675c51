import Endap.Cluster.Transport
import Endap.Onboarding.Claim

/-!
# The link monitor

Network v1 keeps the state of the device's link: connecting, connected on the
primary transport, degraded to the fallback, or recovering, that is, trying
the primary again.  It reads the clock in milliseconds, in 32 bits, so that
every age is a difference modulo `2 ^ 32`.

Three times are kept: the last sign of life of the link, the beginning of the
degraded phase and that of the recovering phase.  The results of this module
say of every run what these times are in terms of what was called before, and
what follows for the state and for the active transport.
-/

namespace Endap.Network

open Endap.Cluster
open Endap.Device
open Endap.Library.Run
open Endap.Onboarding

/-! ## The state -/

/-- `endap_network_state_t`. -/
inductive NetworkState where
  | disconnected
  | connecting
  | connected
  | degraded
  | recovering
deriving DecidableEq

/-- `endap_network_metrics_t`. -/
structure NetworkMetrics where
  packetsSent : UInt32 := 0
  packetsReceived : UInt32 := 0
  packetDrops : UInt32 := 0
  lastRttMs : UInt32 := 0
  maxJitterMs : UInt32 := 0
  failoverCount : UInt32 := 0
  activeTransport : TransportType := .none
  currentState : NetworkState := .disconnected

/-- The part of the active profile that `endap_network_v1.c` caches. -/
structure NetworkConfig where
  primaryTransport : ProfileTransport := .wifi
  fallbackTransport : ProfileTransport := .rs485
  failoverDelayMs : UInt32 := 5000
  recoveryHysteresisMs : UInt32 := 15000
  isGateway : Bool := false

/-- The static variables of `endap_network_v1.c`. -/
structure NetworkV1 where
  state : NetworkState := .disconnected
  metrics : NetworkMetrics := {}
  lastPrimaryOkMs : UInt32 := 0
  degradedStartMs : UInt32 := 0
  recoveringStartMs : UInt32 := 0
  initialized : Bool := false
  config : NetworkConfig := {}

/-- The fields of `device_network_profile_t` that the monitor reads. -/
structure NetworkPolicy where
  primaryTransport : ProfileTransport
  fallbackTransport : ProfileTransport
  failoverDelayMs : UInt32
  recoveryHysteresisMs : UInt32

/-- The fields of `node_profile_desc_t` that the monitor reads. -/
structure NodeProfileDesc where
  type : UInt8
  network : Option NetworkPolicy

/-- What the monitor tells the other components. -/
inductive NetworkEffect where
  /-- `node_registry_note_transport`, for the local node. -/
  | noteTransport (transport : TransportType)
  /-- `cluster_transport_set_active_type`. -/
  | setActiveType (transport : TransportType)

def mapProfileTransportToCluster : ProfileTransport → TransportType
  | .wifi => .wifiUdp
  | .ethernet => .ethernetUdp
  | .rs485 => .rs485
  | .none => .none
  | .espnow => .none
  | .mesh => .none
  | .unknown _ => .none

/-! ## The functions -/

/-- The policy of the profile, where there is one. -/
def NetworkConfig.adopt
    (config : NetworkConfig) (profile : Option NodeProfileDesc) :
    NetworkConfig :=
  match profile with
  | Option.none => config
  | some desc =>
      match desc.network with
      | Option.none => config
      | some policy =>
          { primaryTransport := policy.primaryTransport
            fallbackTransport := policy.fallbackTransport
            failoverDelayMs := policy.failoverDelayMs
            recoveryHysteresisMs := policy.recoveryHysteresisMs
            isGateway := desc.type = nodeProfileGateway }

/-- The delays that replace a configured zero. -/
def NetworkConfig.withDefaults (config : NetworkConfig) : NetworkConfig :=
  { config with
    failoverDelayMs :=
      if config.failoverDelayMs = 0 then 5000 else config.failoverDelayMs
    recoveryHysteresisMs :=
      if config.recoveryHysteresisMs = 0 then 15000
      else config.recoveryHysteresisMs }

/-- The mapped primary transport. -/
def NetworkConfig.primary (config : NetworkConfig) : TransportType :=
  mapProfileTransportToCluster config.primaryTransport

/-- The mapped fallback transport. -/
def NetworkConfig.fallback (config : NetworkConfig) : TransportType :=
  mapProfileTransportToCluster config.fallbackTransport

def endapNetworkV1Init
    (net : NetworkV1) (profile : Option NodeProfileDesc)
    (nowMs : UInt32) : NetworkV1 :=
  if net.initialized then
    net
  else
    let config := (net.config.adopt profile).withDefaults
    { net with
      config := config
      metrics :=
        { activeTransport := config.primary, currentState := .connecting }
      state := .connecting
      lastPrimaryOkMs := nowMs
      initialized := true }

/-- Makes `transport` the active one. -/
def NetworkV1.activate
    (net : NetworkV1) (transport : TransportType) : NetworkV1 :=
  { net with
    metrics := { net.metrics with activeTransport := transport } }

/-- The `switch` of `endap_network_v1_process`. -/
def processState
    (net : NetworkV1) (currentTime : UInt32) (transportReady : Bool) :
    NetworkV1 × List NetworkEffect :=
  match net.state with
  | .disconnected =>
      if transportReady then
        ({ net with state := .connecting }, [])
      else
        (net, [])
  | .connecting =>
      if transportReady then
        ({ net with state := .connected, lastPrimaryOkMs := currentTime }, [])
      else
        (net, [])
  | .connected =>
      let quietTime := currentTime - net.lastPrimaryOkMs
      if net.config.isGateway = false ∧
          quietTime > net.config.failoverDelayMs ∧
          net.config.fallbackTransport ≠ .none then
        ({ net with
            state := .degraded
            degradedStartMs := currentTime
            metrics :=
              { net.metrics with
                failoverCount := net.metrics.failoverCount + 1
                activeTransport := net.config.fallback } },
          [.setActiveType net.config.fallback])
      else
        (net, [])
  | .degraded =>
      let degradedDuration := currentTime - net.degradedStartMs
      if degradedDuration ≥ net.config.recoveryHysteresisMs then
        ({ net.activate net.config.primary with
            state := .recovering
            recoveringStartMs := currentTime },
          [.setActiveType net.config.primary])
      else
        (net, [])
  | .recovering =>
      let recoveringTime := currentTime - net.recoveringStartMs
      if transportReady = true ∧
          currentTime - net.lastPrimaryOkMs <
            net.config.failoverDelayMs then
        ({ net with state := .connected }, [])
      else if recoveringTime > net.config.failoverDelayMs / 2 then
        ({ net.activate net.config.fallback with
            state := .degraded
            degradedStartMs := currentTime },
          [.setActiveType net.config.fallback])
      else
        (net, [])

/-- `g_net_metrics.current_state = g_net_state`. -/
def NetworkV1.reportState (net : NetworkV1) : NetworkV1 :=
  { net with metrics := { net.metrics with currentState := net.state } }

/-- `endap_network_v1_process`.  The profile and `initMs` are read only by
the initialisation of a monitor that was not initialised before. -/
def endapNetworkV1Process
    (net : NetworkV1) (profile : Option NodeProfileDesc)
    (initMs currentTime : UInt32) (transportReady : Bool) :
    NetworkV1 × List NetworkEffect :=
  let ready := endapNetworkV1Init net profile initMs
  let processed := processState ready currentTime transportReady
  (processed.1.reportState,
    .noteTransport ready.metrics.activeTransport :: processed.2)

/-- The counters of `endap_network_v1_note_packet`. -/
def NetworkMetrics.notePacket
    (metrics : NetworkMetrics) (isRx success : Bool) (rttMs : UInt32) :
    NetworkMetrics :=
  let counted :=
    if isRx then
      { metrics with packetsReceived := metrics.packetsReceived + 1 }
    else
      { metrics with
        packetsSent := metrics.packetsSent + 1
        packetDrops :=
          if success then metrics.packetDrops
          else metrics.packetDrops + 1 }
  if rttMs > 0 then
    { counted with
      lastRttMs := rttMs
      maxJitterMs :=
        if rttMs > counted.maxJitterMs then rttMs
        else counted.maxJitterMs }
  else
    counted

def endapNetworkV1NotePacket
    (net : NetworkV1) (isRx success : Bool) (rttMs nowMs : UInt32) :
    NetworkV1 :=
  { net with
    metrics := net.metrics.notePacket isRx success rttMs
    lastPrimaryOkMs := if isRx then nowMs else net.lastPrimaryOkMs }

def endapNetworkV1ForceReconnect
    (net : NetworkV1) (nowMs : UInt32) :
    NetworkV1 × List NetworkEffect :=
  ({ net.activate net.config.primary with
      state := .connecting
      lastPrimaryOkMs := nowMs },
    [.setActiveType net.config.primary])

/-! ## Runs -/

/-- One call of the monitor, with the readings it makes. -/
inductive NetworkAction where
  | init (profile : Option NodeProfileDesc) (nowMs : UInt32)
  | process
      (profile : Option NodeProfileDesc) (initMs nowMs : UInt32)
      (transportReady : Bool)
  | notePacket (isRx success : Bool) (rttMs nowMs : UInt32)
  | forceReconnect (nowMs : UInt32)

/-- The monitor as a component. -/
def networkStep (net : NetworkV1) :
    NetworkAction → NetworkV1 × List NetworkEffect
  | .init profile nowMs => (endapNetworkV1Init net profile nowMs, [])
  | .process profile initMs nowMs transportReady =>
      endapNetworkV1Process net profile initMs nowMs transportReady
  | .notePacket isRx success rttMs nowMs =>
      (endapNetworkV1NotePacket net isRx success rttMs nowMs, [])
  | .forceReconnect nowMs => endapNetworkV1ForceReconnect net nowMs

/-- The monitor after its initialisation. -/
def networkStart
    (profile : Option NodeProfileDesc) (initMs : UInt32) : NetworkV1 :=
  endapNetworkV1Init {} profile initMs

/-- One call of the monitor in a run. -/
abbrev NetworkCall := Transition NetworkV1 NetworkAction (List NetworkEffect)

/-! ## What one call can do -/

/-- What the `switch` of `endap_network_v1_process` can do. -/
inductive ProcessOutcome
    (net : NetworkV1) (now : UInt32) (ready : Bool) :
    NetworkV1 → Prop where
  | kept : ProcessOutcome net now ready net
  | linkReady :
      net.state = .disconnected → ready = true →
      ProcessOutcome net now ready { net with state := .connecting }
  | connected :
      net.state = .connecting → ready = true →
      ProcessOutcome net now ready
        { net with state := .connected, lastPrimaryOkMs := now }
  | failedOver :
      net.state = .connected → net.config.isGateway = false →
      net.config.failoverDelayMs < now - net.lastPrimaryOkMs →
      net.config.fallbackTransport ≠ .none →
      ProcessOutcome net now ready
        { net with
          state := .degraded
          degradedStartMs := now
          metrics :=
            { net.metrics with
              failoverCount := net.metrics.failoverCount + 1
              activeTransport := net.config.fallback } }
  | probing :
      net.state = .degraded →
      net.config.recoveryHysteresisMs ≤ now - net.degradedStartMs →
      ProcessOutcome net now ready
        { net.activate net.config.primary with
          state := .recovering
          recoveringStartMs := now }
  | recovered :
      net.state = .recovering → ready = true →
      now - net.lastPrimaryOkMs < net.config.failoverDelayMs →
      ProcessOutcome net now ready { net with state := .connected }
  | fellBack :
      net.state = .recovering →
      net.config.failoverDelayMs / 2 < now - net.recoveringStartMs →
      ProcessOutcome net now ready
        { net.activate net.config.fallback with
          state := .degraded
          degradedStartMs := now }

theorem processState_outcome
    (net : NetworkV1) (now : UInt32) (ready : Bool) :
    ProcessOutcome net now ready (processState net now ready).1 := by
  cases state : net.state with
  | disconnected =>
      simp only [processState, state]
      split
      · exact .linkReady state ‹_›
      · exact .kept
  | connecting =>
      simp only [processState, state]
      split
      · exact .connected state ‹_›
      · exact .kept
  | connected =>
      simp only [processState, state]
      split
      · rename_i guard
        exact .failedOver state guard.1 guard.2.1 guard.2.2
      · exact .kept
  | degraded =>
      simp only [processState, state]
      split
      · exact .probing state ‹_›
      · exact .kept
  | recovering =>
      simp only [processState, state]
      split
      · rename_i guard
        exact .recovered state guard.1 guard.2
      · split
        · exact .fellBack state ‹_›
        · exact .kept

variable {net : NetworkV1}

/-- Only `endap_network_v1_init` looks at the flag. -/
theorem init_of_initialized
    (initialized : net.initialized = true)
    (profile : Option NodeProfileDesc) (nowMs : UInt32) :
    endapNetworkV1Init net profile nowMs = net := by
  simp [endapNetworkV1Init, initialized]

theorem process_of_initialized
    (initialized : net.initialized = true)
    (profile : Option NodeProfileDesc) (initMs now : UInt32)
    (ready : Bool) :
    (endapNetworkV1Process net profile initMs now ready).1 =
      (processState net now ready).1.reportState := by
  simp [endapNetworkV1Process, init_of_initialized initialized]

@[simp]
theorem notePacket_activeTransport
    (metrics : NetworkMetrics) (isRx success : Bool) (rttMs : UInt32) :
    (metrics.notePacket isRx success rttMs).activeTransport =
      metrics.activeTransport := by
  simp only [NetworkMetrics.notePacket]
  split <;> split <;> rfl

@[simp]
theorem notePacket_failoverCount
    (metrics : NetworkMetrics) (isRx success : Bool) (rttMs : UInt32) :
    (metrics.notePacket isRx success rttMs).failoverCount =
      metrics.failoverCount := by
  simp only [NetworkMetrics.notePacket]
  split <;> split <;> rfl

/-- The changes that an initialised monitor can make in one call. -/
inductive NetworkChange (net : NetworkV1) :
    NetworkAction → NetworkV1 → Prop where
  | kept (profile : Option NodeProfileDesc) (nowMs : UInt32) :
      NetworkChange net (.init profile nowMs) net
  | processed
      (profile : Option NodeProfileDesc) (initMs now : UInt32)
      (ready : Bool) {after : NetworkV1} :
      ProcessOutcome net now ready after →
      NetworkChange net (.process profile initMs now ready) after.reportState
  | noted (isRx success : Bool) (rttMs now : UInt32) :
      NetworkChange net (.notePacket isRx success rttMs now)
        (endapNetworkV1NotePacket net isRx success rttMs now)
  | reconnecting (now : UInt32) :
      NetworkChange net (.forceReconnect now)
        (endapNetworkV1ForceReconnect net now).1

theorem networkStep_change
    (initialized : net.initialized = true)
    (action : NetworkAction) :
    NetworkChange net action (networkStep net action).1 := by
  cases action with
  | init profile nowMs =>
      simp only [networkStep, init_of_initialized initialized]
      exact .kept profile nowMs
  | process profile initMs now ready =>
      simp only [networkStep, process_of_initialized initialized]
      exact .processed profile initMs now ready
        (processState_outcome net now ready)
  | notePacket isRx success rttMs now =>
      exact .noted isRx success rttMs now
  | forceReconnect now => exact .reconnecting now

/-! ## The state and the active transport -/

/-- The transport that belongs to a state. -/
def NetworkConfig.transportIn
    (config : NetworkConfig) (state : NetworkState) : TransportType :=
  if state = .degraded then config.fallback else config.primary

/-- What holds of an initialised monitor between two calls. -/
structure Consistent (config : NetworkConfig) (net : NetworkV1) : Prop where
  initialized : net.initialized = true
  configured : net.config = config
  active : net.metrics.activeTransport = config.transportIn net.state
  gateway :
    config.isGateway = true → net.state ≠ .degraded ∧ net.state ≠ .recovering

variable {after : NetworkV1} {now : UInt32} {ready : Bool}

theorem ProcessOutcome.consistent
    {config : NetworkConfig}
    (outcome : ProcessOutcome net now ready after)
    (consistent : Consistent config net) :
    Consistent config after := by
  rcases consistent with ⟨initialized, rfl, active, gateway⟩
  cases outcome with
  | kept => exact ⟨initialized, rfl, active, gateway⟩
  | linkReady was _ =>
      refine ⟨initialized, rfl, ?_, fun _ => ⟨nofun, nofun⟩⟩
      simpa [was, NetworkConfig.transportIn] using active
  | connected was _ =>
      refine ⟨initialized, rfl, ?_, fun _ => ⟨nofun, nofun⟩⟩
      simpa [was, NetworkConfig.transportIn] using active
  | failedOver _ field _ _ =>
      refine ⟨initialized, rfl, rfl, ?_⟩
      intro isGateway
      cases field.symm.trans isGateway
  | probing was _ =>
      refine ⟨initialized, rfl, rfl, ?_⟩
      intro isGateway
      exact absurd was (gateway isGateway).1
  | recovered was _ _ =>
      refine ⟨initialized, rfl, ?_, fun _ => ⟨nofun, nofun⟩⟩
      simpa [was, NetworkConfig.transportIn] using active
  | fellBack was _ =>
      refine ⟨initialized, rfl, rfl, ?_⟩
      intro isGateway
      exact absurd was (gateway isGateway).2

theorem networkStep_consistent
    {config : NetworkConfig}
    (consistent : Consistent config net) (action : NetworkAction) :
    Consistent config (networkStep net action).1 := by
  have change := networkStep_change consistent.initialized action
  generalize (networkStep net action).1 = after at change
  cases change with
  | kept => exact consistent
  | processed _ _ _ _ outcome =>
      have next := outcome.consistent consistent
      exact ⟨next.initialized, next.configured, next.active, next.gateway⟩
  | noted isRx success rttMs now =>
      refine ⟨consistent.initialized, consistent.configured, ?_,
        consistent.gateway⟩
      simpa [endapNetworkV1NotePacket] using consistent.active
  | reconnecting now =>
      rcases consistent with ⟨initialized, rfl, _, _⟩
      exact ⟨initialized, rfl, rfl, fun _ => ⟨nofun, nofun⟩⟩

/-- The configuration that the initialisation caches. -/
def cachedConfig (profile : Option NodeProfileDesc) : NetworkConfig :=
  (NetworkConfig.adopt {} profile).withDefaults

theorem networkStart_consistent
    (profile : Option NodeProfileDesc) (initMs : UInt32) :
    Consistent (cachedConfig profile) (networkStart profile initMs) :=
  ⟨rfl, rfl, rfl, fun _ => ⟨nofun, nofun⟩⟩

/-! ## The times kept, in terms of the calls made -/

/-- The time at which a call notes a reception or establishes the
connection. -/
def contact? (made : NetworkCall) : Option UInt32 :=
  match made.action with
  | .notePacket true _ _ now => some now
  | .process _ _ now _ =>
      if made.before.state = .connecting ∧
          made.after.state = .connected then
        some now
      else
        none
  | _ => none

/-- The time of the last reception or connection. -/
def lastContact (past : List NetworkCall) : Option UInt32 :=
  past.reverse.findSome? contact?

/-- The time at which a call begins a degraded phase. -/
def degradedSince? (made : NetworkCall) : Option UInt32 :=
  match made.action with
  | .process _ _ now _ =>
      if made.before.state ≠ .degraded ∧ made.after.state = .degraded then
        some now
      else
        none
  | _ => none

/-- The time at which the last degraded phase began. -/
def lastDegraded (past : List NetworkCall) : Option UInt32 :=
  past.reverse.findSome? degradedSince?

/-- The call moves the monitor from connected to degraded. -/
def FailsOver (made : NetworkCall) : Prop :=
  made.before.state = .connected ∧ made.after.state = .degraded

instance : DecidablePred FailsOver := fun made =>
  inferInstanceAs
    (Decidable (made.before.state = .connected ∧ made.after.state = .degraded))

/-- The number of failovers of a run. -/
def failovers (past : List NetworkCall) : Nat :=
  past.countP fun made => FailsOver made

theorem lastContact_snoc (past : List NetworkCall) (made : NetworkCall) :
    lastContact (past ++ [made]) =
      (contact? made).or (lastContact past) := by
  cases mark : contact? made <;> simp [lastContact, mark]

theorem lastDegraded_snoc (past : List NetworkCall) (made : NetworkCall) :
    lastDegraded (past ++ [made]) =
      (degradedSince? made).or (lastDegraded past) := by
  cases mark : degradedSince? made <;> simp [lastDegraded, mark]

theorem failovers_snoc (past : List NetworkCall) (made : NetworkCall) :
    failovers (past ++ [made]) =
      failovers past + if FailsOver made then 1 else 0 := by
  simp [failovers, List.countP_append, List.countP_singleton]

theorem failovers_snoc_of_same
    (past : List NetworkCall) {made : NetworkCall}
    (same : made.after.state = made.before.state) :
    failovers (past ++ [made]) = failovers past := by
  have no : ¬ FailsOver made := by
    rintro ⟨was, isDegraded⟩
    rw [same, was] at isDegraded
    cases isDegraded
  rw [failovers_snoc, if_neg no, Nat.add_zero]

/-- The link has been established since the last reconnection. -/
def NetworkState.Established : NetworkState → Prop
  | .disconnected => False
  | .connecting => False
  | .connected => True
  | .degraded => True
  | .recovering => True

/-- What the variables of the monitor record of the calls made. -/
structure Recorded (past : List NetworkCall) (net : NetworkV1) : Prop where
  contact : net.state.Established → lastContact past = some net.lastPrimaryOkMs
  degraded :
    net.state = .degraded → lastDegraded past = some net.degradedStartMs
  failovers : net.metrics.failoverCount = UInt32.ofNat (failovers past)

/-- The `switch` keeps the record. -/
theorem Recorded.processed
    {past : List NetworkCall}
    {output : List NetworkEffect} {profile : Option NodeProfileDesc}
    {initMs : UInt32}
    (recorded : Recorded past net)
    (outcome : ProcessOutcome net now ready after) :
    Recorded
      (past ++ [⟨net, .process profile initMs now ready, output,
        after.reportState⟩])
      after.reportState := by
  rcases recorded with ⟨contact, degraded, counted⟩
  refine ⟨?_, ?_, ?_⟩
  · intro established
    rw [lastContact_snoc]
    cases outcome with
    | kept =>
        have noMark : ¬ (net.state = .connecting ∧ net.state = .connected) := by
          rintro ⟨was, isConnected⟩
          cases was.symm.trans isConnected
        simpa [contact?, NetworkV1.reportState, noMark] using
          contact established
    | _ =>
        simp_all [contact?, NetworkV1.reportState, NetworkV1.activate,
          NetworkState.Established]
  · intro isDegraded
    rw [lastDegraded_snoc]
    cases outcome <;>
      simp_all [degradedSince?, NetworkV1.reportState, NetworkV1.activate]
  · cases outcome with
    | kept => rwa [failovers_snoc_of_same past rfl]
    | _ =>
        simp_all [failovers_snoc, FailsOver, NetworkV1.reportState,
          NetworkV1.activate]

theorem Recorded.snoc
    {past : List NetworkCall}
    {action : NetworkAction} {output : List NetworkEffect}
    (recorded : Recorded past net)
    (change : NetworkChange net action after) :
    Recorded (past ++ [⟨net, action, output, after⟩]) after := by
  cases change with
  | kept profile nowMs =>
      refine ⟨?_, ?_, ?_⟩
      · simpa [lastContact_snoc, contact?] using recorded.contact
      · simpa [lastDegraded_snoc, degradedSince?] using recorded.degraded
      · rw [failovers_snoc_of_same past rfl]
        exact recorded.failovers
  | processed profile initMs now ready outcome =>
      exact recorded.processed outcome
  | noted isRx success rttMs now =>
      refine ⟨?_, ?_, ?_⟩
      · cases isRx with
        | false =>
            simpa [lastContact_snoc, contact?, endapNetworkV1NotePacket]
              using recorded.contact
        | true =>
            simp [lastContact_snoc, contact?, endapNetworkV1NotePacket]
      · simpa [lastDegraded_snoc, degradedSince?,
          endapNetworkV1NotePacket] using recorded.degraded
      · rw [failovers_snoc_of_same past rfl]
        simpa [endapNetworkV1NotePacket] using recorded.failovers
  | reconnecting now =>
      refine ⟨fun established => established.elim, nofun, ?_⟩
      simp [failovers_snoc, FailsOver, endapNetworkV1ForceReconnect,
        NetworkV1.activate, recorded.failovers]

theorem network_run_recorded
    (profile : Option NodeProfileDesc) (initMs : UInt32)
    (actions : List NetworkAction) :
    Consistent (cachedConfig profile)
        (final networkStep (networkStart profile initMs) actions) ∧
    Recorded
      (history networkStep (networkStart profile initMs) actions)
      (final networkStep (networkStart profile initMs) actions) := by
  refine
    history_induction
      (motive := fun past net =>
        Consistent (cachedConfig profile) net ∧ Recorded past net)
      ?_ ?_ actions
  · refine ⟨networkStart_consistent profile initMs, ?_, nofun, rfl⟩
    exact fun established => established.elim
  · rintro past net action ⟨consistent, recorded⟩
    have change := networkStep_change consistent.initialized action
    exact ⟨networkStep_consistent consistent action, recorded.snoc change⟩

/-! ## The failover machine -/

/-- Only `process` fails over, and only on these grounds. -/
theorem failover_grounds
    (initialized : net.initialized = true)
    {action : NetworkAction}
    (failsOver : FailsOver (call networkStep net action)) :
    net.config.fallbackTransport ≠ .none ∧
    ∃ profile initMs now ready,
      action = .process profile initMs now ready ∧
      net.config.failoverDelayMs < now - net.lastPrimaryOkMs := by
  rcases failsOver with ⟨was, isDegraded⟩
  change net.state = .connected at was
  change (networkStep net action).1.state = .degraded at isDegraded
  have change := networkStep_change initialized action
  generalize (networkStep net action).1 = after at change isDegraded
  cases change with
  | processed profile initMs now ready outcome =>
      cases outcome with
      | failedOver _ _ quiet fallback =>
          exact ⟨fallback, profile, initMs, now, ready, rfl, quiet⟩
      | kept => cases was.symm.trans isDegraded
      | fellBack recovering _ => cases was.symm.trans recovering
      | _ => cases isDegraded
  | reconnecting => cases isDegraded
  | _ => cases was.symm.trans isDegraded

/-- `process` leaves the degraded state only after the hysteresis. -/
theorem hysteresis_of_leaving
    (initialized : net.initialized = true)
    (was : net.state = .degraded)
    {profile : Option NodeProfileDesc} {initMs : UInt32}
    (leaves :
      (networkStep net (.process profile initMs now ready)).1.state ≠
        .degraded) :
    net.config.recoveryHysteresisMs ≤ now - net.degradedStartMs := by
  change
    (endapNetworkV1Process net profile initMs now ready).1.state ≠
      .degraded at leaves
  rw [process_of_initialized initialized] at leaves
  by_contra early
  simp [processState, was, early, NetworkV1.reportState] at leaves

/--
The failover machine, along every run of the monitor after its
initialisation.

A gateway is never degraded nor recovering.  The active transport is the
fallback in the degraded state and the primary in every other.  The counter
of failovers is their number, in 32 bits.  A failover is made by `process`
only when the last reception or connection is older than the configured delay
and a fallback is configured; and `process` leaves the degraded state only
when the phase has lasted for the configured hysteresis.
-/
theorem network_failover_machine
    (profile : Option NodeProfileDesc) (initMs : UInt32)
    (actions : List NetworkAction) :
    let config := cachedConfig profile
    let past := history networkStep (networkStart profile initMs) actions
    let net := final networkStep (networkStart profile initMs) actions
    (config.isGateway = true →
        net.state ≠ .degraded ∧ net.state ≠ .recovering) ∧
      (net.state = .degraded →
          net.metrics.activeTransport = config.fallback) ∧
        (net.state ≠ .degraded →
            net.metrics.activeTransport = config.primary) ∧
          net.metrics.failoverCount.toNat = failovers past % 2 ^ 32 ∧
          (∀ action,
            FailsOver (call networkStep net action) →
            config.fallbackTransport ≠ .none ∧
            ∃ otherProfile otherMs now ready contact,
              action = .process otherProfile otherMs now ready ∧
              lastContact past = some contact ∧
              config.failoverDelayMs < now - contact) ∧
            ∀ otherProfile otherMs now ready,
              net.state = .degraded →
              (networkStep net
                  (.process otherProfile otherMs now ready)).1.state ≠
                  .degraded →
                ∃ entered,
                  lastDegraded past = some entered ∧
                  config.recoveryHysteresisMs ≤ now - entered := by
  intro config past net
  rcases network_run_recorded profile initMs actions with
    ⟨consistent, recorded⟩
  refine ⟨consistent.gateway, ?_, ?_, ?_, ?_, ?_⟩
  · intro isDegraded
    exact consistent.active.trans (if_pos isDegraded)
  · intro notDegraded
    exact consistent.active.trans (if_neg notDegraded)
  · rw [recorded.failovers, UInt32.toNat_ofNat']
  · intro action failsOver
    rcases failover_grounds consistent.initialized failsOver with
      ⟨fallback, otherProfile, otherMs, now, ready, asked, quiet⟩
    rw [consistent.configured] at fallback quiet
    have established : net.state.Established := by
      rw [show net.state = .connected from failsOver.1]
      trivial
    exact ⟨fallback, otherProfile, otherMs, now, ready, _, asked,
      recorded.contact established, quiet⟩
  · intro otherProfile otherMs now ready isDegraded leaves
    have waited :=
      hysteresis_of_leaving consistent.initialized isDegraded leaves
    rw [consistent.configured] at waited
    exact ⟨_, recorded.degraded isDegraded, waited⟩

/-! ## The counter of failovers wraps -/

/-- One failover and the recovery from it, ending a full turn of the clock
after the last reception. -/
def failoverTurn : List NetworkAction :=
  [.process none 0 5001 true, .process none 0 20001 true,
    .process none 0 0 true]

def turned (failoverCount : UInt32) : NetworkV1 where
  state := .connected
  metrics :=
    { failoverCount := failoverCount
      activeTransport := .wifiUdp
      currentState := .connected }
  degradedStartMs := 5001
  recoveringStartMs := 20001
  initialized := true

theorem final_failoverTurn (failoverCount : UInt32) :
    final networkStep (turned failoverCount) failoverTurn =
      turned (failoverCount + 1) := by
  simp [final, failoverTurn, networkStep, endapNetworkV1Process,
    endapNetworkV1Init, processState, turned, NetworkV1.reportState,
    NetworkV1.activate, NetworkConfig.primary,
    mapProfileTransportToCluster]

theorem failovers_failoverTurn (failoverCount : UInt32) :
    failovers (history networkStep (turned failoverCount) failoverTurn) =
      1 := by
  simp [failovers, FailsOver, history, call, failoverTurn, networkStep,
    endapNetworkV1Process, endapNetworkV1Init, processState, turned,
    NetworkV1.reportState, NetworkV1.activate]

/-- The connection, a first turn and `count` more. -/
def failoverTurns (count : Nat) : List NetworkAction :=
  (.process none 0 0 true :: failoverTurn) ++
    (List.replicate count failoverTurn).flatten

theorem failoverTurns_succ (count : Nat) :
    failoverTurns (count + 1) = failoverTurns count ++ failoverTurn := by
  simp [failoverTurns, List.replicate_succ']

theorem failoverTurns_run (count : Nat) :
    final networkStep (networkStart none 0) (failoverTurns count) =
        turned (UInt32.ofNat (count + 1)) ∧
    failovers
        (history networkStep (networkStart none 0) (failoverTurns count)) =
      count + 1 := by
  induction count with
  | zero => exact ⟨rfl, rfl⟩
  | succ count induction =>
      rcases induction with ⟨reached, counted⟩
      rw [failoverTurns_succ, final_append, history_append, reached]
      refine ⟨?_, ?_⟩
      · rw [final_failoverTurn, UInt32.ofNat_add (count + 1) 1]
        rfl
      · have turn := failovers_failoverTurn (UInt32.ofNat (count + 1))
        simp only [failovers, List.countP_append] at counted turn ⊢
        rw [counted, turn]

/-- After `2 ^ 32` failovers the counter reads zero. -/
theorem failover_counter_wraps :
    ∃ actions,
      (final networkStep (networkStart none 0)
            actions).metrics.failoverCount.toNat = 0 ∧
      failovers (history networkStep (networkStart none 0) actions) =
        2 ^ 32 := by
  rcases failoverTurns_run (2 ^ 32 - 1) with ⟨reached, counted⟩
  refine ⟨failoverTurns (2 ^ 32 - 1), ?_, counted⟩
  rw [reached]
  rfl

end Endap.Network
