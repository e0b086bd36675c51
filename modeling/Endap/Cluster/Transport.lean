import Endap.Device.Network
import Endap.Library.Run
import Endap.Rs485.Codec

/-!
# The transport of the cluster

The cluster talks over one transport at a time.  Each report of the network
selects the best transport that the profile and the links allow, starts the
UDP sockets if it needs them, and starts or stops ESP-NOW and mesh when the
route changes.  Frames leave only while the transport is ready.

RS485 is judged by its engine.  Every other transport is judged by the two UDP
sockets, ESP-NOW and mesh too, though they use neither: a radio that is
selected before the sockets were ever opened runs and is never used.
-/

namespace Endap.Cluster

open Endap.Device
open Endap.Library

/-- `cluster_transport_type_t`. -/
inductive TransportType where
  | none
  | wifiUdp
  | ethernetUdp
  | rs485
  | wifiMesh
  | wifiNow
deriving DecidableEq

/-- `network_ready_snapshot_t`, the fields that the transport reads. -/
structure NetworkReadySnapshot where
  activeIpAddr : UInt32
  activeNetmaskAddr : UInt32
  wifiApUp : Bool
  wifiStaUp : Bool
  ethernetUp : Bool

/-! ## Selection -/

/-- `cluster_transport_profile_allows`. -/
def profileAllows (profile : NetworkProfile) : TransportType → Bool
  | .ethernetUdp => transportEnabled .ethernet profile
  | .wifiUdp => transportEnabled .wifi profile
  | .rs485 => transportEnabled .rs485 profile
  | .wifiNow => transportEnabled .espnow profile
  | .wifiMesh => transportEnabled .mesh profile
  | .none => true

/-- `cluster_transport_type_uses_udp`. -/
def TransportType.usesUdp (type : TransportType) : Bool :=
  type = .wifiUdp || type = .ethernetUdp

/-- Wi-Fi is up, as a station or as an access point. -/
def wifiUp : Option NetworkReadySnapshot → Bool
  | none => false
  | some snapshot => snapshot.wifiStaUp || snapshot.wifiApUp

def ethernetUp : Option NetworkReadySnapshot → Bool
  | none => false
  | some snapshot => snapshot.ethernetUp

/-- The first part of `cluster_transport_select_best`: the transport that the
profile puts first, if it can be used. -/
def selectPrimary
    (profile : NetworkProfile) (rs485Available : Bool)
    (snapshot : Option NetworkReadySnapshot) : Option TransportType :=
  if profile.primaryTransport = .none then
    none
  else if profile.primaryTransport = .rs485 && profileAllows profile .rs485 &&
      rs485Available then
    some .rs485
  else if profile.primaryTransport = .ethernet && ethernetUp snapshot &&
      profileAllows profile .ethernetUdp then
    some .ethernetUdp
  else if wifiUp snapshot then
    if profile.primaryTransport = .wifi && profileAllows profile .wifiUdp then
      some .wifiUdp
    else if profile.primaryTransport = .mesh &&
        profileAllows profile .wifiMesh then
      some .wifiMesh
    else if profile.primaryTransport = .espnow &&
        profileAllows profile .wifiNow then
      some .wifiNow
    else
      none
  else
    none

/-- The Wi-Fi transport that the mode of the profile asks for. -/
def selectWifi
    (profile : NetworkProfile) (snapshot : Option NetworkReadySnapshot) :
    Option TransportType :=
  if wifiUp snapshot then
    if profile.wifiMode = .mesh && profileAllows profile .wifiMesh then
      some .wifiMesh
    else if profile.wifiMode = .now && profileAllows profile .wifiNow then
      some .wifiNow
    else if profileAllows profile .wifiUdp then
      some .wifiUdp
    else
      none
  else
    none

/-- `cluster_transport_select_best`. -/
def selectBest
    (profile : NetworkProfile) (rs485Available : Bool)
    (snapshot : Option NetworkReadySnapshot) : TransportType :=
  match selectPrimary profile rs485Available snapshot with
  | some type => type
  | none =>
      if ethernetUp snapshot && profileAllows profile .ethernetUdp then
        .ethernetUdp
      else
        match selectWifi profile snapshot with
        | some type => type
        | none =>
            if profileAllows profile .wifiNow then .wifiNow
            else if profileAllows profile .rs485 && rs485Available then .rs485
            else .none

theorem profileAllows_wifiNow (profile : NetworkProfile) :
    profileAllows profile .wifiNow = true :=
  rfl

theorem selectPrimary_ne_none
    {profile : NetworkProfile} {rs485Available : Bool}
    {snapshot : Option NetworkReadySnapshot} {type : TransportType}
    (selected : selectPrimary profile rs485Available snapshot = some type) :
    type ≠ .none := by
  rintro rfl
  unfold selectPrimary at selected
  split_ifs at selected <;> cases selected

theorem selectWifi_ne_none
    {profile : NetworkProfile} {snapshot : Option NetworkReadySnapshot}
    {type : TransportType}
    (selected : selectWifi profile snapshot = some type) :
    type ≠ .none := by
  rintro rfl
  unfold selectWifi at selected
  split_ifs at selected <;> cases selected

theorem selectBest_ne_none
    (profile : NetworkProfile) (rs485Available : Bool)
    (snapshot : Option NetworkReadySnapshot) :
    selectBest profile rs485Available snapshot ≠ .none := by
  rw [selectBest]
  split
  · next type isPrimary => exact selectPrimary_ne_none isPrimary
  · split
    · exact TransportType.noConfusion
    · split
      · next type isWifi => exact selectWifi_ne_none isWifi
      · rw [if_pos (profileAllows_wifiNow profile)]
        exact TransportType.noConfusion

/-! ## State -/

/-- `INADDR_BROADCAST`, which is the same in both byte orders. -/
def inaddrBroadcast : UInt32 := 0xFFFFFFFF

/-- What the platform answers while a socket is made. -/
structure SocketOutcome where
  socket : Int
  binds : Bool

/-- What the platform answers while ESP-NOW is started; a peer that exists
already counts as added. -/
structure EspNowOutcome where
  starts : Bool
  registers : Bool
  addsPeer : Bool

/-- What one evaluation of the route reads, and what the platform answers. -/
structure Platform where
  profile : NetworkProfile
  rs485Available : Bool
  snapshot : Option NetworkReadySnapshot
  discoverySocket : SocketOutcome
  frameSocket : SocketOutcome
  discoveryTask : Bool
  frameTask : Bool
  espNow : EspNowOutcome
  meshTask : Bool

/-- The variables of the transport, with those of ESP-NOW and mesh. -/
structure TransportWorld where
  discoverySock : Int
  frameSock : Int
  discoveryBroadcastAddr : UInt32
  frameBroadcastAddr : UInt32
  udpRuntimeStarted : Bool
  transportStarted : Bool
  activeType : TransportType
  nowInitialized : Bool
  meshInitialized : Bool
  remoteClaimMutex : Bool
  remoteClaimSem : Bool

/-- The variables as they are at boot. -/
def TransportWorld.boot : TransportWorld where
  discoverySock := -1
  frameSock := -1
  discoveryBroadcastAddr := 0
  frameBroadcastAddr := 0
  udpRuntimeStarted := false
  transportStarted := false
  activeType := .none
  nowInitialized := false
  meshInitialized := false
  remoteClaimMutex := false
  remoteClaimSem := false

/-- Both addresses, as `cluster_transport_set_sockaddr` sets them. -/
def TransportWorld.setBroadcast (world : TransportWorld) (addr : UInt32) :
    TransportWorld :=
  { world with discoveryBroadcastAddr := addr, frameBroadcastAddr := addr }

/-! ## UDP -/

/-- `cluster_transport_make_udp_socket`. -/
def makeUdpSocket (outcome : SocketOutcome) : Int :=
  if outcome.socket < 0 then -1
  else if outcome.binds then outcome.socket
  else -1

/-- A socket after it has been closed. -/
def closedSock (sock : Int) : Int :=
  if 0 ≤ sock then -1 else sock

/-- `cluster_transport_close_all`. -/
def TransportWorld.closeAll (world : TransportWorld) : TransportWorld :=
  { world with
    discoverySock := closedSock world.discoverySock
    frameSock := closedSock world.frameSock
    udpRuntimeStarted := false }

/-- Both sockets are open. -/
def TransportWorld.SocketsOpen (world : TransportWorld) : Prop :=
  0 ≤ world.discoverySock ∧ 0 ≤ world.frameSock

instance (world : TransportWorld) : Decidable world.SocketsOpen :=
  inferInstanceAs (Decidable (_ ∧ _))

/-- `cluster_transport_start_udp_runtime`. -/
def TransportWorld.startUdpRuntime
    (world : TransportWorld) (platform : Platform) :
    Bool × TransportWorld :=
  if world.udpRuntimeStarted = true ∧ world.SocketsOpen then
    (true, world)
  else
    let discovery :=
      { world with discoverySock := makeUdpSocket platform.discoverySocket }
    if discovery.discoverySock < 0 then
      (false, discovery)
    else
      let both :=
        { discovery with frameSock := makeUdpSocket platform.frameSocket }
      if both.frameSock < 0 then
        (false, both.closeAll)
      else
        let addressed := both.setBroadcast inaddrBroadcast
        if platform.discoveryTask && platform.frameTask then
          (true, { addressed with udpRuntimeStarted := true })
        else
          (false, addressed.closeAll)

/-- `cluster_transport_compute_broadcast_addr`. -/
def computeBroadcastAddr (ipAddr netmaskAddr : UInt32) : UInt32 :=
  if ipAddr = 0 ∨ netmaskAddr = 0 then inaddrBroadcast
  else (ipAddr &&& netmaskAddr) ||| ~~~netmaskAddr

/-! ## ESP-NOW and mesh -/

def EspNowOutcome.succeeds (outcome : EspNowOutcome) : Bool :=
  outcome.starts && outcome.registers && outcome.addsPeer

/-- `cluster_transport_now_init`. -/
def TransportWorld.nowInit
    (world : TransportWorld) (outcome : EspNowOutcome) : TransportWorld :=
  if world.nowInitialized then world
  else if !outcome.starts then world
  else if !outcome.registers then world
  else if !outcome.addsPeer then world
  else { world with nowInitialized := true }

/-- `cluster_transport_now_deinit`. -/
def TransportWorld.nowDeinit (world : TransportWorld) : TransportWorld :=
  { world with nowInitialized := false }

/-- `cluster_transport_mesh_init`. -/
def TransportWorld.meshInit
    (world : TransportWorld) (taskCreated : Bool) : TransportWorld :=
  if world.meshInitialized then world
  else if !taskCreated then world
  else { world with meshInitialized := true }

/-- `cluster_transport_mesh_deinit`. -/
def TransportWorld.meshDeinit (world : TransportWorld) : TransportWorld :=
  { world with meshInitialized := false }

/-! ## The route -/

/-- What a route that uses UDP broadcasts to. -/
def routeBroadcast : Option NetworkReadySnapshot → UInt32
  | none => inaddrBroadcast
  | some snapshot =>
      computeBroadcastAddr snapshot.activeIpAddr snapshot.activeNetmaskAddr

/-- The next type and broadcast address of
`cluster_transport_apply_network_snapshot`. -/
def TransportWorld.chooseRoute
    (world : TransportWorld) (platform : Platform)
    (fallbackType : TransportType) :
    TransportWorld × TransportType × UInt32 :=
  let preferred :=
    selectBest platform.profile platform.rs485Available platform.snapshot
  if preferred ≠ .none then
    if preferred.usesUdp then
      match world.startUdpRuntime platform with
      | (true, started) =>
          (started, preferred, routeBroadcast platform.snapshot)
      | (false, stopped) =>
          if profileAllows platform.profile .rs485 &&
              platform.rs485Available then
            (stopped, .rs485, inaddrBroadcast)
          else
            (stopped, .none, inaddrBroadcast)
    else
      (world, preferred, inaddrBroadcast)
  else if profileAllows platform.profile fallbackType then
    if fallbackType.usesUdp then
      match world.startUdpRuntime platform with
      | (true, started) => (started, fallbackType, inaddrBroadcast)
      | (false, stopped) => (stopped, .none, inaddrBroadcast)
    else
      (world, fallbackType, inaddrBroadcast)
  else
    (world, .none, inaddrBroadcast)

/-- ESP-NOW after the route changed from one type to another. -/
def TransportWorld.switchNow
    (world : TransportWorld) (outcome : EspNowOutcome)
    (previous next : TransportType) : TransportWorld :=
  if next = .wifiNow then world.nowInit outcome
  else if previous = .wifiNow then world.nowDeinit
  else world

/-- Mesh after the route changed from one type to another. -/
def TransportWorld.switchMesh
    (world : TransportWorld) (taskCreated : Bool)
    (previous next : TransportType) : TransportWorld :=
  if next = .wifiMesh then world.meshInit taskCreated
  else if previous = .wifiMesh then world.meshDeinit
  else world

/-- The rest of `cluster_transport_apply_network_snapshot`, once the next type
and address are known. -/
def TransportWorld.takeRoute
    (world : TransportWorld) (platform : Platform) (next : TransportType)
    (addr : UInt32) : TransportWorld :=
  let routed := { world.setBroadcast addr with activeType := next }
  if world.activeType ≠ next ∨ world.discoveryBroadcastAddr ≠ addr then
    (routed.switchNow platform.espNow world.activeType next).switchMesh
      platform.meshTask world.activeType next
  else
    routed

/-- `cluster_transport_apply_network_snapshot`. -/
def TransportWorld.applyNetworkSnapshot
    (world : TransportWorld) (platform : Platform)
    (fallbackType : TransportType) : TransportWorld :=
  match world.chooseRoute platform fallbackType with
  | (chosen, next, addr) => chosen.takeRoute platform next addr

/-- `cluster_transport_on_network_ready`. -/
def TransportWorld.onNetworkReady
    (world : TransportWorld) (platform : Platform) : TransportWorld :=
  if world.transportStarted then
    world.applyNetworkSnapshot platform
      (if platform.rs485Available then .rs485 else world.activeType)
  else
    world

/-- What the platform answers when the mutex and the semaphore of the remote
claim are created. -/
structure Creation where
  mutex : Bool
  sem : Bool

/-- `cluster_transport_start`. -/
def TransportWorld.start
    (world : TransportWorld) (type : TransportType) (creation : Creation)
    (platform : Platform) : Bool × TransportWorld :=
  if !world.remoteClaimMutex && !creation.mutex then
    (false, world)
  else
    let locked := { world with remoteClaimMutex := true }
    if !locked.remoteClaimSem && !creation.sem then
      (false, locked)
    else
      let signalled := { locked with remoteClaimSem := true }
      if signalled.transportStarted then
        (true, signalled.applyNetworkSnapshot platform type)
      else
        let opened :=
          { signalled.setBroadcast inaddrBroadcast with
            transportStarted := true }
        (true, opened.applyNetworkSnapshot platform type)

/-! ## Sending -/

/-- `cluster_transport_is_ready`. -/
def TransportWorld.isReady
    (world : TransportWorld) (rs485Available : Bool) : Bool :=
  let ready := world.transportStarted && world.activeType ≠ .none
  if world.activeType = .rs485 then
    ready && rs485Available
  else
    ready && 0 ≤ world.discoverySock && 0 ≤ world.frameSock

/-- What a frame is handed to. -/
inductive Runtime where
  | udp
  | rs485
  | mesh
  | espNow

/-- The runtime of a transport. -/
def TransportType.runtime : TransportType → Option Runtime
  | .none => Option.none
  | .wifiUdp => some .udp
  | .ethernetUdp => some .udp
  | .rs485 => some .rs485
  | .wifiMesh => some .mesh
  | .wifiNow => some .espNow

/-- `cluster_transport_now_send`, up to the driver. -/
def TransportWorld.nowSend (world : TransportWorld) : Option Runtime :=
  if world.nowInitialized then some .espNow else none

/-- `cluster_transport_mesh_send`, up to the driver. -/
def TransportWorld.meshSend (world : TransportWorld) : Option Runtime :=
  if world.meshInitialized then some .mesh else none

/-- `cluster_transport_send_heartbeat`: the runtime that gets the heartbeat. -/
def TransportWorld.sendHeartbeat
    (world : TransportWorld) (rs485Available : Bool) : Option Runtime :=
  if world.isReady rs485Available then
    if world.activeType = .rs485 then some .rs485
    else if world.activeType = .wifiNow then world.nowSend
    else if world.activeType = .wifiMesh then world.meshSend
    else some .udp
  else
    none

/-- `cluster_transport_broadcast_frame`: the runtime that gets the frame. -/
def TransportWorld.broadcastFrame
    (world : TransportWorld) (rs485Available : Bool) (len : Nat) :
    Option Runtime :=
  if !world.isReady rs485Available || len = 0 then
    none
  else if world.activeType = .rs485 then
    if Rs485.Codec.frameMaxPayload < len then none else some .rs485
  else if world.activeType = .wifiNow then
    world.nowSend
  else if world.activeType = .wifiMesh then
    world.meshSend
  else
    some .udp

end Endap.Cluster
