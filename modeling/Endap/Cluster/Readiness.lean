import Endap.Cluster.Transport

/-!
# A selected transport that can be used

A transport whose own runtime was started should be ready, and frames should
be handed to that runtime.  This holds of UDP and RS485.  Of ESP-NOW and mesh
it holds exactly when the UDP sockets were open before the radio was selected.
-/

namespace Endap.Cluster

open Endap.Library

/-! ## Started and usable -/

/-- The runtime of the active type was started. -/
def TransportWorld.RuntimeStarted
    (world : TransportWorld) (rs485Available : Bool) : Prop :=
  match world.activeType with
  | .none => False
  | .wifiUdp => world.udpRuntimeStarted = true ∧ world.SocketsOpen
  | .ethernetUdp => world.udpRuntimeStarted = true ∧ world.SocketsOpen
  | .rs485 => rs485Available = true
  | .wifiMesh => world.meshInitialized = true
  | .wifiNow => world.nowInitialized = true

/--
A transport whose runtime was started is ready, and what is sent is handed to
that runtime.
-/
def TransportWorld.Usable (world : TransportWorld) : Prop :=
  ∀ rs485Available, world.RuntimeStarted rs485Available →
  world.isReady rs485Available = true ∧
  world.sendHeartbeat rs485Available = world.activeType.runtime ∧
  ∀ len, 0 < len →
  (world.activeType = .rs485 → len ≤ Rs485.Codec.frameMaxPayload) →
  world.broadcastFrame rs485Available len = world.activeType.runtime

/-- A radio, which is judged by sockets that it does not use. -/
def TransportType.IsRadio (type : TransportType) : Prop :=
  type = .wifiMesh ∨ type = .wifiNow

/-- The runtime of a radio that is selected runs already or starts now. -/
def TransportWorld.StartsRadio
    (world : TransportWorld) (platform : Platform) : Prop :=
  let best :=
    selectBest platform.profile platform.rs485Available platform.snapshot
  let changes :=
    world.activeType ≠ best ∨ world.discoveryBroadcastAddr ≠ inaddrBroadcast
  best = .wifiNow ∧
      (world.nowInitialized = true ∨
      changes ∧ platform.espNow.succeeds = true) ∨
    best = .wifiMesh ∧
    (world.meshInitialized = true ∨ changes ∧ platform.meshTask = true)

/-- A radio that is selected and runs finds the UDP sockets open. -/
def TransportWorld.FindsSockets
    (world : TransportWorld) (platform : Platform) : Prop :=
  world.StartsRadio platform → world.SocketsOpen

theorem isReady_of_socketsOpen
    {world : TransportWorld} (started : world.transportStarted = true)
    (selected : world.activeType ≠ .none)
    (notRs485 : world.activeType ≠ .rs485) (open' : world.SocketsOpen)
    (rs485Available : Bool) : world.isReady rs485Available = true := by
  simp [TransportWorld.isReady, started, selected, notRs485, open'.1, open'.2]

theorem socketsOpen_of_isReady
    {world : TransportWorld} (notRs485 : world.activeType ≠ .rs485)
    {rs485Available : Bool} (ready : world.isReady rs485Available = true) :
    world.SocketsOpen := by
  simp only [TransportWorld.isReady, if_neg notRs485, Bool.and_eq_true,
    decide_eq_true_eq] at ready
  exact ⟨ready.1.2, ready.2⟩

theorem broadcastFrame_eq_sendHeartbeat
    {world : TransportWorld} {rs485Available : Bool}
    (ready : world.isReady rs485Available = true) {len : Nat}
    (nonempty : 0 < len)
    (fits : world.activeType = .rs485 → len ≤ Rs485.Codec.frameMaxPayload) :
    world.broadcastFrame rs485Available len =
      world.sendHeartbeat rs485Available := by
  have someBytes : len ≠ 0 := Nat.ne_of_gt nonempty
  by_cases isRs485 : world.activeType = .rs485
  · have short := fits isRs485
    simp [TransportWorld.broadcastFrame, TransportWorld.sendHeartbeat, ready,
      someBytes, isRs485, short]
  · simp [TransportWorld.broadcastFrame, TransportWorld.sendHeartbeat, ready,
      someBytes, isRs485]

theorem usable_of_isReady
    {world : TransportWorld}
    (ready :
      ∀ rs485Available, world.RuntimeStarted rs485Available →
      world.isReady rs485Available = true) :
    world.Usable := by
  intro rs485Available runs
  have isReady := ready rs485Available runs
  have beats :
      world.sendHeartbeat rs485Available = world.activeType.runtime := by
    cases isType : world.activeType with
    | none => simp [TransportWorld.RuntimeStarted, isType] at runs
    | wifiMesh =>
        simp only [TransportWorld.RuntimeStarted, isType] at runs
        simp [TransportWorld.sendHeartbeat, isReady, isType, runs,
          TransportWorld.meshSend, TransportType.runtime]
    | wifiNow =>
        simp only [TransportWorld.RuntimeStarted, isType] at runs
        simp [TransportWorld.sendHeartbeat, isReady, isType, runs,
          TransportWorld.nowSend, TransportType.runtime]
    | wifiUdp | ethernetUdp | rs485 =>
        simp [TransportWorld.sendHeartbeat, isReady, isType,
          TransportType.runtime]
  refine ⟨isReady, beats, ?_⟩
  intro len nonempty fits
  rw [broadcastFrame_eq_sendHeartbeat isReady nonempty fits]
  exact beats

theorem usable_of_not_radio
    {world : TransportWorld} (started : world.transportStarted = true)
    (notRadio : ¬ world.activeType.IsRadio) : world.Usable := by
  refine usable_of_isReady ?_
  intro rs485Available runs
  cases isType : world.activeType with
  | none => simp [TransportWorld.RuntimeStarted, isType] at runs
  | rs485 =>
      simp only [TransportWorld.RuntimeStarted, isType] at runs
      simp [TransportWorld.isReady, isType, started, runs]
  | wifiMesh => exact absurd (Or.inl isType) notRadio
  | wifiNow => exact absurd (Or.inr isType) notRadio
  | wifiUdp | ethernetUdp =>
      simp only [TransportWorld.RuntimeStarted, isType] at runs
      exact
        isReady_of_socketsOpen started (by simp [isType]) (by simp [isType])
          runs.2 rs485Available

theorem usable_radio_iff
    {world : TransportWorld} (started : world.transportStarted = true)
    (radio : world.activeType.IsRadio) :
    world.Usable ↔ (world.RuntimeStarted false → world.SocketsOpen) := by
  have notRs485 : world.activeType ≠ .rs485 := by
    rcases radio with isType | isType <;> simp [isType]
  have selected : world.activeType ≠ .none := by
    rcases radio with isType | isType <;> simp [isType]
  have sameRuntime (rs485Available : Bool) :
      world.RuntimeStarted rs485Available ↔ world.RuntimeStarted false := by
    rcases radio with isType | isType <;>
      simp [TransportWorld.RuntimeStarted, isType]
  constructor
  · intro usable runs
    exact socketsOpen_of_isReady notRs485 (usable false runs).1
  · intro opens
    refine usable_of_isReady ?_
    intro rs485Available runs
    exact
      isReady_of_socketsOpen started selected notRs485
        (opens ((sameRuntime rs485Available).mp runs)) rs485Available

/-! ## One evaluation of the route -/

/-- What the first start sets and nothing unsets. -/
def TransportWorld.setOnce (world : TransportWorld) : Bool × Bool × Bool :=
  (world.transportStarted, world.remoteClaimMutex, world.remoteClaimSem)

theorem startUdpRuntime_setOnce
    (world : TransportWorld) (platform : Platform) :
    (world.startUdpRuntime platform).2.setOnce = world.setOnce := by
  rw [TransportWorld.startUdpRuntime]
  dsimp only
  split_ifs <;> rfl

theorem chooseRoute_setOnce
    (world : TransportWorld) (platform : Platform)
    (fallbackType : TransportType) :
    (world.chooseRoute platform fallbackType).1.setOnce =
      world.setOnce := by
  have kept := startUdpRuntime_setOnce world platform
  rw [TransportWorld.chooseRoute]
  generalize world.startUdpRuntime platform = result at kept
  rcases result with ⟨_ | _, reached⟩
  · dsimp only at kept ⊢
    split_ifs <;> first | exact kept | rfl
  · dsimp only at kept ⊢
    split_ifs <;> first | exact kept | rfl

theorem chooseRoute_radio
    (world : TransportWorld) {platform : Platform}
    (fallbackType : TransportType)
    (radio :
      (selectBest platform.profile platform.rs485Available
        platform.snapshot).IsRadio) :
    world.chooseRoute platform fallbackType =
      (world,
        selectBest platform.profile platform.rs485Available platform.snapshot,
        inaddrBroadcast) := by
  rw [TransportWorld.chooseRoute]
  generalize
    selectBest platform.profile platform.rs485Available platform.snapshot =
      best at radio
  rcases radio with rfl | rfl
  · rfl
  · rfl

theorem chooseRoute_not_radio
    (world : TransportWorld) {platform : Platform}
    (fallbackType : TransportType)
    (notRadio :
      ¬ (selectBest platform.profile platform.rs485Available
        platform.snapshot).IsRadio) :
    ¬ (world.chooseRoute platform fallbackType).2.1.IsRadio := by
  have selected :=
    selectBest_ne_none platform.profile platform.rs485Available
      platform.snapshot
  rw [TransportWorld.chooseRoute, if_pos selected]
  split
  · split
    · exact notRadio
    · split
      · rintro (isMesh | isNow)
        · cases isMesh
        · cases isNow
      · rintro (isMesh | isNow)
        · cases isMesh
        · cases isNow
  · exact notRadio

theorem nowInit_eq (world : TransportWorld) (outcome : EspNowOutcome) :
    world.nowInit outcome =
      { world with
        nowInitialized := world.nowInitialized || outcome.succeeds } := by
  rcases world with ⟨_, _, _, _, _, _, _, running, _, _, _⟩
  rcases outcome with ⟨starts, registers, addsPeer⟩
  cases running <;> cases starts <;> cases registers <;> cases addsPeer <;> rfl

theorem meshInit_eq (world : TransportWorld) (taskCreated : Bool) :
    world.meshInit taskCreated =
      { world with
        meshInitialized := world.meshInitialized || taskCreated } := by
  rcases world with ⟨_, _, _, _, _, _, _, _, running, _, _⟩
  cases running <;> cases taskCreated <;> rfl

/-- What a switch of the route leaves of ESP-NOW. -/
def nowAfter
    (running : Bool) (outcome : EspNowOutcome)
    (previous next : TransportType) : Bool :=
  if next = .wifiNow then running || outcome.succeeds
  else if previous = .wifiNow then false
  else running

/-- What a switch of the route leaves of mesh. -/
def meshAfter
    (running taskCreated : Bool) (previous next : TransportType) : Bool :=
  if next = .wifiMesh then running || taskCreated
  else if previous = .wifiMesh then false
  else running

theorem switchNow_eq
    (world : TransportWorld) (outcome : EspNowOutcome)
    (previous next : TransportType) :
    world.switchNow outcome previous next =
      { world with
        nowInitialized :=
          nowAfter world.nowInitialized outcome previous next } := by
  rw [TransportWorld.switchNow, nowAfter, nowInit_eq]
  split_ifs <;> rfl

theorem switchMesh_eq
    (world : TransportWorld) (taskCreated : Bool)
    (previous next : TransportType) :
    world.switchMesh taskCreated previous next =
      { world with
        meshInitialized :=
          meshAfter world.meshInitialized taskCreated previous next } := by
  rw [TransportWorld.switchMesh, meshAfter, meshInit_eq]
  split_ifs <;> rfl

/-- A route is taken by setting the address and the type, and, when either
changes, by switching the two radios. -/
theorem takeRoute_eq
    (world : TransportWorld) (platform : Platform) (next : TransportType)
    (addr : UInt32) :
    world.takeRoute platform next addr =
      if world.activeType ≠ next ∨ world.discoveryBroadcastAddr ≠ addr then
        { world.setBroadcast addr with
          activeType := next
          nowInitialized :=
            nowAfter world.nowInitialized platform.espNow world.activeType
              next
          meshInitialized :=
            meshAfter world.meshInitialized platform.meshTask
              world.activeType next }
      else
        { world.setBroadcast addr with activeType := next } := by
  rw [TransportWorld.takeRoute]
  simp only [switchNow_eq, switchMesh_eq]
  rfl

theorem takeRoute_frame
    (world : TransportWorld) (platform : Platform) (next : TransportType)
    (addr : UInt32) :
    (world.takeRoute platform next addr).activeType = next ∧
    (world.takeRoute platform next addr).setOnce = world.setOnce ∧
    ((world.takeRoute platform next addr).SocketsOpen ↔
    world.SocketsOpen) := by
  rw [takeRoute_eq]
  split
  · exact ⟨rfl, rfl, Iff.rfl⟩
  · exact ⟨rfl, rfl, Iff.rfl⟩

theorem takeRoute_runs
    (world : TransportWorld) (platform : Platform) (next : TransportType)
    (radio : next.IsRadio) :
    (world.takeRoute platform next inaddrBroadcast).RuntimeStarted false ↔
    next = .wifiNow ∧
        (world.nowInitialized = true ∨
        (world.activeType ≠ next ∨
            world.discoveryBroadcastAddr ≠ inaddrBroadcast) ∧
          platform.espNow.succeeds = true) ∨
      next = .wifiMesh ∧
      (world.meshInitialized = true ∨
      (world.activeType ≠ next ∨
          world.discoveryBroadcastAddr ≠ inaddrBroadcast) ∧
        platform.meshTask = true) := by
  rw [takeRoute_eq]
  rcases radio with rfl | rfl
  · split
    · next changes =>
        simp [TransportWorld.RuntimeStarted, meshAfter, changes]
    · next same =>
        simp [TransportWorld.RuntimeStarted, TransportWorld.setBroadcast, same]
  · split
    · next changes =>
        simp [TransportWorld.RuntimeStarted, nowAfter, changes]
    · next same =>
        simp [TransportWorld.RuntimeStarted, TransportWorld.setBroadcast, same]

theorem apply_setOnce
    (world : TransportWorld) (platform : Platform)
    (fallbackType : TransportType) :
    (world.applyNetworkSnapshot platform fallbackType).setOnce =
      world.setOnce := by
  rw [TransportWorld.applyNetworkSnapshot]
  exact
    (takeRoute_frame _ platform _ _).2.1.trans
      (chooseRoute_setOnce world platform fallbackType)

/--
An evaluation of the route leads to a usable transport exactly when a radio
that it selects finds the sockets open.
-/
theorem apply_usable_iff
    {world : TransportWorld} (started : world.transportStarted = true)
    (platform : Platform) (fallbackType : TransportType) :
    (world.applyNetworkSnapshot platform fallbackType).Usable ↔
    world.FindsSockets platform := by
  have startedAfter :
      (world.applyNetworkSnapshot platform
        fallbackType).transportStarted = true :=
    (congrArg Prod.fst (apply_setOnce world platform fallbackType)).trans
      started
  by_cases radio :
      (selectBest platform.profile platform.rs485Available
        platform.snapshot).IsRadio
  · have isRoute :
        world.applyNetworkSnapshot platform fallbackType =
          world.takeRoute platform
            (selectBest platform.profile platform.rs485Available
              platform.snapshot)
            inaddrBroadcast := by
      rw [TransportWorld.applyNetworkSnapshot,
        chooseRoute_radio world fallbackType radio]
    rcases takeRoute_frame world platform
        (selectBest platform.profile platform.rs485Available platform.snapshot)
        inaddrBroadcast with
      ⟨isType, -, sameSockets⟩
    rw [isRoute] at startedAfter ⊢
    rw [usable_radio_iff startedAfter (isType.symm ▸ radio), sameSockets,
      takeRoute_runs world platform _ radio]
    rfl
  · have notRadio :
        ¬ (world.applyNetworkSnapshot platform
          fallbackType).activeType.IsRadio := by
      rw [TransportWorld.applyNetworkSnapshot,
        (takeRoute_frame _ platform _ _).1]
      exact chooseRoute_not_radio world fallbackType radio
    refine iff_of_true (usable_of_not_radio startedAfter notRadio) ?_
    rintro (⟨isNow, -⟩ | ⟨isMesh, -⟩)
    · exact absurd (Or.inr isNow) radio
    · exact absurd (Or.inl isMesh) radio

/-! ## Runs -/

/-- What makes the transport evaluate its route. -/
inductive TransportAction where
  | start (type : TransportType) (creation : Creation)
      (platform : Platform)
  | networkReady (platform : Platform)
  | apply (platform : Platform) (fallbackType : TransportType)

/-- What is read while the route is evaluated. -/
def TransportAction.platform : TransportAction → Platform
  | .start _ _ platform => platform
  | .networkReady platform => platform
  | .apply platform _ => platform

/-- One evaluation, with what a start returns. -/
def TransportWorld.step (world : TransportWorld) :
    TransportAction → TransportWorld × Bool
  | .start type creation platform =>
      (world.start type creation platform).swap
  | .networkReady platform => (world.onNetworkReady platform, true)
  | .apply platform fallbackType =>
      (world.applyNetworkSnapshot platform fallbackType, true)

theorem step_of_started
    {world : TransportWorld} (started : world.setOnce = (true, true, true))
    (action : TransportAction) :
    ∃ fallbackType,
      (world.step action).1 =
        world.applyNetworkSnapshot action.platform fallbackType := by
  rcases world with ⟨_, _, _, _, _, running, _, _, _, hasMutex, hasSem⟩
  obtain ⟨rfl, rfl, rfl⟩ : running = true ∧ hasMutex = true ∧
      hasSem = true := by
    simpa [TransportWorld.setOnce] using started
  cases action with
  | start type creation platform => exact ⟨type, rfl⟩
  | networkReady platform =>
      exact ⟨if platform.rs485Available then .rs485 else _, rfl⟩
  | apply platform fallbackType => exact ⟨fallbackType, rfl⟩

theorem startsRadio_inactive
    {world : TransportWorld} (inactive : world.activeType = .none)
    (platform : Platform) :
    world.StartsRadio platform ↔
    selectBest platform.profile platform.rs485Available
            platform.snapshot = .wifiNow ∧
        (world.nowInitialized = true ∨ platform.espNow.succeeds = true) ∨
      selectBest platform.profile platform.rs485Available
            platform.snapshot = .wifiMesh ∧
      (world.meshInitialized = true ∨ platform.meshTask = true) := by
  have changes :
      world.activeType ≠
        selectBest platform.profile platform.rs485Available
          platform.snapshot := by
    rw [inactive]
    exact (selectBest_ne_none _ _ _).symm
  simp [TransportWorld.StartsRadio, changes]

theorem start_boot
    {type : TransportType} {creation : Creation} {platform : Platform}
    (success : (TransportWorld.boot.start type creation platform).1 = true) :
    (TransportWorld.boot.start type creation platform).2.setOnce =
        (true, true, true) ∧
    ((TransportWorld.boot.start type creation platform).2.Usable ↔
    TransportWorld.boot.FindsSockets platform) := by
  rcases creation with ⟨mutex, sem⟩
  cases mutex with
  | false => cases success
  | true =>
      cases sem with
      | false => cases success
      | true =>
          let opened : TransportWorld :=
            { TransportWorld.boot.setBroadcast inaddrBroadcast with
              transportStarted := true
              remoteClaimMutex := true
              remoteClaimSem := true }
          have isStart :
              (TransportWorld.boot.start type ⟨true, true⟩ platform).2 =
                opened.applyNetworkSnapshot platform type :=
            rfl
          rw [isStart]
          refine ⟨apply_setOnce opened platform type, ?_⟩
          rw [apply_usable_iff rfl platform type]
          have sameRadio :
              opened.StartsRadio platform ↔
              TransportWorld.boot.StartsRadio platform := by
            rw [@startsRadio_inactive opened rfl platform,
              @startsRadio_inactive .boot rfl platform]
            rfl
          exact imp_congr sameRadio Iff.rfl

/--
In every run that begins with a successful start, every state reached can use
a transport whose runtime was started, if and only if no evaluation selects a
radio, which runs already or starts, while the UDP sockets are closed.
-/
theorem started_transport_usable_iff
    {type : TransportType} {creation : Creation} {platform : Platform}
    (success : (TransportWorld.boot.start type creation platform).1 = true)
    (actions : List TransportAction) :
    (∀ transition ∈
        Run.history TransportWorld.step .boot
          (.start type creation platform :: actions),
      transition.after.Usable) ↔
    ∀ transition ∈
        Run.history TransportWorld.step .boot
          (.start type creation platform :: actions),
      transition.before.FindsSockets transition.action.platform := by
  rcases start_boot success with ⟨started, usable⟩
  refine forall₂_congr ?_
  intro transition member
  rcases List.mem_cons.mp member with rfl | later
  · exact usable
  · have kept :=
      Run.history_invariant
        (fun world => world.setOnce = (true, true, true)) started
        (by
          intro world action running
          rcases step_of_started running action with ⟨fallbackType, isStep⟩
          rw [isStep, apply_setOnce, running])
        later
    rcases step_of_started kept.1 transition.action with
      ⟨fallbackType, isStep⟩
    have isAfter :
        transition.after =
          transition.before.applyNetworkSnapshot
            transition.action.platform fallbackType := by
      rw [kept.2]
      exact isStep
    rw [isAfter]
    exact apply_usable_iff (congrArg Prod.fst kept.1) _ _

instance (world : TransportWorld) (platform : Platform) :
    Decidable (world.StartsRadio platform) :=
  inferInstanceAs (Decidable (_ ∨ _))

instance (world : TransportWorld) (platform : Platform) :
    Decidable (world.FindsSockets platform) :=
  inferInstanceAs (Decidable (_ → _))

def wiredPlatform (snapshot : Option NetworkReadySnapshot) : Platform where
  profile :=
    { wifiSupported := true
      ethernetSupported := true
      rs485Supported := false
      wifiEnabled := false
      ethernetEnabled := true
      rs485Enabled := false
      wifiMode := .infra
      primaryTransport := .ethernet }
  rs485Available := false
  snapshot := snapshot
  discoverySocket := ⟨54, true⟩
  frameSocket := ⟨55, true⟩
  discoveryTask := true
  frameTask := true
  espNow := ⟨true, true, true⟩
  meshTask := true

def ethernetLink : NetworkReadySnapshot where
  activeIpAddr := 0x0A00A8C0
  activeNetmaskAddr := 0x00FFFFFF
  wifiApUp := false
  wifiStaUp := false
  ethernetUp := true

def noLink : NetworkReadySnapshot where
  activeIpAddr := 0
  activeNetmaskAddr := 0
  wifiApUp := false
  wifiStaUp := false
  ethernetUp := false

def linkLost : List TransportAction :=
  [.start .ethernetUdp ⟨true, true⟩ (wiredPlatform (some ethernetLink)),
    .networkReady (wiredPlatform (some noLink))]

/-- The sockets were opened for Ethernet, so ESP-NOW can be used after it. -/
theorem linkLost_usable :
    (∀ transition ∈ Run.history TransportWorld.step .boot linkLost,
      transition.after.Usable) ∧
      (Run.final TransportWorld.step .boot linkLost).activeType =
        .wifiNow := by
  refine ⟨?_, by decide +kernel⟩
  exact
    (started_transport_usable_iff (by decide +kernel)
      [.networkReady (wiredPlatform (some noLink))]).mpr
      (by decide +kernel)

/--
A start without a link selects ESP-NOW and starts it, and the transport is not
ready: heartbeats and frames are dropped.
-/
theorem start_without_link_not_ready :
    let started :=
      TransportWorld.boot.start .ethernetUdp ⟨true, true⟩
        (wiredPlatform (some noLink))
    started.1 = true ∧ started.2.activeType = .wifiNow ∧
    started.2.RuntimeStarted false ∧ started.2.isReady false = false ∧
    started.2.sendHeartbeat false = none ∧ ¬ started.2.Usable := by
  refine ⟨by decide +kernel, by decide +kernel, ?_, by decide +kernel,
    by decide +kernel, ?_⟩
  · show _ = true
    decide +kernel
  · intro usable
    have ready := (usable false (by show _ = true; decide +kernel)).1
    exact absurd ready (by decide +kernel)

end Endap.Cluster
