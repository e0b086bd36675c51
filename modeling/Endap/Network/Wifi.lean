import Endap.Network.Ready
import Endap.Onboarding.Claim

/-!
# The Wi-Fi manager

The manager joins the network whose credentials are saved, tries again when
it loses it, and opens an access point of its own when that fails or when
there are no credentials.  Calls come from the web server and the recovery,
events from the driver, and one timer closes the access point some time after
a new network was joined.

A call or an event handler is one step; what the driver and the storage
answer during it is part of the step.
-/

namespace Endap.Network

open Endap.Device
open Endap.Library
open Endap.Onboarding

/-! ## The state -/

/-- `wifi_manager_state_t`. -/
inductive WifiState where
  | idle
  | staConnecting
  | staRetrying
  | staConnected
  | apFallback
  | error
deriving DecidableEq

inductive WifiTargetMode where
  | none
  | sta
  | apFallback
  | apstaTransition
deriving DecidableEq

def wifiStaMaxRetries : UInt8 := 5

def wifiSsidMaxLen : Nat := 32

def wifiPassMaxLen : Nat := 64

/-- `wifi_manager_status_t`; the name is the text up to its terminator. -/
structure WifiStatus where
  initialized : Bool := false
  credentialsSaved : Bool := false
  staRequested : Bool := false
  staConnected : Bool := false
  apFallbackActive : Bool := false
  retryCount : UInt8 := 0
  retryLimit : UInt8 := wifiStaMaxRetries
  lastDisconnectReason : UInt8 := 0
  state : WifiState := .idle
  ssid : List UInt8 := []

/-- `wifi_status_mark_initialized`. -/
def WifiStatus.markInitialized (status : WifiStatus) : WifiStatus :=
  { status with initialized := true, retryLimit := wifiStaMaxRetries }

/-- `wifi_status_mark_sta_connecting`. -/
def WifiStatus.markStaConnecting (_status : WifiStatus)
    (ssid : List UInt8) (credentialsSaved : Bool) : WifiStatus where
  initialized := true
  credentialsSaved := credentialsSaved
  staRequested := true
  staConnected := false
  apFallbackActive := false
  retryCount := 0
  lastDisconnectReason := 0
  state := .staConnecting
  retryLimit := wifiStaMaxRetries
  ssid := ssid.take wifiSsidMaxLen

/-- `wifi_status_mark_sta_retry`. -/
def WifiStatus.markStaRetry (status : WifiStatus)
    (retryCount reason : UInt8) : WifiStatus :=
  { status with
    initialized := true
    staRequested := true
    staConnected := false
    apFallbackActive := false
    retryCount := retryCount
    lastDisconnectReason := reason
    state := .staRetrying
    retryLimit := wifiStaMaxRetries }

/-- `wifi_status_mark_sta_connected`. -/
def WifiStatus.markStaConnected (status : WifiStatus) : WifiStatus :=
  { status with
    initialized := true
    staRequested := true
    staConnected := true
    apFallbackActive := false
    retryCount := 0
    lastDisconnectReason := 0
    state := .staConnected
    retryLimit := wifiStaMaxRetries }

/-- `wifi_status_mark_ap_fallback`. -/
def WifiStatus.markApFallback (_status : WifiStatus)
    (credentialsSaved : Bool) (ssid : List UInt8) (reason : UInt8) :
    WifiStatus where
  initialized := true
  credentialsSaved := credentialsSaved
  staRequested := false
  staConnected := false
  apFallbackActive := true
  retryCount := 0
  lastDisconnectReason := reason
  state := .apFallback
  retryLimit := wifiStaMaxRetries
  ssid := ssid.take wifiSsidMaxLen

/-- `wifi_status_mark_error`. -/
def WifiStatus.markError (status : WifiStatus)
    (ssid : List UInt8) (credentialsSaved : Bool) : WifiStatus :=
  { status with
    initialized := true
    credentialsSaved := credentialsSaved
    staRequested := false
    staConnected := false
    apFallbackActive := false
    state := .error
    retryLimit := wifiStaMaxRetries
    ssid := ssid.take wifiSsidMaxLen }

/-- The static variables of `wifi_manager.c`, with the flag of `captive_dns.c`,
whether the grace timer is armed, and the strings in the storage. -/
structure WifiManager (Callback : Type*) where
  wifiInitialized : Bool
  wifiDriverStarted : Bool
  wifiStatus : WifiStatus
  wifiClusterSelfNodeId : UInt32
  wifiApClientCount : UInt8
  wifiTargetMode : WifiTargetMode
  graceTimerArmed : Bool
  dnsStarted : Bool
  nvsSsid : Option (List UInt8)
  nvsPass : Option (List UInt8)
  network : NetworkReady Callback

/-! ## What the platform answers -/

/-- `wifi_mode_t`, the values that the manager sets. -/
inductive WifiDriverMode where
  | sta
  | apsta
deriving DecidableEq

/-- What the manager tells the driver. -/
inductive WifiCommand where
  | connect
  | disconnect
  | stop
  | setMode (mode : WifiDriverMode)
  | setConfig
  | start
deriving DecidableEq

/-- The answers while the driver is brought up once. -/
structure StartOutcome where
  setMode : Int := espOk
  setConfig : Int := espOk
  start : Int := espOk
  dnsTask : Bool := true

/-- The answers while the credentials are read or written. -/
structure NvsOutcome where
  opensToRead : Bool := true
  opensToWrite : Int := espOk
  setSsid : Int := espOk
  setPass : Int := espOk
  commit : Int := espOk

/-- The fields of `device_network_profile_t` that the manager reads. -/
structure WifiSettings where
  onboardingPending : Bool
  wifiMode : WifiMode
  allowLocalAp : Bool

/-- What one call reads and is answered: `device_profile_network`, the node
identity, the storage, and the driver in the two ways of starting it. -/
structure WifiPlatform where
  settings : Option WifiSettings := none
  nodeId : UInt32 := 0
  nvs : NvsOutcome := {}
  sta : StartOutcome := {}
  ap : StartOutcome := {}

/-- What a step returns and tells the driver. -/
structure WifiOutput where
  result : Int := espOk
  commands : List WifiCommand := []

section

variable {Callback : Type*}

/-! ## Starting the access point -/

def defaultApSsidFallback : List UInt8 :=
  [69, 78, 68, 65, 80, 95, 83, 69, 84, 85, 80]

/-- A hexadecimal digit as `%08X` prints it. -/
def upperHexDigit (value : UInt8) : UInt8 :=
  if value < 10 then 48 + value else 55 + value

/-- `wifi_manager_build_cluster_ap_ssid`, into a buffer of 33 bytes. -/
def buildClusterApSsid (selfNodeId : UInt32) : List UInt8 :=
  if selfNodeId = 0 then defaultApSsidFallback
  else
    defaultApSsidFallback ++
      45 ::
        ([28, 24, 20, 16, 12, 8, 4, 0] : List UInt32).map fun shift =>
          upperHexDigit ((selfNodeId >>> shift) &&& 15).toUInt8

def WifiManager.captiveDnsStart (wifi : WifiManager Callback)
    (dnsTask : Bool) : WifiManager Callback :=
  if wifi.dnsStarted then wifi else { wifi with dnsStarted := dnsTask }

def WifiManager.captiveDnsStop (wifi : WifiManager Callback) :
    WifiManager Callback :=
  { wifi with dnsStarted := false }

/-- The driver is disconnected, and stopped if it runs. -/
def WifiManager.quiesce (wifi : WifiManager Callback) : List WifiCommand :=
  .disconnect :: if wifi.wifiDriverStarted then [.stop] else []

/-- The end of `wifi_manager_start_ap_fallback` after an error. -/
def WifiManager.apFallbackFailed (wifi : WifiManager Callback)
    (credentialsSaved : Bool) (apSsid ssid : List UInt8) :
    WifiManager Callback :=
  { wifi with
    wifiStatus :=
      wifi.wifiStatus.markError (if apSsid = [] then ssid else apSsid)
        credentialsSaved }

/-- `wifi_manager_start_ap_fallback`. -/
def WifiManager.startApFallback (wifi : WifiManager Callback)
    (credentialsSaved : Bool) (ssid : List UInt8) (reason : UInt8)
    (outcome : StartOutcome) : WifiManager Callback × WifiOutput :=
  let apSsid := buildClusterApSsid wifi.wifiClusterSelfNodeId
  let announced :=
    { wifi with
      wifiTargetMode := .apFallback
      wifiStatus :=
        wifi.wifiStatus.markApFallback credentialsSaved apSsid reason
      network := wifi.network.publishDown .wifiSta }
  let failed := announced.apFallbackFailed credentialsSaved apSsid ssid
  if outcome.setMode ≠ espOk then
    (failed,
      { result := outcome.setMode
        commands := announced.quiesce ++ [.setMode .apsta] })
  else if outcome.setConfig ≠ espOk then
    (failed,
      { result := outcome.setConfig
        commands := announced.quiesce ++ [.setMode .apsta, .setConfig] })
  else if outcome.start ≠ espOk then
    (failed,
      { result := outcome.start
        commands :=
          announced.quiesce ++ [.setMode .apsta, .setConfig, .start] })
  else
    ({ announced with wifiDriverStarted := true }.captiveDnsStart
        outcome.dnsTask,
      { commands :=
          announced.quiesce ++ [.setMode .apsta, .setConfig, .start] })

/-! ## Starting the station -/

/-- The lengths that `wifi_build_sta_config` accepts. -/
def wifiBuildStaConfig (ssid pass : List UInt8) : Bool :=
  0 < ssid.length && ssid.length ≤ wifiSsidMaxLen &&
    pass.length ≤ wifiPassMaxLen

/-- The end of `wifi_manager_start_sta_with_config` after an error. -/
def WifiManager.staFailed (wifi : WifiManager Callback)
    (ssid : List UInt8) (credentialsSaved : Bool)
    (commands : List WifiCommand) (ap : StartOutcome) :
    WifiManager Callback × WifiOutput :=
  let errored :=
    { wifi with wifiStatus := wifi.wifiStatus.markError ssid credentialsSaved }
  let started := errored.startApFallback credentialsSaved ssid 0 ap
  (started.1,
    { result := started.2.result
      commands := commands ++ started.2.commands })

/-- The beginning of `wifi_manager_start_sta_with_config`. -/
def WifiManager.connecting (wifi : WifiManager Callback)
    (ssid : List UInt8) (credentialsSaved keepApActive : Bool) :
    WifiManager Callback :=
  { wifi.captiveDnsStop with
    wifiTargetMode := if keepApActive then .apstaTransition else .sta
    wifiStatus := wifi.wifiStatus.markStaConnecting ssid credentialsSaved
    network := (wifi.network.publishDown .wifiAp).publishDown .wifiSta }

/-- `wifi_manager_start_sta_with_config`. -/
def WifiManager.startStaWithConfig (wifi : WifiManager Callback)
    (ssid : List UInt8) (credentialsSaved keepApActive : Bool)
    (platform : WifiPlatform) : WifiManager Callback × WifiOutput :=
  let connecting := wifi.connecting ssid credentialsSaved keepApActive
  let failed := fun commands =>
    connecting.staFailed ssid credentialsSaved commands platform.ap
  if keepApActive then
    if platform.sta.setMode ≠ espOk then failed [.setMode .apsta]
    else if platform.sta.setConfig ≠ espOk then
      failed [.setMode .apsta, .setConfig]
    else if connecting.wifiDriverStarted then
      (connecting, { commands := [.setMode .apsta, .setConfig, .connect] })
    else if platform.sta.start ≠ espOk then
      failed [.setMode .apsta, .setConfig, .start]
    else
      ({ connecting with wifiDriverStarted := true },
        { commands := [.setMode .apsta, .setConfig, .start] })
  else if platform.sta.setMode ≠ espOk then
    failed (connecting.quiesce ++ [.setMode .sta])
  else if platform.sta.setConfig ≠ espOk then
    failed (connecting.quiesce ++ [.setMode .sta, .setConfig])
  else if platform.sta.start ≠ espOk then
    failed (connecting.quiesce ++ [.setMode .sta, .setConfig, .start])
  else
    ({ connecting with wifiDriverStarted := true },
      { commands :=
          connecting.quiesce ++ [.setMode .sta, .setConfig, .start] })

/-! ## The storage -/

/-- `load_wifi_credentials`, into buffers of 33 and 65 bytes: a string that
does not fit is not read. -/
def WifiManager.loadWifiCredentials (wifi : WifiManager Callback)
    (nvs : NvsOutcome) : Option (List UInt8 × List UInt8) :=
  if nvs.opensToRead then
    match wifi.nvsSsid, wifi.nvsPass with
    | some ssid, some pass =>
        if ssid.length ≤ wifiSsidMaxLen ∧ pass.length ≤ wifiPassMaxLen ∧
            ssid ≠ [] then
          some (ssid, pass)
        else none
    | _, _ => none
  else none

def WifiManager.saveWifiCredentials (wifi : WifiManager Callback)
    (ssid pass : List UInt8) (nvs : NvsOutcome) :
    WifiManager Callback × Int :=
  if nvs.opensToWrite ≠ espOk then (wifi, nvs.opensToWrite)
  else if nvs.setSsid ≠ espOk then (wifi, nvs.setSsid)
  else if nvs.setPass ≠ espOk then
    ({ wifi with nvsSsid := some ssid }, nvs.setPass)
  else
    ({ wifi with nvsSsid := some ssid, nvsPass := some pass }, nvs.commit)

/-! ## Calls -/

/-- `wifi_manager_shutdown_ap_transition`. -/
def WifiManager.shutdownApTransition (wifi : WifiManager Callback) :
    WifiManager Callback × WifiOutput :=
  if wifi.wifiTargetMode ≠ .apstaTransition then (wifi, {})
  else
    ({ wifi with wifiTargetMode := .sta }.captiveDnsStop,
      { commands := [.setMode .sta] })

/-- `wifi_manager_confirm_onboarding`. -/
def WifiManager.confirmOnboarding (wifi : WifiManager Callback) :
    WifiManager Callback × WifiOutput :=
  if wifi.wifiTargetMode = .apstaTransition then
    { wifi with graceTimerArmed := false }.shutdownApTransition
  else (wifi, {})

/-- `wifi_manager_save`, with a name and a password that are there. -/
def WifiManager.save (wifi : WifiManager Callback)
    (ssid pass : List UInt8) (platform : WifiPlatform) :
    WifiManager Callback × WifiOutput :=
  if wifiBuildStaConfig ssid pass then
    let saved := wifi.saveWifiCredentials ssid pass platform.nvs
    if saved.2 ≠ espOk then (saved.1, { result := saved.2 })
    else saved.1.startStaWithConfig ssid true true platform
  else (wifi, { result := espErrInvalidArg })

/-- The end of `wifi_manager_init` for ESP-NOW and mesh, where the driver
starts. -/
def WifiManager.initRadio (wifi : WifiManager Callback)
    (allowLocalAp : Bool) (platform : WifiPlatform) :
    WifiManager Callback × WifiOutput :=
  let started :=
    if allowLocalAp then wifi.captiveDnsStart platform.sta.dnsTask else wifi
  ({ started with
      wifiDriverStarted := true
      network := started.network.publishUp .wifiSta 0 0 },
    { commands :=
        if allowLocalAp then [.setMode .apsta, .setConfig, .start]
        else [.setMode .sta, .start] })

/-- The end of `wifi_manager_init` for Wi-Fi proper, where the driver
starts. -/
def WifiManager.initInfra (wifi : WifiManager Callback)
    (platform : WifiPlatform) : WifiManager Callback × WifiOutput :=
  let running := { wifi with wifiDriverStarted := true }
  let started :=
    match running.loadWifiCredentials platform.nvs with
    | some (ssid, pass) =>
        if wifiBuildStaConfig ssid pass then
          running.startStaWithConfig ssid true false platform
        else running.startApFallback false [] 0 platform.ap
    | none => running.startApFallback false [] 0 platform.ap
  (started.1,
    { result := started.2.result
      commands := .start :: started.2.commands })

/-- `wifi_manager_init`. -/
def WifiManager.init (wifi : WifiManager Callback)
    (platform : WifiPlatform) : WifiManager Callback × WifiOutput :=
  if wifi.wifiInitialized then (wifi, {})
  else
    let initialized :=
      { wifi with
        wifiInitialized := true
        wifiStatus := wifi.wifiStatus.markInitialized
        wifiClusterSelfNodeId := platform.nodeId
        wifiApClientCount := 0 }
    match platform.settings with
    | some settings =>
        if !settings.onboardingPending &&
            (settings.wifiMode = .now || settings.wifiMode = .mesh) then
          initialized.initRadio settings.allowLocalAp platform
        else initialized.initInfra platform
    | none => initialized.initInfra platform

/-- `wifi_manager_try_reconnect`; `boot` answers `wifi_manager_init`. -/
def WifiManager.tryReconnect (wifi : WifiManager Callback)
    (boot platform : WifiPlatform) : WifiManager Callback × WifiOutput :=
  let initialized := wifi.init boot
  let answered :=
    match initialized.1.loadWifiCredentials platform.nvs with
    | some (ssid, pass) =>
        if wifiBuildStaConfig ssid pass then
          initialized.1.startStaWithConfig ssid true false platform
        else (initialized.1, { result := espErrInvalidArg })
    | none => initialized.1.startApFallback false [] 0 platform.ap
  (answered.1,
    { result := answered.2.result
      commands := initialized.2.commands ++ answered.2.commands })

/-- `wifi_manager_force_recovery_ap`; `boot` answers `wifi_manager_init`. -/
def WifiManager.forceRecoveryAp (wifi : WifiManager Callback)
    (boot platform : WifiPlatform) : WifiManager Callback × WifiOutput :=
  let initialized := wifi.init boot
  let status := initialized.1.wifiStatus
  let answered :=
    initialized.1.startApFallback status.credentialsSaved status.ssid 0
      platform.ap
  (answered.1,
    { result := answered.2.result
      commands := initialized.2.commands ++ answered.2.commands })

/-! ## Events -/

/-- The station is wanted. -/
def WifiTargetMode.wantsSta : WifiTargetMode → Bool
  | .sta | .apstaTransition => true
  | .none | .apFallback => false

/-- `WIFI_EVENT_STA_DISCONNECTED` in `wifi_event_handler`. -/
def WifiManager.staDisconnected (wifi : WifiManager Callback)
    (reason : UInt8) (ap : StartOutcome) :
    WifiManager Callback × WifiOutput :=
  let down := { wifi with network := wifi.network.publishDown .wifiSta }
  if !wifi.wifiTargetMode.wantsSta then (down, {})
  else if wifi.wifiStatus.retryCount < wifiStaMaxRetries then
    ({ down with
        wifiStatus :=
          wifi.wifiStatus.markStaRetry (wifi.wifiStatus.retryCount + 1)
            reason },
      { commands := [.connect] })
  else
    let started :=
      down.startApFallback wifi.wifiStatus.credentialsSaved
        wifi.wifiStatus.ssid reason ap
    (started.1, { commands := started.2.commands })

/-- `IP_EVENT_STA_GOT_IP` in `wifi_event_handler`. -/
def WifiManager.staGotIp (wifi : WifiManager Callback)
    (ip netmask : UInt32) : WifiManager Callback × WifiOutput :=
  ({ wifi with
      wifiStatus := wifi.wifiStatus.markStaConnected
      network := wifi.network.publishUp .wifiSta ip netmask
      graceTimerArmed :=
        wifi.graceTimerArmed || wifi.wifiTargetMode = .apstaTransition },
    {})

/-- `IP_EVENT_STA_LOST_IP` in `wifi_event_handler`. -/
def WifiManager.staLostIp (wifi : WifiManager Callback) :
    WifiManager Callback × WifiOutput :=
  ({ wifi with
      network := wifi.network.publishDown .wifiSta
      graceTimerArmed :=
        wifi.graceTimerArmed && wifi.wifiTargetMode ≠ .apstaTransition },
    {})

/-- The address `192.168.4.1` of the access point, in memory order. -/
def defaultApIpAddr : UInt32 := 0x0104A8C0

/-- The netmask `255.255.255.0` of the access point, in memory order. -/
def defaultApNetmaskAddr : UInt32 := 0x00FFFFFF

/-- What happens to the manager. -/
inductive WifiAction where
  | init (platform : WifiPlatform)
  | save (ssid pass : List UInt8) (platform : WifiPlatform)
  | tryReconnect (boot platform : WifiPlatform)
  | forceRecoveryAp (boot platform : WifiPlatform)
  | confirmOnboarding
  | graceTimer
  | captiveDnsFails
  | staStart
  | staConnected
  | staDisconnected (reason : UInt8) (ap : StartOutcome)
  | apStart
  | apStaConnected
  | apStaDisconnected
  | apStop
  | staGotIp (ip netmask : UInt32)
  | staLostIp

/-- One call, one event, or the grace timer: it only fires when it is armed. -/
def WifiManager.step (wifi : WifiManager Callback) :
    WifiAction → WifiManager Callback × WifiOutput
  | .init platform => wifi.init platform
  | .save ssid pass platform => wifi.save ssid pass platform
  | .tryReconnect boot platform => wifi.tryReconnect boot platform
  | .forceRecoveryAp boot platform => wifi.forceRecoveryAp boot platform
  | .confirmOnboarding => wifi.confirmOnboarding
  | .graceTimer =>
      if wifi.graceTimerArmed then
        { wifi with graceTimerArmed := false }.shutdownApTransition
      else (wifi, {})
  | .captiveDnsFails => ({ wifi with dnsStarted := false }, {})
  | .staStart =>
      (wifi,
        { commands :=
            if wifi.wifiTargetMode.wantsSta then [.connect] else [] })
  | .staConnected => (wifi, {})
  | .staDisconnected reason ap => wifi.staDisconnected reason ap
  | .apStart =>
      ({ wifi with
          network :=
            wifi.network.publishUp .wifiAp defaultApIpAddr
              defaultApNetmaskAddr },
        {})
  | .apStaConnected =>
      ({ wifi with wifiApClientCount := wifi.wifiApClientCount + 1 }, {})
  | .apStaDisconnected =>
      ({ wifi with
          wifiApClientCount :=
            if 0 < wifi.wifiApClientCount then wifi.wifiApClientCount - 1
            else 0 },
        {})
  | .apStop =>
      ({ wifi with
          wifiApClientCount := 0
          network := wifi.network.publishDown .wifiAp },
        {})
  | .staGotIp ip netmask => wifi.staGotIp ip netmask
  | .staLostIp => wifi.staLostIp

/-- The variables before `wifi_manager_init`, with what the storage holds and
the links as they are. -/
def wifiBoot (nvsSsid nvsPass : Option (List UInt8)) : WifiManager Callback where
  wifiInitialized := false
  wifiDriverStarted := false
  wifiStatus := {}
  wifiClusterSelfNodeId := 0
  wifiApClientCount := 0
  wifiTargetMode := .none
  graceTimerArmed := false
  dnsStarted := false
  nvsSsid := nvsSsid
  nvsPass := nvsPass
  network := NetworkReady.init

/-! ## What holds of the variables -/

/-- The flags and the counter of the status are those of its state. -/
structure WifiStatus.Coherent (status : WifiStatus) : Prop where
  requested :
    status.staRequested = true ↔
    status.state = .staConnecting ∨ status.state = .staRetrying ∨
    status.state = .staConnected
  connected : status.staConnected = true ↔ status.state = .staConnected
  fallback : status.apFallbackActive = true ↔ status.state = .apFallback
  retrying : status.retryCount ≠ 0 ↔ status.state = .staRetrying
  retries : status.retryCount ≤ status.retryLimit
  limit : status.retryLimit = wifiStaMaxRetries
  named : status.ssid.length ≤ wifiSsidMaxLen

/-- The states in which the manager is with each of its aims.  An address that
arrives late leaves it connected whatever its aim is. -/
def WifiTargetMode.Allows : WifiTargetMode → WifiState → Prop
  | .none, state => state = .idle ∨ state = .staConnected
  | .sta, state =>
      state = .staConnecting ∨ state = .staRetrying ∨ state = .staConnected
  | .apstaTransition, state =>
      state = .staConnecting ∨ state = .staRetrying ∨ state = .staConnected
  | .apFallback, state =>
      state = .apFallback ∨ state = .error ∨ state = .staConnected

/-- What holds of the manager between two steps. -/
structure WifiManager.Sound (wifi : WifiManager Callback) : Prop where
  initialized : wifi.wifiInitialized = true
  status : wifi.wifiStatus.Coherent
  allowed : wifi.wifiTargetMode.Allows wifi.wifiStatus.state
  dns : wifi.dnsStarted = true → wifi.wifiTargetMode.wantsSta = false
  link :
    (wifi.network.linkState .wifiSta).up = true →
    wifi.wifiStatus.state = .staConnected ∨ wifi.wifiTargetMode = .none

theorem take_ssid_length (ssid : List UInt8) :
    (ssid.take wifiSsidMaxLen).length ≤ wifiSsidMaxLen :=
  List.length_take_le ..

theorem markStaConnecting_coherent (status : WifiStatus)
    (ssid : List UInt8) (credentialsSaved : Bool) :
    (status.markStaConnecting ssid credentialsSaved).Coherent := by
  constructor
  case named => exact take_ssid_length ssid
  all_goals simp [WifiStatus.markStaConnecting, wifiStaMaxRetries]

theorem markApFallback_coherent (status : WifiStatus)
    (credentialsSaved : Bool) (ssid : List UInt8) (reason : UInt8) :
    (status.markApFallback credentialsSaved ssid reason).Coherent := by
  constructor
  case named => exact take_ssid_length ssid
  all_goals simp [WifiStatus.markApFallback, wifiStaMaxRetries]

variable {status : WifiStatus}

theorem markError_coherent
    (none : status.retryCount = 0) (ssid : List UInt8)
    (credentialsSaved : Bool) :
    (status.markError ssid credentialsSaved).Coherent := by
  constructor
  case named => exact take_ssid_length ssid
  all_goals simp [WifiStatus.markError, wifiStaMaxRetries, none]

theorem markStaConnected_coherent
    (coherent : status.Coherent) : status.markStaConnected.Coherent := by
  constructor
  case named => exact coherent.named
  all_goals simp [WifiStatus.markStaConnected, wifiStaMaxRetries]

theorem markInitialized_coherent
    (coherent : status.Coherent) : status.markInitialized.Coherent := by
  constructor
  case requested => exact coherent.requested
  case connected => exact coherent.connected
  case fallback => exact coherent.fallback
  case retrying => exact coherent.retrying
  case retries => exact coherent.retries.trans_eq coherent.limit
  case limit => rfl
  case named => exact coherent.named

theorem add_one_toNat {count : UInt8} (below : count < wifiStaMaxRetries) :
    (count + 1).toNat = count.toNat + 1 := by
  have small : count.toNat < 5 := below
  rw [UInt8.toNat_add]
  exact Nat.mod_eq_of_lt (by simp; omega)

theorem markStaRetry_coherent
    (coherent : status.Coherent)
    (below : status.retryCount < wifiStaMaxRetries) (reason : UInt8) :
    (status.markStaRetry (status.retryCount + 1) reason).Coherent := by
  have next := add_one_toNat below
  have small : status.retryCount.toNat < 5 := below
  constructor
  case named => exact coherent.named
  case retries =>
    change (status.retryCount + 1).toNat ≤ 5
    omega
  case retrying =>
    constructor
    · intro _
      rfl
    · intro _ isZero
      have zero := congrArg UInt8.toNat isZero
      change (status.retryCount + 1).toNat = 0 at zero
      omega
  all_goals simp [WifiStatus.markStaRetry, wifiStaMaxRetries]

/-! ### Starting -/

theorem publishDown_up (network : NetworkReady Callback) (link : ReadyLink)
    (isLink : link ≠ .none) :
    ((network.publishDown link).linkState link).up = false := by
  rw [NetworkReady.publishDown, if_neg isLink]
  simp [NetworkReady.setLink]

theorem captiveDnsStart_eq (wifi : WifiManager Callback) (dnsTask : Bool) :
    wifi.captiveDnsStart dnsTask =
      { wifi with dnsStarted := wifi.dnsStarted || dnsTask } := by
  unfold WifiManager.captiveDnsStart
  split
  · next running =>
      cases wifi
      simp_all
  · next idle =>
      cases wifi
      simp_all

/-- What a start of the access point leaves, however it ends. -/
structure FellBack (wifi : WifiManager Callback)
    (after : WifiManager Callback) : Prop where
  target : after.wifiTargetMode = .apFallback
  status : after.wifiStatus.Coherent
  state : after.wifiStatus.state = .apFallback ∨ after.wifiStatus.state = .error
  link : (after.network.linkState .wifiSta).up = false
  initialized : after.wifiInitialized = wifi.wifiInitialized

theorem startApFallback_fellBack (wifi : WifiManager Callback)
    (credentialsSaved : Bool) (ssid : List UInt8) (reason : UInt8)
    (outcome : StartOutcome) :
    FellBack wifi
      (wifi.startApFallback credentialsSaved ssid reason outcome).1 := by
  have down := publishDown_up wifi.network .wifiSta (by decide)
  simp only [WifiManager.startApFallback, captiveDnsStart_eq]
  split_ifs
  case neg =>
    exact
      ⟨rfl, markApFallback_coherent wifi.wifiStatus _ _ _, .inl rfl, down, rfl⟩
  all_goals exact ⟨rfl, markError_coherent rfl _ _, .inr rfl, down, rfl⟩

theorem FellBack.sound {wifi after : WifiManager Callback}
    (fellBack : FellBack wifi after)
    (initialized : wifi.wifiInitialized = true) : after.Sound where
  initialized := fellBack.initialized.trans initialized
  status := fellBack.status
  allowed := by
    rw [fellBack.target]
    exact fellBack.state.elim .inl (.inr ∘ .inl)
  dns := fun _ => by rw [fellBack.target]; rfl
  link := fun up => by rw [fellBack.link] at up; cases up

/-- What a start of the station leaves when the driver takes it. -/
structure Joining (wifi : WifiManager Callback)
    (after : WifiManager Callback) : Prop where
  target : after.wifiTargetMode.wantsSta = true
  status : after.wifiStatus.Coherent
  state : after.wifiStatus.state = .staConnecting
  dns : after.dnsStarted = false
  link : (after.network.linkState .wifiSta).up = false
  initialized : after.wifiInitialized = wifi.wifiInitialized

theorem Joining.sound {wifi after : WifiManager Callback}
    (joining : Joining wifi after)
    (initialized : wifi.wifiInitialized = true) : after.Sound where
  initialized := joining.initialized.trans initialized
  status := joining.status
  allowed := by
    have wants := joining.target
    cases target : after.wifiTargetMode with
    | sta => exact .inl joining.state
    | apstaTransition => exact .inl joining.state
    | _ => rw [target] at wants; cases wants
  dns := fun running => by rw [joining.dns] at running; cases running
  link := fun up => by rw [joining.link] at up; cases up

theorem staFailed_fellBack (wifi : WifiManager Callback)
    (ssid : List UInt8) (credentialsSaved : Bool)
    (commands : List WifiCommand) (ap : StartOutcome) :
    FellBack wifi
      (wifi.staFailed ssid credentialsSaved commands ap).1 := by
  have fellBack :=
    startApFallback_fellBack
      { wifi with
        wifiStatus := wifi.wifiStatus.markError ssid credentialsSaved }
      credentialsSaved ssid 0 ap
  exact
    ⟨fellBack.target, fellBack.status, fellBack.state, fellBack.link,
      fellBack.initialized⟩

theorem connecting_joining (wifi : WifiManager Callback)
    (ssid : List UInt8) (credentialsSaved keepApActive driverStarted : Bool) :
    Joining wifi
      { wifi.connecting ssid credentialsSaved keepApActive with
        wifiDriverStarted := driverStarted } where
  target := by cases keepApActive <;> rfl
  status := markStaConnecting_coherent wifi.wifiStatus ssid credentialsSaved
  state := rfl
  dns := rfl
  link := publishDown_up _ .wifiSta (by decide)
  initialized := rfl

theorem startStaWithConfig_cases (wifi : WifiManager Callback)
    (ssid : List UInt8) (credentialsSaved keepApActive : Bool)
    (platform : WifiPlatform) :
    Joining wifi
        (wifi.startStaWithConfig ssid credentialsSaved keepApActive
          platform).1 ∨
    FellBack wifi
      (wifi.startStaWithConfig ssid credentialsSaved keepApActive
        platform).1 := by
  have joining := connecting_joining wifi ssid credentialsSaved keepApActive
  have failed : ∀ commands,
      FellBack wifi
        ((wifi.connecting ssid credentialsSaved keepApActive).staFailed ssid
          credentialsSaved commands platform.ap).1 := by
    intro commands
    have fellBack :=
      staFailed_fellBack
        (wifi.connecting ssid credentialsSaved keepApActive) ssid
        credentialsSaved commands platform.ap
    exact
      ⟨fellBack.target, fellBack.status, fellBack.state, fellBack.link,
        fellBack.initialized⟩
  simp only [WifiManager.startStaWithConfig]
  split_ifs
  all_goals
    first
      | exact .inl (joining _)
      | exact .inr (failed _)

/-! ### Calls and events -/

theorem Joining.of_same {wifi same after : WifiManager Callback}
    (joining : Joining same after)
    (initialized : same.wifiInitialized = wifi.wifiInitialized) :
    Joining wifi after :=
  { joining with
    initialized := joining.initialized.trans initialized }

theorem FellBack.of_same {wifi same after : WifiManager Callback}
    (fellBack : FellBack same after)
    (initialized : same.wifiInitialized = wifi.wifiInitialized) :
    FellBack wifi after :=
  { fellBack with
    initialized := fellBack.initialized.trans initialized }

/-- Starting Wi-Fi proper joins the saved network or opens the access
point. -/
theorem initInfra_cases (wifi : WifiManager Callback)
    (platform : WifiPlatform) :
    Joining wifi (wifi.initInfra platform).1 ∨
    FellBack wifi (wifi.initInfra platform).1 := by
  simp only [WifiManager.initInfra]
  split
  · split_ifs
    · exact
        (startStaWithConfig_cases _ _ _ _ _).imp (·.of_same rfl) (·.of_same rfl)
    · exact .inr ((startApFallback_fellBack _ _ _ _ _).of_same rfl)
  · exact .inr ((startApFallback_fellBack _ _ _ _ _).of_same rfl)

theorem initAgain_of_initialized {wifi : WifiManager Callback}
    (initialized : wifi.wifiInitialized = true) (platform : WifiPlatform) :
    wifi.init platform = (wifi, {}) := by
  rw [WifiManager.init, if_pos initialized]

/-- After `wifi_manager_init` at boot the variables are as they should be. -/
theorem boot_sound (nvsSsid nvsPass : Option (List UInt8))
    (platform : WifiPlatform) :
    ((wifiBoot nvsSsid nvsPass : WifiManager Callback).init
      platform).1.Sound := by
  have infra := fun wifi : WifiManager Callback =>
    fun initialized : wifi.wifiInitialized = true =>
      (initInfra_cases wifi platform).elim
        (fun joining => joining.sound initialized)
        (fun fellBack => fellBack.sound initialized)
  have coherent : ({} : WifiStatus).markInitialized.Coherent :=
    markInitialized_coherent
      { requested := by decide
        connected := by decide
        fallback := by decide
        retrying := by decide
        retries := by decide
        limit := rfl
        named := by decide }
  rw [WifiManager.init, if_neg (by simp [wifiBoot])]
  split
  · split_ifs
    · simp only [WifiManager.initRadio, captiveDnsStart_eq]
      split_ifs
      · exact ⟨rfl, coherent, .inl rfl, fun _ => rfl, fun _ => .inr rfl⟩
      · exact ⟨rfl, coherent, .inl rfl, fun _ => rfl, fun _ => .inr rfl⟩
    · exact infra _ rfl
  · exact infra _ rfl

theorem shutdownApTransition_sound {wifi : WifiManager Callback}
    (sound : wifi.Sound) : wifi.shutdownApTransition.1.Sound := by
  unfold WifiManager.shutdownApTransition
  split_ifs with other
  · exact sound
  · have target : wifi.wifiTargetMode = .apstaTransition := not_not.mp other
    have allowed := sound.allowed
    rw [target] at allowed
    refine ⟨sound.initialized, sound.status, allowed, ?_, fun up => ?_⟩
    · intro running
      cases running
    · refine (sound.link up).imp_right fun none => ?_
      rw [target] at none
      cases none

theorem WifiManager.Sound.of_graceTimer {wifi : WifiManager Callback}
    (sound : wifi.Sound) (armed : Bool) :
    { wifi with graceTimerArmed := armed }.Sound :=
  ⟨sound.initialized, sound.status, sound.allowed, sound.dns, sound.link⟩

theorem save_sound {wifi : WifiManager Callback} (sound : wifi.Sound)
    (ssid pass : List UInt8) (platform : WifiPlatform) :
    (wifi.save ssid pass platform).1.Sound := by
  have stored : (wifi.saveWifiCredentials ssid pass platform.nvs).1.Sound := by
    unfold WifiManager.saveWifiCredentials
    split_ifs
    all_goals
      exact
        ⟨sound.initialized, sound.status, sound.allowed, sound.dns, sound.link⟩
  simp only [WifiManager.save]
  split_ifs
  · exact stored
  · exact
      (startStaWithConfig_cases _ _ _ _ _).elim (·.sound stored.initialized)
        (·.sound stored.initialized)
  · exact sound

theorem tryReconnect_sound {wifi : WifiManager Callback}
    (sound : wifi.Sound) (boot platform : WifiPlatform) :
    (wifi.tryReconnect boot platform).1.Sound := by
  simp only [WifiManager.tryReconnect,
    initAgain_of_initialized sound.initialized]
  split
  · split_ifs
    · exact
        (startStaWithConfig_cases _ _ _ _ _).elim
          (·.sound sound.initialized) (·.sound sound.initialized)
    · exact sound
  · exact (startApFallback_fellBack _ _ _ _ _).sound sound.initialized

theorem forceRecoveryAp_sound {wifi : WifiManager Callback}
    (sound : wifi.Sound) (boot platform : WifiPlatform) :
    (wifi.forceRecoveryAp boot platform).1.Sound := by
  simp only [WifiManager.forceRecoveryAp,
    initAgain_of_initialized sound.initialized]
  exact (startApFallback_fellBack _ _ _ _ _).sound sound.initialized

theorem staDisconnected_sound {wifi : WifiManager Callback}
    (sound : wifi.Sound) (reason : UInt8) (ap : StartOutcome) :
    (wifi.staDisconnected reason ap).1.Sound := by
  have down := publishDown_up wifi.network .wifiSta (by decide)
  have silent :
      ((wifi.network.publishDown .wifiSta).linkState .wifiSta).up = true →
      False := by
    intro up
    rw [down] at up
    cases up
  simp only [WifiManager.staDisconnected]
  split_ifs with idle below
  · exact
      ⟨sound.initialized, sound.status, sound.allowed, sound.dns,
        fun up => (silent up).elim⟩
  · refine
      ⟨sound.initialized, markStaRetry_coherent sound.status below reason,
        ?_, sound.dns, fun up => (silent up).elim⟩
    cases target : wifi.wifiTargetMode with
    | sta => exact .inr (.inl rfl)
    | apstaTransition => exact .inr (.inl rfl)
    | _ => simp [target, WifiTargetMode.wantsSta] at idle
  · exact (startApFallback_fellBack _ _ _ _ _).sound sound.initialized

theorem staGotIp_sound {wifi : WifiManager Callback} (sound : wifi.Sound)
    (ip netmask : UInt32) : (wifi.staGotIp ip netmask).1.Sound := by
  refine
    ⟨sound.initialized, markStaConnected_coherent sound.status, ?_,
      sound.dns, fun _ => .inl rfl⟩
  change wifi.wifiTargetMode.Allows .staConnected
  cases wifi.wifiTargetMode with
  | none => exact .inr rfl
  | _ => exact .inr (.inr rfl)

theorem staLostIp_sound {wifi : WifiManager Callback} (sound : wifi.Sound) :
    wifi.staLostIp.1.Sound := by
  have down := publishDown_up wifi.network .wifiSta (by decide)
  refine
    ⟨sound.initialized, sound.status, sound.allowed, sound.dns, fun up => ?_⟩
  change ((wifi.network.publishDown .wifiSta).linkState .wifiSta).up = true
    at up
  rw [down] at up
  cases up

/-- What is done to the link of the access point leaves that of the station
alone. -/
theorem WifiManager.Sound.of_apLink {wifi : WifiManager Callback} (sound : wifi.Sound)
    (count : UInt8) {network : NetworkReady Callback}
    (same : network.linkState .wifiSta = wifi.network.linkState .wifiSta) :
    { wifi with wifiApClientCount := count, network := network }.Sound :=
  ⟨sound.initialized, sound.status, sound.allowed, sound.dns,
    fun up => sound.link (same ▸ up)⟩

theorem step_sound (wifi : WifiManager Callback) (action : WifiAction)
    (sound : wifi.Sound) : (wifi.step action).1.Sound := by
  cases action with
  | init platform =>
      simp only [WifiManager.step, initAgain_of_initialized sound.initialized]
      exact sound
  | save ssid pass platform => exact save_sound sound ssid pass platform
  | tryReconnect boot platform => exact tryReconnect_sound sound boot platform
  | forceRecoveryAp boot platform =>
      exact forceRecoveryAp_sound sound boot platform
  | confirmOnboarding =>
      simp only [WifiManager.step, WifiManager.confirmOnboarding]
      split_ifs
      · exact shutdownApTransition_sound (sound.of_graceTimer false)
      · exact sound
  | graceTimer =>
      simp only [WifiManager.step]
      split_ifs
      · exact shutdownApTransition_sound (sound.of_graceTimer false)
      · exact sound
  | captiveDnsFails =>
      refine ⟨sound.initialized, sound.status, sound.allowed, ?_, sound.link⟩
      intro running
      cases running
  | staStart => exact sound
  | staConnected => exact sound
  | staDisconnected reason ap => exact staDisconnected_sound sound reason ap
  | staGotIp ip netmask => exact staGotIp_sound sound ip netmask
  | staLostIp => exact staLostIp_sound sound
  | _ => exact sound.of_apLink _ rfl

/--
Whatever is called, whatever the driver reports and however it answers, after
`wifi_manager_init` the flags and the counter of the status agree with its
state, the state with the aim of the manager, the captive DNS server never
runs while the station is wanted, and the link of the station is only up
while the status says so or the radio is left to ESP-NOW or mesh.
-/
theorem run_sound (nvsSsid nvsPass : Option (List UInt8))
    (platform : WifiPlatform) (actions : List WifiAction) :
    (Run.final WifiManager.step
      ((wifiBoot nvsSsid nvsPass : WifiManager Callback).init platform).1
      actions).Sound :=
  Run.final_invariant WifiManager.Sound (boot_sound nvsSsid nvsPass platform)
    step_sound actions

/-! ## Losing the network again and again -/

/-- The station is lost. -/
def WifiAction.isDisconnect : WifiAction → Bool
  | .staDisconnected _ _ => true
  | _ => false

/-- The manager starts over: an address was obtained, or a call told the
driver something. -/
def restarts
    (made : Run.Transition (WifiManager Callback) WifiAction WifiOutput) :
    Bool :=
  match made.action with
  | .staGotIp _ _ => true
  | .save _ _ _ => !made.output.commands.isEmpty
  | .tryReconnect _ _ => !made.output.commands.isEmpty
  | .forceRecoveryAp _ _ => !made.output.commands.isEmpty
  | _ => false

/-- How often the station was lost since the manager last started over. -/
def disconnects
    (past :
      List (Run.Transition (WifiManager Callback) WifiAction WifiOutput)) :
    Nat :=
  past.foldl
    (fun count made =>
      if restarts made then 0
      else if made.action.isDisconnect then count + 1
      else count)
    0

theorem disconnects_snoc
    (past : List (Run.Transition (WifiManager Callback) WifiAction WifiOutput))
    (made : Run.Transition (WifiManager Callback) WifiAction WifiOutput) :
    disconnects (past ++ [made]) =
      if restarts made then 0
      else if made.action.isDisconnect then disconnects past + 1
      else disconnects past := by
  simp [disconnects]

theorem Joining.retryCount {wifi after : WifiManager Callback}
    (joining : Joining wifi after) : after.wifiStatus.retryCount = 0 := by
  by_contra some
  have retrying := joining.status.retrying.mp some
  rw [joining.state] at retrying
  cases retrying

theorem FellBack.unwanted {wifi after : WifiManager Callback}
    (fellBack : FellBack wifi after) :
    after.wifiTargetMode.wantsSta = false := by
  rw [fellBack.target]
  rfl

theorem startSta_retryCount {wifi : WifiManager Callback}
    {ssid : List UInt8} {credentialsSaved keepApActive : Bool}
    {platform : WifiPlatform}
    (wants :
      (wifi.startStaWithConfig ssid credentialsSaved keepApActive
        platform).1.wifiTargetMode.wantsSta = true) :
    (wifi.startStaWithConfig ssid credentialsSaved keepApActive
      platform).1.wifiStatus.retryCount.toNat = 0 := by
  rcases
    startStaWithConfig_cases wifi ssid credentialsSaved keepApActive
      platform with joining | fellBack
  · rw [joining.retryCount]
    rfl
  · rw [fellBack.unwanted] at wants
    cases wants

theorem startSta_commands (wifi : WifiManager Callback)
    (ssid : List UInt8) (credentialsSaved keepApActive : Bool)
    (platform : WifiPlatform) :
    (wifi.startStaWithConfig ssid credentialsSaved keepApActive
      platform).2.commands.isEmpty = false := by
  simp only [WifiManager.startStaWithConfig]
  split_ifs
  all_goals simp [WifiManager.staFailed, WifiManager.quiesce]

/-- What a step does to the counter, told by what it was and whether the
manager started over. -/
structure Counted (wifi : WifiManager Callback) (action : WifiAction) :
    Prop where
  count :
    (wifi.step action).1.wifiStatus.retryCount.toNat =
      if restarts (Run.call WifiManager.step wifi action) then 0
      else if action.isDisconnect then wifi.wifiStatus.retryCount.toNat + 1
      else wifi.wifiStatus.retryCount.toNat
  wanted :
    restarts (Run.call WifiManager.step wifi action) = false →
    wifi.wifiTargetMode.wantsSta = true

theorem Counted.of_same {wifi : WifiManager Callback} {action : WifiAction}
    (other : action.isDisconnect = false)
    (idle : restarts (Run.call WifiManager.step wifi action) = false)
    (status :
      (wifi.step action).1.wifiStatus.retryCount = wifi.wifiStatus.retryCount)
    (target : wifi.wifiTargetMode.wantsSta = true) :
    Counted wifi action where
  count := by rw [idle, other, status]; rfl
  wanted := fun _ => target

theorem shutdownApTransition_same (wifi : WifiManager Callback) :
    wifi.shutdownApTransition.1.wifiStatus = wifi.wifiStatus ∧
    wifi.shutdownApTransition.1.wifiTargetMode.wantsSta =
      wifi.wifiTargetMode.wantsSta := by
  unfold WifiManager.shutdownApTransition
  split_ifs with other
  · exact ⟨rfl, rfl⟩
  · rw [not_not.mp other]
    exact ⟨rfl, rfl⟩

theorem save_counted {wifi : WifiManager Callback}
    (ssid pass : List UInt8) (platform : WifiPlatform)
    (wants :
      (wifi.step (.save ssid pass platform)).1.wifiTargetMode.wantsSta = true) :
    Counted wifi (.save ssid pass platform) := by
  have stored :
      (wifi.saveWifiCredentials ssid pass platform.nvs).1.wifiStatus =
          wifi.wifiStatus ∧
      (wifi.saveWifiCredentials ssid pass
        platform.nvs).1.wifiTargetMode = wifi.wifiTargetMode := by
    unfold WifiManager.saveWifiCredentials
    split_ifs <;> exact ⟨rfl, rfl⟩
  by_cases valid : wifiBuildStaConfig ssid pass = true
  · by_cases failed :
        (wifi.saveWifiCredentials ssid pass platform.nvs).2 ≠ espOk
    · have answer :
          wifi.step (.save ssid pass platform) =
            ((wifi.saveWifiCredentials ssid pass platform.nvs).1,
              { result :=
                  (wifi.saveWifiCredentials ssid pass platform.nvs).2 }) := by
        simp only [WifiManager.step, WifiManager.save, if_pos valid,
          if_pos failed]
      refine Counted.of_same rfl ?_ ?_ ?_
      · simp only [restarts, Run.call, answer, List.isEmpty_nil, Bool.not_true]
      · rw [answer, stored.1]
      · rw [answer, stored.2] at wants
        exact wants
    · have answer :
          wifi.step (.save ssid pass platform) =
            (wifi.saveWifiCredentials ssid pass
              platform.nvs).1.startStaWithConfig ssid true true
                platform := by
        simp only [WifiManager.step, WifiManager.save, if_pos valid,
          if_neg failed]
      have ended :
          restarts (Run.call WifiManager.step wifi (.save ssid pass platform)) =
            true := by
        simp only [restarts, Run.call, answer, startSta_commands,
          Bool.not_false]
      refine ⟨?_, fun idle => ?_⟩
      · rw [ended, answer]
        rw [answer] at wants
        exact startSta_retryCount wants
      · rw [ended] at idle
        cases idle
  · have answer :
        wifi.step (.save ssid pass platform) =
          (wifi, { result := espErrInvalidArg }) := by
      simp only [WifiManager.step, WifiManager.save, if_neg valid]
    refine Counted.of_same rfl ?_ ?_ ?_
    · simp only [restarts, Run.call, answer, List.isEmpty_nil, Bool.not_true]
    · rw [answer]
    · rw [answer] at wants
      exact wants

theorem tryReconnect_counted {wifi : WifiManager Callback}
    (sound : wifi.Sound) (boot platform : WifiPlatform)
    (wants :
      (wifi.step
        (.tryReconnect boot platform)).1.wifiTargetMode.wantsSta = true) :
    Counted wifi (.tryReconnect boot platform) := by
  cases loaded : wifi.loadWifiCredentials platform.nvs with
  | none =>
      have answer :
          (wifi.step (.tryReconnect boot platform)).1 =
            (wifi.startApFallback false [] 0 platform.ap).1 := by
        simp only [WifiManager.step, WifiManager.tryReconnect,
          initAgain_of_initialized sound.initialized, loaded]
      rw [answer, (startApFallback_fellBack _ _ _ _ _).unwanted] at wants
      cases wants
  | some credentials =>
      rcases credentials with ⟨ssid, pass⟩
      by_cases valid : wifiBuildStaConfig ssid pass = true
      · have answer :
            wifi.step (.tryReconnect boot platform) =
              wifi.startStaWithConfig ssid true false platform := by
          simp only [WifiManager.step, WifiManager.tryReconnect,
            initAgain_of_initialized sound.initialized, loaded, if_pos valid,
            List.nil_append]
        have ended :
            restarts
                (Run.call WifiManager.step wifi (.tryReconnect boot platform)) =
              true := by
          simp only [restarts, Run.call, answer, startSta_commands,
            Bool.not_false]
        refine ⟨?_, fun idle => ?_⟩
        · rw [ended, answer]
          rw [answer] at wants
          exact startSta_retryCount wants
        · rw [ended] at idle
          cases idle
      · have answer :
            wifi.step (.tryReconnect boot platform) =
              (wifi, { result := espErrInvalidArg }) := by
          simp only [WifiManager.step, WifiManager.tryReconnect,
            initAgain_of_initialized sound.initialized, loaded, if_neg valid,
            List.append_nil]
        refine Counted.of_same rfl ?_ ?_ ?_
        · simp only [restarts, Run.call, answer, List.isEmpty_nil,
            Bool.not_true]
        · rw [answer]
        · rw [answer] at wants
          exact wants

theorem step_staDisconnected {wifi : WifiManager Callback}
    (wants : wifi.wifiTargetMode.wantsSta = true)
    (reason : UInt8) (ap : StartOutcome) :
    (wifi.wifiStatus.retryCount < wifiStaMaxRetries ∧
        wifi.step (.staDisconnected reason ap) =
          ({ wifi with
              network := wifi.network.publishDown .wifiSta
              wifiStatus :=
                wifi.wifiStatus.markStaRetry
                  (wifi.wifiStatus.retryCount + 1) reason },
            { commands := [.connect] })) ∨
      (wifiStaMaxRetries ≤ wifi.wifiStatus.retryCount ∧
      FellBack wifi (wifi.step (.staDisconnected reason ap)).1) := by
  by_cases below : wifi.wifiStatus.retryCount < wifiStaMaxRetries
  · refine .inl ⟨below, ?_⟩
    simp [WifiManager.step, WifiManager.staDisconnected, wants, below]
  · refine .inr ⟨UInt8.not_lt.mp below, ?_⟩
    simp only [WifiManager.step, WifiManager.staDisconnected, wants,
      Bool.not_true, Bool.false_eq_true, if_false, if_neg below]
    exact (startApFallback_fellBack _ _ _ _ _).of_same rfl

theorem staDisconnected_counted {wifi : WifiManager Callback}
    (reason : UInt8) (ap : StartOutcome)
    (wanted :
      (wifi.step
        (.staDisconnected reason ap)).1.wifiTargetMode.wantsSta = true) :
    Counted wifi (.staDisconnected reason ap) := by
  cases wants : wifi.wifiTargetMode.wantsSta with
  | false =>
      have kept :
          (wifi.step (.staDisconnected reason ap)).1.wifiTargetMode =
            wifi.wifiTargetMode := by
        simp [WifiManager.step, WifiManager.staDisconnected, wants]
      rw [kept, wants] at wanted
      cases wanted
  | true =>
      refine ⟨?_, fun _ => wants⟩
      rcases step_staDisconnected wants reason ap with
        ⟨below, answer⟩ | ⟨_, fellBack⟩
      · rw [answer]
        exact add_one_toNat below
      · rw [fellBack.unwanted] at wanted
        cases wanted

theorem step_counted {wifi : WifiManager Callback} (sound : wifi.Sound)
    (action : WifiAction)
    (wants : (wifi.step action).1.wifiTargetMode.wantsSta = true) :
    Counted wifi action := by
  cases action with
  | init platform =>
      have answer : wifi.step (.init platform) = (wifi, {}) :=
        initAgain_of_initialized sound.initialized platform
      rw [answer] at wants
      exact Counted.of_same rfl rfl (by rw [answer]) wants
  | save ssid pass platform => exact save_counted ssid pass platform wants
  | tryReconnect boot platform =>
      exact tryReconnect_counted sound boot platform wants
  | forceRecoveryAp boot platform =>
      simp only [WifiManager.step, WifiManager.forceRecoveryAp,
        initAgain_of_initialized sound.initialized,
        (startApFallback_fellBack _ _ _ _ _).unwanted] at wants
      cases wants
  | confirmOnboarding =>
      simp only [WifiManager.step, WifiManager.confirmOnboarding] at wants
      refine Counted.of_same rfl rfl ?_ ?_
      · simp only [WifiManager.step, WifiManager.confirmOnboarding]
        split_ifs
        · rw [(shutdownApTransition_same _).1]
        · rfl
      · split_ifs at wants
        · rw [(shutdownApTransition_same _).2] at wants
          exact wants
        · exact wants
  | graceTimer =>
      simp only [WifiManager.step] at wants
      refine Counted.of_same rfl rfl ?_ ?_
      · simp only [WifiManager.step]
        split_ifs
        · rw [(shutdownApTransition_same _).1]
        · rfl
      · split_ifs at wants
        · rw [(shutdownApTransition_same _).2] at wants
          exact wants
        · exact wants
  | staDisconnected reason ap =>
      exact staDisconnected_counted reason ap wants
  | staGotIp ip netmask => exact ⟨rfl, fun idle => by cases idle⟩
  | _ => exact Counted.of_same rfl rfl rfl wants

theorem boot_retryCount (nvsSsid nvsPass : Option (List UInt8))
    (platform : WifiPlatform)
    (wants :
      ((wifiBoot nvsSsid nvsPass : WifiManager Callback).init
        platform).1.wifiTargetMode.wantsSta = true) :
    ((wifiBoot nvsSsid nvsPass : WifiManager Callback).init
      platform).1.wifiStatus.retryCount = 0 := by
  have infra := fun (wifi : WifiManager Callback)
      (wants :
        (wifi.initInfra platform).1.wifiTargetMode.wantsSta = true) =>
    (initInfra_cases wifi platform).elim Joining.retryCount
      fun fellBack => by
        rw [fellBack.unwanted] at wants
        cases wants
  rw [WifiManager.init, if_neg (by simp [wifiBoot])] at wants ⊢
  split at wants
  · next settings present =>
      dsimp only at wants ⊢
      split_ifs at wants ⊢
      · simp only [WifiManager.initRadio, captiveDnsStart_eq] at wants
        split_ifs at wants <;> cases wants
      · exact infra _ wants
  · exact infra _ wants

/-- In every run the counter of a manager that wants the station is the number
of losses since it last started over. -/
theorem retryCount_eq_disconnects
    (nvsSsid nvsPass : Option (List UInt8)) (platform : WifiPlatform)
    (actions : List WifiAction) :
    let start :=
      ((wifiBoot nvsSsid nvsPass : WifiManager Callback).init platform).1
    (Run.final WifiManager.step start actions).wifiTargetMode.wantsSta =
        true →
      (Run.final WifiManager.step start actions).wifiStatus.retryCount.toNat =
        disconnects (Run.history WifiManager.step start actions) := by
  intro start
  refine
    (Run.history_induction
      (motive := fun past (wifi : WifiManager Callback) =>
        wifi.Sound ∧
        (wifi.wifiTargetMode.wantsSta = true →
        wifi.wifiStatus.retryCount.toNat = disconnects past))
      ⟨boot_sound nvsSsid nvsPass platform, fun wants => ?_⟩
      ?_ actions).2
  · exact congrArg UInt8.toNat (boot_retryCount nvsSsid nvsPass platform wants)
  · rintro past wifi action ⟨sound, counted⟩
    refine ⟨step_sound wifi action sound, fun wants => ?_⟩
    have step := step_counted sound action wants
    rw [disconnects_snoc]
    refine step.count.trans ?_
    cases started : restarts (Run.call WifiManager.step wifi action) with
    | true => rfl
    | false =>
        rw [counted (step.wanted started)]
        rfl

/--
In every run a manager that wants the station has lost it at most five times
since it last started over.  When it loses it again it tries once more and
counts the loss, and at the sixth loss in a row it opens the access point.
-/
theorem sixth_loss_opens_accessPoint
    (nvsSsid nvsPass : Option (List UInt8)) (platform : WifiPlatform)
    (earlier : List WifiAction) (reason : UInt8) (ap : StartOutcome)
    (wants :
      (Run.final WifiManager.step
        ((wifiBoot nvsSsid nvsPass : WifiManager Callback).init platform).1
        earlier).wifiTargetMode.wantsSta = true) :
    let start :=
      ((wifiBoot nvsSsid nvsPass : WifiManager Callback).init platform).1
    let before := Run.final WifiManager.step start earlier
    let after := before.step (.staDisconnected reason ap)
    let lost := disconnects (Run.history WifiManager.step start earlier)
    lost ≤ 5 ∧
    (lost < 5 →
    after.2.commands = [.connect] ∧
    after.1.wifiTargetMode = before.wifiTargetMode ∧
    after.1.wifiStatus.state = .staRetrying ∧
    after.1.wifiStatus.retryCount.toNat = lost + 1) ∧
    (lost = 5 →
    after.1.wifiTargetMode = .apFallback ∧
    (after.1.wifiStatus.state = .apFallback ∨
    after.1.wifiStatus.state = .error)) := by
  intro start before after lost
  have sound : before.Sound := run_sound nvsSsid nvsPass platform earlier
  have counted : before.wifiStatus.retryCount.toNat = lost :=
    retryCount_eq_disconnects nvsSsid nvsPass platform earlier wants
  have bound : before.wifiStatus.retryCount.toNat ≤ 5 :=
    UInt8.le_iff_toNat_le.mp (sound.status.retries.trans_eq sound.status.limit)
  rw [counted] at bound
  have cases := step_staDisconnected wants reason ap
  refine ⟨bound, fun fewer => ?_, fun sixth => ?_⟩
  · rcases cases with ⟨below, answer⟩ | ⟨reached, _⟩
    · have next := add_one_toNat below
      change after = _ at answer
      rw [answer]
      exact ⟨rfl, rfl, rfl, next.trans (congrArg (· + 1) counted)⟩
    · have many : 5 ≤ before.wifiStatus.retryCount.toNat := reached
      omega
  · rcases cases with ⟨below, _⟩ | ⟨_, fellBack⟩
    · have few : before.wifiStatus.retryCount.toNat < 5 := below
      omega
    · exact ⟨fellBack.target, fellBack.state⟩

end

/-- A new network is saved and lost six times. -/
theorem sixth_loss_opens_accessPoint_afterSave :
    ((Run.final WifiManager.step
        ((wifiBoot none none : WifiManager Unit).init {}).1
        (.save [97] [] {} :: List.replicate 5 (.staDisconnected 8 {}))).step
      (.staDisconnected 9 {})).1.wifiTargetMode = .apFallback :=
  ((sixth_loss_opens_accessPoint none none {}
    (.save [97] [] {} :: List.replicate 5 (.staDisconnected 8 {})) 9 {}
    (by decide)).2.2 (by decide)).1

end Endap.Network
