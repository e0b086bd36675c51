import Endap.Device.Network

/-!
# The transport policy

The policy names a primary and a fallback transport, and the enabled flags say
which links the device brings up.  Every change of the policy ends in a
normalisation, which replaces transports that the device cannot use and then
derives the flags from the primary transport.

Normalisation is idempotent: it brings every policy into a normal form and
leaves the normal forms alone.  A normal form may still be unusable.  The flags
follow the fallback only below Wi-Fi and Ethernet as primary transports; below
every other one, a fallback of Wi-Fi or Ethernet is kept and switched off.
-/

namespace Endap.Device

/-! ## Transports -/

/-- `DEVICE_PROFILE_TRANSPORT_NONE`. -/
def profileTransportNone : UInt32 := 0

/-- `DEVICE_PROFILE_TRANSPORT_WIFI`. -/
def profileTransportWifi : UInt32 := 1

/-- `DEVICE_PROFILE_TRANSPORT_ETHERNET`. -/
def profileTransportEthernet : UInt32 := 2

/-- `DEVICE_PROFILE_TRANSPORT_RS485`. -/
def profileTransportRs485 : UInt32 := 3

/-- Wi-Fi, Ethernet or RS-485. -/
def IsLink (transport : UInt32) : Prop :=
  transport = profileTransportWifi ∨ transport = profileTransportEthernet ∨
  transport = profileTransportRs485

/-- The transport that a number stands for. -/
def ProfileTransport.ofCode (code : UInt32) : ProfileTransport :=
  if code = profileTransportNone then .none
  else if code = profileTransportWifi then .wifi
  else if code = profileTransportEthernet then .ethernet
  else if code = profileTransportRs485 then .rs485
  else if code = 4 then .espnow
  else if code = 5 then .mesh
  else .unknown code.toUInt8

/-- The mode that a number stands for. -/
def WifiMode.ofCode (code : UInt32) : WifiMode :=
  if code = 0 then .infra
  else if code = 1 then .mesh
  else if code = 2 then .now
  else .unknown code.toUInt8

/-- `device_network_profile_t`, without the Ethernet controller and the label.
The transports and the mode are the numbers that the callers give. -/
structure NetworkSettings where
  wifiSupported : Bool
  ethernetSupported : Bool
  rs485Supported : Bool
  wifiEnabled : Bool
  ethernetEnabled : Bool
  rs485Enabled : Bool
  wifiMode : UInt32
  onboardingPending : Bool
  primaryTransport : UInt32
  fallbackTransport : UInt32
  failoverDelayMs : UInt32
  recoveryHysteresisMs : UInt32
  allowLocalAp : Bool
  allowDashboard : Bool
  allowOta : Bool

/-- The fields that choose a transport. -/
def NetworkSettings.profile (network : NetworkSettings) : NetworkProfile where
  wifiSupported := network.wifiSupported
  ethernetSupported := network.ethernetSupported
  rs485Supported := network.rs485Supported
  wifiEnabled := network.wifiEnabled
  ethernetEnabled := network.ethernetEnabled
  rs485Enabled := network.rs485Enabled
  wifiMode := .ofCode network.wifiMode
  primaryTransport := .ofCode network.primaryTransport

/-- `device_profile_transport_allowed_in_network`. -/
def NetworkSettings.allows
    (network : NetworkSettings) (transport : UInt32) : Bool :=
  transportAllowedInNetwork (.ofCode transport) network.profile

/-- `device_profile_transport_enabled`. -/
def NetworkSettings.enables
    (network : NetworkSettings) (transport : UInt32) : Bool :=
  transportEnabled (.ofCode transport) network.profile

theorem NetworkSettings.allows_iff
    (network : NetworkSettings) (transport : UInt32) :
    network.allows transport = true ↔
    (transport = profileTransportWifi → network.wifiSupported = true) ∧
    (transport = profileTransportEthernet →
    network.ethernetSupported = true) ∧
    (transport = profileTransportRs485 →
    network.rs485Supported = true ∧ network.rs485Enabled = true) := by
  unfold NetworkSettings.allows ProfileTransport.ofCode
  split_ifs with isNone isWifi isEthernet isRs485 isEspnow isMesh
  · subst isNone
    simp [transportAllowedInNetwork, profileTransportNone,
      profileTransportWifi, profileTransportEthernet, profileTransportRs485]
  · subst isWifi
    simp [transportAllowedInNetwork, NetworkSettings.profile,
      profileTransportWifi, profileTransportEthernet, profileTransportRs485]
  · subst isEthernet
    simp [transportAllowedInNetwork, NetworkSettings.profile,
      profileTransportWifi, profileTransportEthernet, profileTransportRs485]
  · subst isRs485
    simp [transportAllowedInNetwork, NetworkSettings.profile,
      profileTransportWifi, profileTransportEthernet, profileTransportRs485]
  · simp [transportAllowedInNetwork, isWifi, isEthernet, isRs485]
  · simp [transportAllowedInNetwork, isWifi, isEthernet, isRs485]
  · simp [transportAllowedInNetwork, isWifi, isEthernet, isRs485]

/-! ## Normalisation -/

/-- `DEVICE_PROFILE_FAILOVER_DELAY_DEFAULT_MS`. -/
def failoverDelayDefaultMs : UInt32 := 5000

/-- `DEVICE_PROFILE_RECOVERY_HYST_DEFAULT_MS`. -/
def recoveryHystDefaultMs : UInt32 := 15000

/-- The delays, of which none stays zero. -/
def NetworkSettings.fillDelays (network : NetworkSettings) :
    NetworkSettings :=
  { network with
    failoverDelayMs :=
      if network.failoverDelayMs = 0 then failoverDelayDefaultMs
      else network.failoverDelayMs
    recoveryHysteresisMs :=
      if network.recoveryHysteresisMs = 0 then recoveryHystDefaultMs
      else network.recoveryHysteresisMs }

/-- The transport over which the device is set up. -/
def NetworkSettings.onboardingTransport (network : NetworkSettings) :
    UInt32 :=
  if network.wifiSupported then profileTransportWifi
  else if network.ethernetSupported then profileTransportEthernet
  else profileTransportNone

/-- The policy of a device that is not set up yet. -/
def NetworkSettings.onboard (network : NetworkSettings) : NetworkSettings :=
  { network with
    primaryTransport := network.onboardingTransport
    fallbackTransport := profileTransportNone
    wifiEnabled := network.wifiSupported
    ethernetEnabled := false
    rs485Enabled := false }

/-- The primary transport, replaced if the device cannot use it. -/
def NetworkSettings.choosePrimary (network : NetworkSettings) : UInt32 :=
  if network.allows network.primaryTransport then network.primaryTransport
  else if network.ethernetSupported then profileTransportEthernet
  else if network.wifiSupported then profileTransportWifi
  else if network.rs485Supported && network.rs485Enabled then
    profileTransportRs485
  else profileTransportNone

/-- The fallback transport, dropped if the device cannot use it or if it is
the primary one. -/
def NetworkSettings.chooseFallback (network : NetworkSettings) : UInt32 :=
  if network.allows network.fallbackTransport = false ∨
      network.fallbackTransport = network.primaryTransport then
    profileTransportNone
  else network.fallbackTransport

/-- The flags of the two links that carry IP. -/
def NetworkSettings.switchIp (network : NetworkSettings) : NetworkSettings :=
  if network.primaryTransport = profileTransportEthernet then
    { network with
      ethernetEnabled := network.ethernetSupported
      wifiEnabled := network.fallbackTransport = profileTransportWifi }
  else if network.primaryTransport = profileTransportWifi then
    { network with
      wifiEnabled := network.wifiSupported
      ethernetEnabled := network.fallbackTransport = profileTransportEthernet }
  else
    { network with
      wifiEnabled := false
      ethernetEnabled := false }

/-- The flag of the bus. -/
def NetworkSettings.switchRs485 (network : NetworkSettings) :
    NetworkSettings :=
  if network.rs485Supported = false then
    { network with rs485Enabled := false }
  else if network.primaryTransport = profileTransportRs485 ∨
      network.fallbackTransport = profileTransportRs485 then
    { network with rs485Enabled := true }
  else network

/-- `device_profile_normalize_transport_policy`. -/
def normalizeTransportPolicy (network : NetworkSettings) : NetworkSettings :=
  let filled := network.fillDelays
  if filled.onboardingPending then filled.onboard
  else
    let primary := { filled with primaryTransport := filled.choosePrimary }
    let fallback := { primary with fallbackTransport := primary.chooseFallback }
    fallback.switchIp.switchRs485

/-! ## Normal forms -/

/-- The flag of Wi-Fi below a primary and a fallback transport. -/
def NetworkSettings.wifiUsed (network : NetworkSettings) : Bool :=
  network.primaryTransport = profileTransportWifi ∨
  network.primaryTransport = profileTransportEthernet ∧
  network.fallbackTransport = profileTransportWifi

/-- The flag of Ethernet below a primary and a fallback transport. -/
def NetworkSettings.ethernetUsed (network : NetworkSettings) : Bool :=
  network.primaryTransport = profileTransportEthernet ∨
  network.primaryTransport = profileTransportWifi ∧
  network.fallbackTransport = profileTransportEthernet

/-- The policies of a device that is set up. -/
structure RunningPolicy (network : NetworkSettings) : Prop where
  primary : network.allows network.primaryTransport = true
  fallback : network.allows network.fallbackTransport = true
  distinct :
    network.fallbackTransport = network.primaryTransport →
    network.fallbackTransport = profileTransportNone
  wifi : network.wifiEnabled = network.wifiUsed
  ethernet : network.ethernetEnabled = network.ethernetUsed
  rs485 : network.rs485Enabled = true → network.rs485Supported = true

/-- The policies that normalisation produces. -/
structure NormalPolicy (network : NetworkSettings) : Prop where
  failover : network.failoverDelayMs ≠ 0
  recovery : network.recoveryHysteresisMs ≠ 0
  onboarding : network.onboardingPending = true → network.onboard = network
  running : network.onboardingPending = false → RunningPolicy network

theorem NetworkSettings.switchIp_eq
    {network : NetworkSettings}
    (allowed : network.allows network.primaryTransport = true) :
    network.switchIp =
      { network with
        wifiEnabled := network.wifiUsed
        ethernetEnabled := network.ethernetUsed } := by
  rw [NetworkSettings.allows_iff] at allowed
  have distinct : profileTransportEthernet ≠ profileTransportWifi := by
    decide
  unfold NetworkSettings.switchIp NetworkSettings.wifiUsed
    NetworkSettings.ethernetUsed
  split_ifs with isEthernet isWifi
  · simp only [isEthernet, allowed.2.1 isEthernet, distinct, false_or,
      true_and, true_or, decide_true]
  · simp only [isWifi, allowed.1 isWifi, distinct.symm, false_or,
      true_and, true_or, decide_true]
  · simp only [isEthernet, isWifi, false_and, or_self, decide_false]

/-- The bus is on if it was, on a device that has it: transports that are
allowed ask for no more. -/
theorem NetworkSettings.switchRs485_eq
    {network : NetworkSettings}
    (primary : network.allows network.primaryTransport = true)
    (fallback : network.allows network.fallbackTransport = true) :
    network.switchRs485 =
      { network with
        rs485Enabled := network.rs485Supported && network.rs485Enabled } := by
  rw [NetworkSettings.allows_iff] at primary fallback
  unfold NetworkSettings.switchRs485
  split_ifs with missing used
  · simp only [missing, Bool.false_and]
  · have enabled : network.rs485Enabled = true :=
      used.elim (fun isRs485 => (primary.2.2 isRs485).2)
        (fun isRs485 => (fallback.2.2 isRs485).2)
    rw [Bool.not_eq_false] at missing
    simp only [missing, enabled, Bool.and_self]
  · rw [Bool.not_eq_false] at missing
    simp only [missing, Bool.true_and]
    rw [← missing]

theorem normalizeTransportPolicy_of_normal
    {network : NetworkSettings} (normal : NormalPolicy network) :
    normalizeTransportPolicy network = network := by
  have filled : network.fillDelays = network := by
    rw [NetworkSettings.fillDelays, if_neg normal.failover,
      if_neg normal.recovery]
  unfold normalizeTransportPolicy
  dsimp only
  rw [filled]
  by_cases pending : network.onboardingPending = true
  · rw [if_pos pending]
    exact normal.onboarding pending
  · have running :=
      normal.running (Bool.eq_false_iff.mpr pending)
    have keepsPrimary : network.choosePrimary = network.primaryTransport :=
      if_pos running.primary
    have keepsFallback :
        network.chooseFallback = network.fallbackTransport := by
      have allowed : ¬ network.allows network.fallbackTransport = false := by
        rw [running.fallback]
        decide
      unfold NetworkSettings.chooseFallback
      split_ifs with drops
      · exact (running.distinct (drops.resolve_left allowed)).symm
      · rfl
    have keepsRs485 :
        (network.rs485Supported && network.rs485Enabled) =
          network.rs485Enabled := by
      rw [Bool.and_eq_right_iff_imp]
      exact running.rs485
    rw [if_neg pending, keepsPrimary, keepsFallback,
      NetworkSettings.switchIp_eq running.primary, ← running.wifi,
      ← running.ethernet,
      NetworkSettings.switchRs485_eq running.primary running.fallback,
      keepsRs485]

theorem NetworkSettings.choosePrimary_allowed (network : NetworkSettings) :
    network.allows network.choosePrimary = true := by
  unfold NetworkSettings.choosePrimary
  split_ifs with keeps ethernet wifi rs485
  · exact keeps
  · simp [NetworkSettings.allows_iff, ethernet, profileTransportWifi,
      profileTransportEthernet, profileTransportRs485]
  · simp [NetworkSettings.allows_iff, wifi, profileTransportWifi,
      profileTransportEthernet, profileTransportRs485]
  · rw [Bool.and_eq_true] at rs485
    simp [NetworkSettings.allows_iff, rs485, profileTransportWifi,
      profileTransportEthernet, profileTransportRs485]
  · simp [NetworkSettings.allows_iff, profileTransportNone,
      profileTransportWifi, profileTransportEthernet, profileTransportRs485]

theorem NetworkSettings.chooseFallback_allowed
    (network : NetworkSettings) :
    network.allows network.chooseFallback = true := by
  unfold NetworkSettings.chooseFallback
  split_ifs with drops
  · simp [NetworkSettings.allows_iff, profileTransportNone,
      profileTransportWifi, profileTransportEthernet, profileTransportRs485]
  · rw [not_or, Bool.not_eq_false] at drops
    exact drops.1

theorem NetworkSettings.chooseFallback_distinct
    {network : NetworkSettings}
    (same : network.chooseFallback = network.primaryTransport) :
    network.chooseFallback = profileTransportNone := by
  unfold NetworkSettings.chooseFallback at same ⊢
  split_ifs at same ⊢ with drops
  · rfl
  · exact absurd (.inr same) drops

/-- The policy with its transports chosen, before the flags are derived. -/
def NetworkSettings.chosen (network : NetworkSettings) : NetworkSettings :=
  let primary := { network with primaryTransport := network.choosePrimary }
  { primary with fallbackTransport := primary.chooseFallback }

theorem NetworkSettings.chosen_primary_allowed (network : NetworkSettings) :
    network.chosen.allows network.chosen.primaryTransport = true :=
  network.choosePrimary_allowed

theorem NetworkSettings.chosen_fallback_allowed
    (network : NetworkSettings) :
    network.chosen.allows network.chosen.fallbackTransport = true :=
  NetworkSettings.chooseFallback_allowed
    { network with primaryTransport := network.choosePrimary }

theorem normalizeTransportPolicy_running
    {network : NetworkSettings}
    (running : network.onboardingPending = false) :
    normalizeTransportPolicy network =
      { network.fillDelays.chosen with
        wifiEnabled := network.fillDelays.chosen.wifiUsed
        ethernetEnabled := network.fillDelays.chosen.ethernetUsed
        rs485Enabled := network.rs485Supported && network.rs485Enabled } := by
  have primary := network.fillDelays.chosen_primary_allowed
  have fallback := network.fillDelays.chosen_fallback_allowed
  have notPending : ¬ network.fillDelays.onboardingPending = true := by
    rw [Bool.not_eq_true]
    exact running
  have asked :
      normalizeTransportPolicy network =
        network.fillDelays.chosen.switchIp.switchRs485 :=
    if_neg notPending
  rw [asked, NetworkSettings.switchIp_eq primary]
  exact NetworkSettings.switchRs485_eq primary fallback

theorem NetworkSettings.fillDelays_delays (network : NetworkSettings) :
    network.fillDelays.failoverDelayMs ≠ 0 ∧
    network.fillDelays.recoveryHysteresisMs ≠ 0 := by
  constructor
  · unfold NetworkSettings.fillDelays
    dsimp only
    split_ifs with zero
    · decide
    · exact zero
  · unfold NetworkSettings.fillDelays
    dsimp only
    split_ifs with zero
    · decide
    · exact zero

theorem normalizeTransportPolicy_normal (network : NetworkSettings) :
    NormalPolicy (normalizeTransportPolicy network) := by
  cases pending : network.onboardingPending with
  | true =>
      have onboarded :
          normalizeTransportPolicy network = network.fillDelays.onboard :=
        if_pos pending
      rw [onboarded]
      exact
        { failover := network.fillDelays_delays.1
          recovery := network.fillDelays_delays.2
          onboarding := fun _ => rfl
          running := fun running =>
            absurd (pending.symm.trans running) (by decide) }
  | false =>
      have allowed : ∀ transport,
          network.fillDelays.chosen.allows transport = true →
          (normalizeTransportPolicy network).allows transport = true := by
        intro transport holds
        rw [NetworkSettings.allows_iff] at holds ⊢
        rw [normalizeTransportPolicy_running pending]
        refine ⟨holds.1, holds.2.1, ?_⟩
        intro isRs485
        refine ⟨(holds.2.2 isRs485).1, ?_⟩
        exact Bool.and_eq_true_iff.mpr (holds.2.2 isRs485)
      have primary := allowed _ network.fillDelays.chosen_primary_allowed
      have fallback := allowed _ network.fillDelays.chosen_fallback_allowed
      rw [normalizeTransportPolicy_running pending] at primary fallback ⊢
      exact
        { failover := network.fillDelays_delays.1
          recovery := network.fillDelays_delays.2
          onboarding := fun onboarding =>
            absurd (pending.symm.trans onboarding) (by decide)
          running := fun _ =>
            { primary := primary
              fallback := fallback
              distinct := NetworkSettings.chooseFallback_distinct
              wifi := rfl
              ethernet := rfl
              rs485 := fun enabled => (Bool.and_eq_true_iff.mp enabled).1 } }

theorem normalizeTransportPolicy_idem (network : NetworkSettings) :
    normalizeTransportPolicy (normalizeTransportPolicy network) =
      normalizeTransportPolicy network :=
  normalizeTransportPolicy_of_normal (normalizeTransportPolicy_normal network)

/-! ## What normalisation keeps -/

/-- A property of the transports that the device itself may choose, and of the
one asked for, holds of the primary transport. -/
theorem NetworkSettings.choosePrimary_cases
    {network : NetworkSettings} (property : UInt32 → Prop)
    (asked : property network.primaryTransport)
    (none : property profileTransportNone)
    (links : ∀ transport, IsLink transport → property transport) :
    property network.choosePrimary := by
  unfold NetworkSettings.choosePrimary
  split_ifs
  · exact asked
  · exact links _ (.inr (.inl rfl))
  · exact links _ (.inl rfl)
  · exact links _ (.inr (.inr rfl))
  · exact none

/-! ## Usable policies -/

/-- Two transports, of which the links are switched on. -/
structure UsablePolicy (network : NetworkSettings) : Prop where
  distinct :
    network.fallbackTransport = network.primaryTransport →
    network.primaryTransport = profileTransportNone
  primary :
    IsLink network.primaryTransport →
    network.enables network.primaryTransport = true
  fallback :
    IsLink network.fallbackTransport →
    network.enables network.fallbackTransport = true

/-- The policy is usable, or the device is not set up. -/
def Usable (network : NetworkSettings) : Prop :=
  network.onboardingPending = false → UsablePolicy network

theorem NetworkSettings.enables_iff
    (network : NetworkSettings) (transport : UInt32) :
    network.enables transport = true ↔
    network.allows transport = true ∧
    (transport = profileTransportWifi → network.wifiEnabled = true) ∧
    (transport = profileTransportEthernet → network.ethernetEnabled = true) ∧
    (transport = profileTransportRs485 →
    network.rs485Enabled = true) := by
  unfold NetworkSettings.enables transportEnabled
  change (if network.allows transport = true then _ else _) = true ↔ _
  by_cases allowed : network.allows transport = true
  · rw [if_pos allowed]
    simp only [allowed, true_and]
    unfold ProfileTransport.ofCode
    split_ifs with isNone isWifi isEthernet isRs485 isEspnow isMesh
    · subst isNone
      simp [profileTransportNone, profileTransportWifi,
        profileTransportEthernet, profileTransportRs485]
    · subst isWifi
      simp [NetworkSettings.profile, profileTransportWifi,
        profileTransportEthernet, profileTransportRs485]
    · subst isEthernet
      simp [NetworkSettings.profile, profileTransportWifi,
        profileTransportEthernet, profileTransportRs485]
    · subst isRs485
      simp [NetworkSettings.profile, profileTransportWifi,
        profileTransportEthernet, profileTransportRs485]
    · simp [isWifi, isEthernet, isRs485]
    · simp [isWifi, isEthernet, isRs485]
    · simp [isWifi, isEthernet, isRs485]
  · rw [if_neg allowed]
    simp [allowed]

/-- A fallback of Wi-Fi or Ethernet below another primary transport. -/
def Stranded (network : NetworkSettings) : Prop :=
  network.primaryTransport ≠ profileTransportWifi ∧
  network.primaryTransport ≠ profileTransportEthernet ∧
  (network.fallbackTransport = profileTransportWifi ∨
  network.fallbackTransport = profileTransportEthernet)

theorem RunningPolicy.usable_iff
    {network : NetworkSettings} (running : RunningPolicy network) :
    UsablePolicy network ↔ ¬ Stranded network := by
  constructor
  · rintro usable ⟨notWifi, notEthernet, isWifi | isEthernet⟩
    · have enabled := usable.fallback (.inl isWifi)
      rw [NetworkSettings.enables_iff] at enabled
      have used := enabled.2.1 isWifi
      rw [running.wifi] at used
      simp [NetworkSettings.wifiUsed, notWifi, notEthernet] at used
    · have enabled := usable.fallback (.inr (.inl isEthernet))
      rw [NetworkSettings.enables_iff] at enabled
      have used := enabled.2.2.1 isEthernet
      rw [running.ethernet] at used
      simp [NetworkSettings.ethernetUsed, notWifi, notEthernet] at used
  · intro connected
    have bus := running.primary
    have fallbackBus := running.fallback
    rw [NetworkSettings.allows_iff] at bus fallbackBus
    refine
      { distinct := fun same => by
          rw [← same]
          exact running.distinct same
        primary := fun _ => ?_
        fallback := fun _ => ?_ }
    · rw [NetworkSettings.enables_iff]
      refine ⟨running.primary, ?_, ?_, fun isRs485 => (bus.2.2 isRs485).2⟩
      · intro isWifi
        rw [running.wifi, NetworkSettings.wifiUsed, decide_eq_true_eq]
        exact .inl isWifi
      · intro isEthernet
        rw [running.ethernet, NetworkSettings.ethernetUsed, decide_eq_true_eq]
        exact .inl isEthernet
    · rw [NetworkSettings.enables_iff]
      refine
        ⟨running.fallback, ?_, ?_, fun isRs485 => (fallbackBus.2.2 isRs485).2⟩
      · intro isWifi
        rw [running.wifi, NetworkSettings.wifiUsed, decide_eq_true_eq]
        by_contra unused
        rw [not_or] at unused
        exact connected
          ⟨unused.1, fun isEthernet => unused.2 ⟨isEthernet, isWifi⟩,
            .inl isWifi⟩
      · intro isEthernet
        rw [running.ethernet, NetworkSettings.ethernetUsed, decide_eq_true_eq]
        by_contra unused
        rw [not_or] at unused
        exact connected
          ⟨fun isWifi => unused.2 ⟨isWifi, isEthernet⟩, unused.1,
            .inr isEthernet⟩

/-- The transports asked for strand the fallback: the device can use both,
and the fallback is Wi-Fi or Ethernet below another primary transport. -/
def AsksStranded (network : NetworkSettings) : Prop :=
  network.onboardingPending = false ∧ Stranded network ∧
  network.allows network.primaryTransport = true ∧
  network.allows network.fallbackTransport = true

theorem asksStranded_iff (network : NetworkSettings) :
    AsksStranded network ↔
    network.onboardingPending = false ∧ Stranded network ∧
    (network.primaryTransport = profileTransportRs485 →
    network.rs485Supported = true ∧ network.rs485Enabled = true) ∧
    (network.fallbackTransport = profileTransportWifi →
    network.wifiSupported = true) ∧
    (network.fallbackTransport = profileTransportEthernet →
    network.ethernetSupported = true) := by
  unfold AsksStranded
  rw [NetworkSettings.allows_iff, NetworkSettings.allows_iff]
  constructor
  · rintro ⟨running, stranded, primary, fallback⟩
    exact ⟨running, stranded, primary.2.2, fallback.1, fallback.2.1⟩
  · rintro ⟨running, stranded, rs485, wifi, ethernet⟩
    refine
      ⟨running, stranded,
        ⟨fun isWifi => absurd isWifi stranded.1,
          fun isEthernet => absurd isEthernet stranded.2.1, rs485⟩,
        wifi, ethernet, ?_⟩
    intro isRs485
    have isIp := stranded.2.2
    rw [isRs485] at isIp
    exact absurd isIp (by decide)

section

variable {network : NetworkSettings}

/-- The choice keeps a fallback that the device can use and that is not the
primary transport. -/
theorem NetworkSettings.chosen_fallback_eq
    (asked : network.choosePrimary = network.primaryTransport)
    (fallback : network.allows network.fallbackTransport = true)
    (apart : network.fallbackTransport ≠ network.primaryTransport) :
    network.chosen.fallbackTransport = network.fallbackTransport := by
  unfold NetworkSettings.chosen
  dsimp only
  rw [asked]
  apply if_neg
  rw [not_or, Bool.not_eq_false]
  exact ⟨fallback, apart⟩

theorem NetworkSettings.chosen_fallback_kept
    (isIp :
      network.chosen.fallbackTransport = profileTransportWifi ∨
      network.chosen.fallbackTransport = profileTransportEthernet) :
    network.chosen.fallbackTransport = network.fallbackTransport ∧
    network.allows network.fallbackTransport = true := by
  change
    NetworkSettings.chooseFallback
        { network with
          primaryTransport := network.choosePrimary } = _ ∨
      NetworkSettings.chooseFallback
        { network with
          primaryTransport := network.choosePrimary } = _ at isIp
  unfold NetworkSettings.chosen
  unfold NetworkSettings.chooseFallback at isIp ⊢
  dsimp only at isIp ⊢
  split_ifs at isIp ⊢ with drops
  · exact absurd isIp (by decide)
  · rw [not_or, Bool.not_eq_false] at drops
    exact ⟨rfl, drops.1⟩

/-- A primary transport that is replaced becomes Wi-Fi or Ethernet if the
device can use one of them. -/
theorem NetworkSettings.allows_primary
    (notWifi : network.choosePrimary ≠ profileTransportWifi)
    (notEthernet : network.choosePrimary ≠ profileTransportEthernet)
    (isIp :
      network.fallbackTransport = profileTransportWifi ∨
      network.fallbackTransport = profileTransportEthernet)
    (fallback : network.allows network.fallbackTransport = true) :
    network.allows network.primaryTransport = true := by
  rw [NetworkSettings.allows_iff] at fallback
  by_contra replaced
  unfold NetworkSettings.choosePrimary at notWifi notEthernet
  rw [if_neg replaced] at notWifi notEthernet
  by_cases ethernet : network.ethernetSupported = true
  · rw [if_pos ethernet] at notEthernet
    exact notEthernet rfl
  · have isWifi :=
      isIp.resolve_right fun isEthernet =>
        ethernet (fallback.2.1 isEthernet)
    rw [if_neg ethernet, if_pos (fallback.1 isWifi)] at notWifi
    exact notWifi rfl

end

/-- A fallback is stranded after the choice if both transports were chosen as
they were asked for. -/
theorem NetworkSettings.chosen_stranded_iff (network : NetworkSettings) :
    Stranded network.chosen ↔
    Stranded network ∧
    network.allows network.primaryTransport = true ∧
    network.allows network.fallbackTransport = true := by
  constructor
  · rintro ⟨notWifi, notEthernet, isIp⟩
    change network.choosePrimary ≠ profileTransportWifi at notWifi
    change network.choosePrimary ≠ profileTransportEthernet at notEthernet
    have kept := NetworkSettings.chosen_fallback_kept isIp
    rw [kept.1] at isIp
    have primary :=
      NetworkSettings.allows_primary notWifi notEthernet isIp kept.2
    have asked : network.choosePrimary = network.primaryTransport :=
      if_pos primary
    rw [asked] at notWifi notEthernet
    exact ⟨⟨notWifi, notEthernet, isIp⟩, primary, kept.2⟩
  · rintro ⟨⟨notWifi, notEthernet, isIp⟩, primary, fallback⟩
    have asked : network.choosePrimary = network.primaryTransport :=
      if_pos primary
    have apart : network.fallbackTransport ≠ network.primaryTransport := by
      intro same
      rw [same] at isIp
      exact isIp.elim notWifi notEthernet
    have kept := NetworkSettings.chosen_fallback_eq asked fallback apart
    have keptPrimary :
        network.chosen.primaryTransport = network.primaryTransport := asked
    unfold Stranded
    rw [keptPrimary, kept]
    exact ⟨notWifi, notEthernet, isIp⟩

/-- Normalisation makes a usable policy unless a stranded fallback is asked
for. -/
theorem usable_normalizeTransportPolicy_iff (network : NetworkSettings) :
    Usable (normalizeTransportPolicy network) ↔ ¬ AsksStranded network := by
  cases pending : network.onboardingPending with
  | true =>
      have onboarded :
          (normalizeTransportPolicy network).onboardingPending = true := by
        have result :
            normalizeTransportPolicy network = network.fillDelays.onboard :=
          if_pos pending
        rw [result]
        exact pending
      refine iff_of_true ?_ ?_
      · intro running
        rw [onboarded] at running
        cases running
      · rintro ⟨running, _⟩
        rw [pending] at running
        cases running
  | false =>
      have result := normalizeTransportPolicy_running pending
      have running :
          (normalizeTransportPolicy network).onboardingPending = false := by
        rw [result]
        exact pending
      have normal := (normalizeTransportPolicy_normal network).running running
      have stranded :
          Stranded (normalizeTransportPolicy network) ↔
          Stranded network.fillDelays.chosen := by
        rw [result]
        rfl
      rw [Usable, running, forall_prop_of_true rfl, normal.usable_iff,
        stranded, NetworkSettings.chosen_stranded_iff, AsksStranded, pending]
      simp only [true_and]
      rfl

end Endap.Device
