import Endap.Device.NetworkStorage

/-!
# Links and transports changed together

A change of the transport calls two setters in sequence, one for the links and
one for the two transports.  Each of them changes the profile before it writes
it, and the second one runs whatever the first has answered.

What the profile holds in the end depends on the links only by the bus and the
mode of Wi-Fi, and not at all on the writes.  It is what it was exactly if the
device runs already on what the change asks for.
-/

namespace Endap.Device

open Endap.State

/-! ## Two setters -/

/-- What a change asks for. -/
structure TransportChange where
  wifiEnabled : Bool
  ethernetEnabled : Bool
  rs485Enabled : Bool
  wifiMode : UInt32
  primaryTransport : UInt32
  fallbackTransport : UInt32
  failoverDelayMs : UInt32
  recoveryHysteresisMs : UInt32

/-- The writes of the two setters. -/
structure ChangeOutcomes where
  links : NvsOutcome
  transports : NvsOutcome

/-- `device_profile_set_network_enabled` with the links of a change. -/
def TransportChange.setLinks (change : TransportChange)
    (world : NetworkWorld) (outcome : NvsOutcome) :
    NetworkWorld × NetworkConfigResult :=
  setNetworkEnabled world change.wifiEnabled change.ethernetEnabled
    change.rs485Enabled change.wifiMode outcome

/-- `device_profile_set_transport_policy` with the transports of a change, on
a device that is set up. -/
def TransportChange.setTransports (change : TransportChange)
    (world : NetworkWorld) (outcome : NvsOutcome) :
    NetworkWorld × NetworkConfigResult :=
  setTransportPolicy world false change.primaryTransport
    change.fallbackTransport change.failoverDelayMs
    change.recoveryHysteresisMs outcome

/-- Both setters in sequence: the world afterwards and both answers. -/
def TransportChange.apply (change : TransportChange)
    (world : NetworkWorld) (outcomes : ChangeOutcomes) :
    NetworkWorld × NetworkConfigResult × NetworkConfigResult :=
  let links := change.setLinks world outcomes.links
  let transports := change.setTransports links.1 outcomes.transports
  (transports.1, links.2, transports.2)

/-- The device has all the links that the change asks for. -/
def TransportChange.Supported (change : TransportChange)
    (network : NetworkSettings) : Prop :=
  (change.wifiEnabled = true → network.wifiSupported = true) ∧
  (change.ethernetEnabled = true → network.ethernetSupported = true) ∧
  (change.rs485Enabled = true → network.rs485Supported = true)

instance (change : TransportChange) (network : NetworkSettings) :
    Decidable (change.Supported network) :=
  inferInstanceAs (Decidable (_ ∧ _))

theorem setLinks_cases
    (change : TransportChange) (world : NetworkWorld)
    (outcome : NvsOutcome) :
    (¬ change.Supported world.settings ∧
        change.setLinks world outcome = (world, .unsupported)) ∨
      (change.Supported world.settings ∧
      change.setLinks world outcome =
        persistNetworkConfig
          { world with
            settings :=
              normalizeTransportPolicy
                (applyManualNetworkSelection world.settings
                  change.wifiEnabled change.ethernetEnabled
                  change.rs485Enabled change.wifiMode) }
          outcome) := by
  rw [TransportChange.setLinks, setNetworkEnabled]
  split_ifs with noWifi noEthernet noRs485
  · rw [Bool.and_eq_true, Bool.not_eq_true'] at noWifi
    refine Or.inl ⟨fun supported => ?_, rfl⟩
    exact absurd (supported.1 noWifi.1) (by simp [noWifi.2])
  · rw [Bool.and_eq_true, Bool.not_eq_true'] at noEthernet
    refine Or.inl ⟨fun supported => ?_, rfl⟩
    exact absurd (supported.2.1 noEthernet.1) (by simp [noEthernet.2])
  · rw [Bool.and_eq_true, Bool.not_eq_true'] at noRs485
    refine Or.inl ⟨fun supported => ?_, rfl⟩
    exact absurd (supported.2.2 noRs485.1) (by simp [noRs485.2])
  · simp only [Bool.and_eq_true, Bool.not_eq_true', not_and,
      Bool.not_eq_false] at noWifi noEthernet noRs485
    exact Or.inr ⟨⟨noWifi, noEthernet, noRs485⟩, rfl⟩

theorem persistAnswer_ok_iff (outcome : NvsOutcome) :
    (if outcome.succeeds then NetworkConfigResult.ok
        else .persistFailed) =
        .ok ↔
      outcome.succeeds = true := by
  split
  · next succeeds => simp [succeeds]
  · next fails => simp [fails]

/-- Both answers are good exactly if the links are supported and both writes
succeed. -/
theorem apply_ok_iff
    (change : TransportChange) (world : NetworkWorld)
    (outcomes : ChangeOutcomes) :
    ((change.apply world outcomes).2.1 = .ok ∧
        (change.apply world outcomes).2.2 = .ok) ↔
      change.Supported world.settings ∧
        outcomes.links.succeeds = true ∧
        outcomes.transports.succeeds = true := by
  have links :
      (change.setLinks world outcomes.links).2 = .ok ↔
      change.Supported world.settings ∧
        outcomes.links.succeeds = true := by
    rcases setLinks_cases change world outcomes.links with
      ⟨missing, refused⟩ | ⟨supported, written⟩
    · rw [refused]
      exact iff_of_false (by simp) fun both => missing both.1
    · rw [written]
      exact
        (persistAnswer_ok_iff outcomes.links).trans
          (and_iff_right supported).symm
  have transports :
      (change.apply world outcomes).2.2 = .ok ↔
      outcomes.transports.succeeds = true :=
    persistAnswer_ok_iff outcomes.transports
  rw [transports, ← and_assoc]
  exact and_congr_left' links

/-! ## What the profile comes to -/

/-- The links, the transports and the delays of a profile. -/
structure NetworkChoice where
  wifiEnabled : Bool
  ethernetEnabled : Bool
  rs485Enabled : Bool
  wifiMode : UInt32
  primaryTransport : UInt32
  fallbackTransport : UInt32
  failoverDelayMs : UInt32
  recoveryHysteresisMs : UInt32
deriving DecidableEq

/-- What the profile says of links, transports and delays. -/
def NetworkSettings.choice (network : NetworkSettings) : NetworkChoice where
  wifiEnabled := network.wifiEnabled
  ethernetEnabled := network.ethernetEnabled
  rs485Enabled := network.rs485Enabled
  wifiMode := network.wifiMode
  primaryTransport := network.primaryTransport
  fallbackTransport := network.fallbackTransport
  failoverDelayMs := network.failoverDelayMs
  recoveryHysteresisMs := network.recoveryHysteresisMs

/-- The transport that stands in for one that the device cannot use. -/
def NetworkSettings.substitute (network : NetworkSettings) : UInt32 :=
  if network.ethernetSupported then profileTransportEthernet
  else if network.wifiSupported then profileTransportWifi
  else if network.rs485Supported && network.rs485Enabled then
    profileTransportRs485
  else profileTransportNone

/-- The device runs on what the transports of a change come to: each is the
one asked for where the device can use it, and what stands in for it
elsewhere; the links of IP and the delays go with them. -/
structure RunsOn (network : NetworkSettings) (change : TransportChange) :
    Prop where
  failover : network.failoverDelayMs = change.failoverDelayMs
  recovery : network.recoveryHysteresisMs = change.recoveryHysteresisMs
  primary :
    network.primaryTransport =
      if network.allows change.primaryTransport then
        change.primaryTransport
      else network.substitute
  fallback :
    network.fallbackTransport =
      if network.allows change.fallbackTransport = false ∨
          change.fallbackTransport = network.primaryTransport then
        profileTransportNone
      else change.fallbackTransport
  wifi : network.wifiEnabled = network.wifiUsed
  ethernet : network.ethernetEnabled = network.ethernetUsed

/-- The profile with the transports of a change. -/
def TransportChange.policyOn (change : TransportChange)
    (network : NetworkSettings) : NetworkSettings :=
  network.withPolicy false change.primaryTransport change.fallbackTransport
    change.failoverDelayMs change.recoveryHysteresisMs

/-- The delays of a change are given. -/
def TransportChange.Delays (change : TransportChange) : Prop :=
  change.failoverDelayMs ≠ 0 ∧ change.recoveryHysteresisMs ≠ 0

theorem allows_policyOn
    (change : TransportChange) (network : NetworkSettings)
    (primary transport : UInt32) :
    NetworkSettings.allows
        { change.policyOn network with primaryTransport := primary }
        transport =
      network.allows transport := by
  rw [Bool.eq_iff_iff, NetworkSettings.allows_iff, NetworkSettings.allows_iff]
  rfl

theorem choosePrimary_policyOn
    (change : TransportChange) (network : NetworkSettings) :
    (change.policyOn network).choosePrimary =
      if network.allows change.primaryTransport then
        change.primaryTransport
      else network.substitute := by
  have same :=
    allows_policyOn change network change.primaryTransport
      change.primaryTransport
  rw [← same]
  rfl

theorem chosenFallback_policyOn
    (change : TransportChange) (network : NetworkSettings) :
    (change.policyOn network).chosen.fallbackTransport =
      if network.allows change.fallbackTransport = false ∨
          change.fallbackTransport =
            (change.policyOn network).chosen.primaryTransport then
        profileTransportNone
      else change.fallbackTransport := by
  have same :=
    allows_policyOn change network (change.policyOn network).choosePrimary
      change.fallbackTransport
  rw [← same]
  rfl

variable {change : TransportChange}

theorem normalize_policyOn_choice
    (delays : change.Delays)
    (network : NetworkSettings) :
    (normalizeTransportPolicy (change.policyOn network)).choice =
      { wifiEnabled := (change.policyOn network).chosen.wifiUsed
        ethernetEnabled := (change.policyOn network).chosen.ethernetUsed
        rs485Enabled := network.rs485Supported && network.rs485Enabled
        wifiMode := network.wifiMode
        primaryTransport := (change.policyOn network).chosen.primaryTransport
        fallbackTransport := (change.policyOn network).chosen.fallbackTransport
        failoverDelayMs := change.failoverDelayMs
        recoveryHysteresisMs := change.recoveryHysteresisMs } := by
  have filled :
      (change.policyOn network).fillDelays = change.policyOn network := by
    have failover : ¬ (change.policyOn network).failoverDelayMs = 0 := delays.1
    have recovery : ¬ (change.policyOn network).recoveryHysteresisMs = 0 :=
      delays.2
    rw [NetworkSettings.fillDelays, if_neg failover, if_neg recovery]
  rw [normalizeTransportPolicy_running rfl, filled]
  rfl

variable {first second : NetworkSettings}

theorem used_congr
    (primary : first.primaryTransport = second.primaryTransport)
    (fallback : first.fallbackTransport = second.fallbackTransport) :
    first.wifiUsed = second.wifiUsed ∧
    first.ethernetUsed = second.ethernetUsed := by
  unfold NetworkSettings.wifiUsed NetworkSettings.ethernetUsed
  rw [primary, fallback]
  exact ⟨rfl, rfl⟩

/-- The device supports the same links in both profiles. -/
def SameSupport (first second : NetworkSettings) : Prop :=
  first.wifiSupported = second.wifiSupported ∧
  first.ethernetSupported = second.ethernetSupported ∧
  first.rs485Supported = second.rs485Supported

theorem allows_congr
    (same : SameSupport first second)
    (bus :
      (first.rs485Supported && first.rs485Enabled) =
        (second.rs485Supported && second.rs485Enabled))
    (transport : UInt32) :
    first.allows transport = second.allows transport := by
  rw [Bool.eq_iff_iff, NetworkSettings.allows_iff,
    NetworkSettings.allows_iff, same.1, same.2.1, ← Bool.and_eq_true,
    ← Bool.and_eq_true, bus]

theorem substitute_congr
    (same : SameSupport first second)
    (bus :
      (first.rs485Supported && first.rs485Enabled) =
        (second.rs485Supported && second.rs485Enabled)) :
    first.substitute = second.substitute := by
  rw [NetworkSettings.substitute, NetworkSettings.substitute, same.1,
    same.2.1, bus]

/-- Setting the transports makes a profile exactly if that profile runs on
them and has the bus and the mode of Wi-Fi. -/
theorem choice_policyOn_iff
    (delays : change.Delays)
    {start network : NetworkSettings} (same : SameSupport start network) :
    (normalizeTransportPolicy (change.policyOn start)).choice = network.choice ↔
    RunsOn network change ∧
    (start.rs485Supported && start.rs485Enabled) = network.rs485Enabled ∧
    start.wifiMode = network.wifiMode := by
  have primaryChosen := choosePrimary_policyOn change start
  have fallbackChosen := chosenFallback_policyOn change start
  have busKept
      (bus :
        (start.rs485Supported && start.rs485Enabled) = network.rs485Enabled) :
      (start.rs485Supported && start.rs485Enabled) =
        (network.rs485Supported && network.rs485Enabled) := by
    rw [← bus, ← same.2.2, ← Bool.and_assoc, Bool.and_self]
  rw [normalize_policyOn_choice delays]
  constructor
  · intro made
    have primary :
        (change.policyOn start).chosen.primaryTransport =
          network.primaryTransport :=
      congrArg NetworkChoice.primaryTransport made
    have fallback :
        (change.policyOn start).chosen.fallbackTransport =
          network.fallbackTransport :=
      congrArg NetworkChoice.fallbackTransport made
    have bus := congrArg NetworkChoice.rs485Enabled made
    have used := used_congr primary fallback
    rw [allows_congr same (busKept bus),
      substitute_congr same (busKept bus)] at primaryChosen
    rw [fallback, primary, allows_congr same (busKept bus)] at fallbackChosen
    refine ⟨?_, bus, congrArg NetworkChoice.wifiMode made⟩
    exact
      { failover := (congrArg NetworkChoice.failoverDelayMs made).symm
        recovery := (congrArg NetworkChoice.recoveryHysteresisMs made).symm
        primary := primary.symm.trans primaryChosen
        fallback := fallbackChosen
        wifi := (congrArg NetworkChoice.wifiEnabled made).symm.trans used.1
        ethernet :=
          (congrArg NetworkChoice.ethernetEnabled made).symm.trans used.2 }
  · rintro ⟨runs, bus, mode⟩
    have primary :
        (change.policyOn start).chosen.primaryTransport =
          network.primaryTransport := by
      rw [runs.primary, ← allows_congr same (busKept bus),
        ← substitute_congr same (busKept bus)]
      exact primaryChosen
    have fallback :
        (change.policyOn start).chosen.fallbackTransport =
          network.fallbackTransport := by
      rw [fallbackChosen, primary, allows_congr same (busKept bus)]
      exact runs.fallback.symm
    have used := used_congr primary fallback
    rw [used.1, used.2, primary, fallback, ← runs.wifi, ← runs.ethernet,
      ← runs.failover, ← runs.recovery, bus, mode]
    rfl

/-! ## The whole change -/

/-- The profile is what the change comes to: the device runs on its
transports, and has its bus and its mode of Wi-Fi unless the links are
refused. -/
def AlreadySo (network : NetworkSettings) (change : TransportChange) :
    Prop :=
  RunsOn network change ∧
  if change.Supported network then
    network.rs485Enabled = change.rs485Enabled ∧
    network.wifiMode = change.wifiMode
  else network.rs485Enabled = true → network.rs485Supported = true

theorem linksSet_support
    (network : NetworkSettings) (change : TransportChange) :
    let set :=
      normalizeTransportPolicy
        (applyManualNetworkSelection network change.wifiEnabled
          change.ethernetEnabled change.rs485Enabled change.wifiMode)
    SameSupport set network ∧
    set.rs485Enabled =
        (network.rs485Supported &&
          (network.rs485Supported && change.rs485Enabled)) ∧
      set.wifiMode = change.wifiMode := by
  dsimp only
  rw [normalizeTransportPolicy_running rfl]
  exact ⟨⟨rfl, rfl, rfl⟩, rfl, rfl⟩

/-- A change leaves links, transports and delays as they are exactly if they
are what it comes to. -/
theorem apply_choice_iff
    (delays : change.Delays)
    (world : NetworkWorld) (outcomes : ChangeOutcomes) :
    (change.apply world outcomes).1.settings.choice = world.settings.choice ↔
    AlreadySo world.settings change := by
  have applied :
      (change.apply world outcomes).1.settings =
        normalizeTransportPolicy
          (change.policyOn (change.setLinks world outcomes.links).1.settings) :=
    rfl
  rw [applied, AlreadySo]
  rcases setLinks_cases change world outcomes.links with
    ⟨missing, refused⟩ | ⟨supported, written⟩
  · rw [refused, if_neg missing,
      choice_policyOn_iff delays ⟨rfl, rfl, rfl⟩, Bool.and_eq_right_iff_imp]
    simp only [and_true]
  · rcases linksSet_support world.settings change with
      ⟨same, bus, mode⟩
    rw [written, if_pos supported]
    change
      (normalizeTransportPolicy
          (change.policyOn
            (normalizeTransportPolicy
              (applyManualNetworkSelection world.settings
                change.wifiEnabled change.ethernetEnabled
                change.rs485Enabled change.wifiMode)))).choice =
        _ ↔ _
    have asked :
        (world.settings.rs485Supported && change.rs485Enabled) =
          change.rs485Enabled :=
      Bool.and_eq_right_iff_imp.mpr supported.2.2
    rw [choice_policyOn_iff delays same, bus, mode, same.2.2, asked, asked,
      asked, eq_comm (a := change.rs485Enabled),
      eq_comm (a := change.wifiMode)]

end Endap.Device
