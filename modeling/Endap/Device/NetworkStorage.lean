import Endap.Device.NetworkPolicy
import Endap.Library.Layout
import Endap.Library.Run
import Endap.State.Nvs

/-!
# The stored transport policy

The policy is kept in non-volatile storage as one stamped record, of which
there have been four versions.  A load tells them apart by their size, lays
what it finds over the defaults of the build, and is followed by a
normalisation; every change of the policy is normalised and written at once.

Two facts about whole runs follow.  A policy whose last write succeeded is
loaded again as it was.  And the policies of a run are usable exactly if
neither the record found at the start nor any later call asks for a fallback
that the primary transport leaves switched off.
-/

namespace Endap.Device

open Endap.Library
open Endap.Library.Run
open Endap.State

/-! ## The records -/

/-- `DEVICE_PROFILE_NETWORK_MAGIC`. -/
def networkMagic : UInt32 := 0x454E4450

/-- `DEVICE_PROFILE_NETWORK_VERSION`. -/
def networkVersion : UInt16 := 4

def deviceProfileCrc32 (data : List UInt8) : UInt32 := Layout.crc32 data

/-- `device_profile_network_blob_v4_t` before the checksum. -/
structure NetworkBlobV4 where
  magic : UInt32
  version : UInt16
  wifiEnabled : UInt8
  ethernetEnabled : UInt8
  rs485Enabled : UInt8
  onboardingPending : UInt8
  primaryTransport : UInt8
  fallbackTransport : UInt8
  wifiMode : UInt8
  allowLocalAp : UInt8
  allowDashboard : UInt8
  allowOta : UInt8
  reserved1 : UInt16
  failoverDelayMs : UInt32
  recoveryHysteresisMs : UInt32

/-- The layout of `device_profile_network_blob_v4_t`; two bytes of padding
align the delays. -/
def networkBlobV4 : Layout NetworkBlobV4 :=
  (Layout.u32.andThen
    (Layout.u16.andThen
      (Layout.u8.andThen
        (Layout.u8.andThen
          (Layout.u8.andThen
            (Layout.u8.andThen
              (Layout.u8.andThen
                (Layout.u8.andThen
                  (Layout.u8.andThen
                    (Layout.u8.andThen
                      (Layout.u8.andThen
                        (Layout.u8.andThen
                          (Layout.u16.andThen
                            ((Layout.padded 2 Layout.u32).andThen
                              Layout.u32)))))))))))))).retype
    (fun (magic, version, wifi, ethernet, rs485, onboarding, primary,
        fallback, mode, localAp, dashboard, ota, reserved1, failover,
        recovery) =>
      { magic := magic
        version := version
        wifiEnabled := wifi
        ethernetEnabled := ethernet
        rs485Enabled := rs485
        onboardingPending := onboarding
        primaryTransport := primary
        fallbackTransport := fallback
        wifiMode := mode
        allowLocalAp := localAp
        allowDashboard := dashboard
        allowOta := ota
        reserved1 := reserved1
        failoverDelayMs := failover
        recoveryHysteresisMs := recovery })
    (fun blob =>
      (blob.magic, blob.version, blob.wifiEnabled, blob.ethernetEnabled,
        blob.rs485Enabled, blob.onboardingPending, blob.primaryTransport,
        blob.fallbackTransport, blob.wifiMode, blob.allowLocalAp,
        blob.allowDashboard, blob.allowOta, blob.reserved1,
        blob.failoverDelayMs, blob.recoveryHysteresisMs))
    (fun _ => rfl)

/-- `device_profile_network_blob_v3_t` before the checksum. -/
structure NetworkBlobV3 where
  magic : UInt32
  version : UInt16
  wifiEnabled : UInt8
  ethernetEnabled : UInt8
  rs485Enabled : UInt8
  onboardingPending : UInt8
  primaryTransport : UInt8
  fallbackTransport : UInt8
  wifiMode : UInt8
  reserved0 : UInt8
  failoverDelayMs : UInt32
  recoveryHysteresisMs : UInt32

/-- The layout of `device_profile_network_blob_v3_t`; two bytes of padding
align the delays. -/
def networkBlobV3 : Layout NetworkBlobV3 :=
  (Layout.u32.andThen
    (Layout.u16.andThen
      (Layout.u8.andThen
        (Layout.u8.andThen
          (Layout.u8.andThen
            (Layout.u8.andThen
              (Layout.u8.andThen
                (Layout.u8.andThen
                  (Layout.u8.andThen
                    (Layout.u8.andThen
                      ((Layout.padded 2 Layout.u32).andThen
                        Layout.u32))))))))))).retype
    (fun (magic, version, wifi, ethernet, rs485, onboarding, primary,
        fallback, mode, reserved0, failover, recovery) =>
      { magic := magic
        version := version
        wifiEnabled := wifi
        ethernetEnabled := ethernet
        rs485Enabled := rs485
        onboardingPending := onboarding
        primaryTransport := primary
        fallbackTransport := fallback
        wifiMode := mode
        reserved0 := reserved0
        failoverDelayMs := failover
        recoveryHysteresisMs := recovery })
    (fun blob =>
      (blob.magic, blob.version, blob.wifiEnabled, blob.ethernetEnabled,
        blob.rs485Enabled, blob.onboardingPending, blob.primaryTransport,
        blob.fallbackTransport, blob.wifiMode, blob.reserved0,
        blob.failoverDelayMs, blob.recoveryHysteresisMs))
    (fun _ => rfl)

/-- `device_profile_network_blob_v2_t` before the checksum. -/
structure NetworkBlobV2 where
  magic : UInt32
  version : UInt16
  wifiEnabled : UInt8
  ethernetEnabled : UInt8
  onboardingPending : UInt8
  primaryTransport : UInt8
  fallbackTransport : UInt8
  reserved0 : UInt8
  failoverDelayMs : UInt32
  recoveryHysteresisMs : UInt32

/-- The layout of `device_profile_network_blob_v2_t`. -/
def networkBlobV2 : Layout NetworkBlobV2 :=
  (Layout.u32.andThen
    (Layout.u16.andThen
      (Layout.u8.andThen
        (Layout.u8.andThen
          (Layout.u8.andThen
            (Layout.u8.andThen
              (Layout.u8.andThen
                (Layout.u8.andThen
                  (Layout.u32.andThen Layout.u32))))))))).retype
    (fun (magic, version, wifi, ethernet, onboarding, primary, fallback,
        reserved0, failover, recovery) =>
      { magic := magic
        version := version
        wifiEnabled := wifi
        ethernetEnabled := ethernet
        onboardingPending := onboarding
        primaryTransport := primary
        fallbackTransport := fallback
        reserved0 := reserved0
        failoverDelayMs := failover
        recoveryHysteresisMs := recovery })
    (fun blob =>
      (blob.magic, blob.version, blob.wifiEnabled, blob.ethernetEnabled,
        blob.onboardingPending, blob.primaryTransport,
        blob.fallbackTransport, blob.reserved0, blob.failoverDelayMs,
        blob.recoveryHysteresisMs))
    (fun _ => rfl)

/-- `device_profile_network_blob_v1_t` before the checksum. -/
structure NetworkBlobV1 where
  magic : UInt32
  version : UInt16
  wifiEnabled : UInt8
  ethernetEnabled : UInt8

/-- The layout of `device_profile_network_blob_v1_t`. -/
def networkBlobV1 : Layout NetworkBlobV1 :=
  (Layout.u32.andThen
    (Layout.u16.andThen (Layout.u8.andThen Layout.u8))).retype
    (fun (magic, version, wifi, ethernet) =>
      { magic := magic
        version := version
        wifiEnabled := wifi
        ethernetEnabled := ethernet })
    (fun blob =>
      (blob.magic, blob.version, blob.wifiEnabled, blob.ethernetEnabled))
    (fun _ => rfl)

/-- The sizes by which a load tells the versions apart. -/
example :
    [networkBlobV4.stampedSize, networkBlobV3.stampedSize,
        networkBlobV2.stampedSize, networkBlobV1.stampedSize] =
      [32, 28, 24, 12] := by
  decide

/-! ## Loading -/

/-- The transports that the build has: `CONFIG_ENDAP_WIFI_ENABLED`,
`CONFIG_ENDAP_ETHERNET_ENABLED` and `CONFIG_ENDAP_RS485_ENABLED`. -/
structure NetworkSupport where
  wifi : Bool
  ethernet : Bool
  rs485 : Bool

/-- The profile as `device_profile_init_network_profile` fills it before the
load. -/
def buildDefaults (support : NetworkSupport) : NetworkSettings where
  wifiSupported := support.wifi
  ethernetSupported := support.ethernet
  rs485Supported := support.rs485
  wifiEnabled := support.wifi
  ethernetEnabled := false
  rs485Enabled := false
  wifiMode := 0
  onboardingPending := true
  primaryTransport :=
    if support.wifi then profileTransportWifi
    else if support.ethernet then profileTransportEthernet
    else profileTransportNone
  fallbackTransport := profileTransportNone
  failoverDelayMs := failoverDelayDefaultMs
  recoveryHysteresisMs := recoveryHystDefaultMs
  allowLocalAp := true
  allowDashboard := true
  allowOta := true

/-- The namespace `dev_profile`; a key that is missing or cannot be read is
nothing. -/
structure NetworkNvs where
  nodeProfile : Option UInt8
  network : Option (List UInt8)

/-- The branch of the load for a record of version 4. -/
def loadV4 (network : NetworkSettings) (blob : NetworkBlobV4) :
    NetworkSettings :=
  { network with
    wifiEnabled := network.wifiSupported && blob.wifiEnabled ≠ 0
    ethernetEnabled := network.ethernetSupported && blob.ethernetEnabled ≠ 0
    rs485Enabled := network.rs485Supported && blob.rs485Enabled ≠ 0
    wifiMode := if blob.wifiMode ≤ 2 then blob.wifiMode.toUInt32 else 0
    onboardingPending := blob.onboardingPending ≠ 0
    primaryTransport := blob.primaryTransport.toUInt32
    fallbackTransport := blob.fallbackTransport.toUInt32
    failoverDelayMs := blob.failoverDelayMs
    recoveryHysteresisMs := blob.recoveryHysteresisMs
    allowLocalAp := blob.allowLocalAp ≠ 0
    allowDashboard := blob.allowDashboard ≠ 0
    allowOta := blob.allowOta ≠ 0 }

/-- The branch of the load for a record of version 3. -/
def loadV3 (network : NetworkSettings) (blob : NetworkBlobV3) :
    NetworkSettings :=
  { network with
    wifiEnabled := network.wifiSupported && blob.wifiEnabled ≠ 0
    ethernetEnabled := network.ethernetSupported && blob.ethernetEnabled ≠ 0
    rs485Enabled := network.rs485Supported && blob.rs485Enabled ≠ 0
    wifiMode := if blob.wifiMode ≤ 2 then blob.wifiMode.toUInt32 else 0
    onboardingPending := blob.onboardingPending ≠ 0
    primaryTransport := blob.primaryTransport.toUInt32
    fallbackTransport := blob.fallbackTransport.toUInt32
    failoverDelayMs := blob.failoverDelayMs
    recoveryHysteresisMs := blob.recoveryHysteresisMs
    allowLocalAp := true
    allowDashboard := true
    allowOta := true }

/-- The branch of the load for a record of version 2. -/
def loadV2 (network : NetworkSettings) (blob : NetworkBlobV2) :
    NetworkSettings :=
  { network with
    wifiEnabled := network.wifiSupported && blob.wifiEnabled ≠ 0
    ethernetEnabled := network.ethernetSupported && blob.ethernetEnabled ≠ 0
    rs485Enabled := false
    onboardingPending := blob.onboardingPending ≠ 0
    primaryTransport := blob.primaryTransport.toUInt32
    fallbackTransport := blob.fallbackTransport.toUInt32
    failoverDelayMs := blob.failoverDelayMs
    recoveryHysteresisMs := blob.recoveryHysteresisMs }

/-- `device_profile_apply_legacy_transport_policy`. -/
def applyLegacyTransportPolicy
    (network : NetworkSettings) (wifiEnabled ethernetEnabled : Bool) :
    NetworkSettings :=
  let running :=
    { network with
      onboardingPending := false
      rs485Enabled := false }
  if wifiEnabled && ethernetEnabled then
    { running with
      primaryTransport := profileTransportEthernet
      fallbackTransport := profileTransportWifi }
  else if ethernetEnabled then
    { running with
      primaryTransport := profileTransportEthernet
      fallbackTransport := profileTransportNone }
  else if wifiEnabled then
    { running with
      primaryTransport := profileTransportWifi
      fallbackTransport := profileTransportNone }
  else
    { running with
      primaryTransport := profileTransportNone
      fallbackTransport := profileTransportNone }

/-- The branch of the load for a record of version 1. -/
def loadV1 (network : NetworkSettings) (blob : NetworkBlobV1) :
    NetworkSettings :=
  let flags :=
    { network with
      wifiEnabled := network.wifiSupported && blob.wifiEnabled ≠ 0
      ethernetEnabled := network.ethernetSupported && blob.ethernetEnabled ≠ 0
      rs485Enabled := false }
  applyLegacyTransportPolicy flags flags.wifiEnabled flags.ethernetEnabled

/-- A record of the given size has the magic number, the version of that size
and an intact checksum. -/
def Genuine {Blob : Type} (body : Layout Blob)
    (header : Blob → UInt32 × UInt16) (version : UInt16)
    (bytes : List UInt8) : Prop :=
  header (body.read bytes) = (networkMagic, version) ∧
  Layout.Intact deviceProfileCrc32 body bytes

instance {Blob : Type} (body : Layout Blob)
    (header : Blob → UInt32 × UInt16) (version : UInt16)
    (bytes : List UInt8) : Decidable (Genuine body header version bytes) :=
  inferInstanceAs (Decidable (_ ∧ _))

def NetworkBlobV4.header (blob : NetworkBlobV4) : UInt32 × UInt16 :=
  (blob.magic, blob.version)

def NetworkBlobV3.header (blob : NetworkBlobV3) : UInt32 × UInt16 :=
  (blob.magic, blob.version)

def NetworkBlobV2.header (blob : NetworkBlobV2) : UInt32 × UInt16 :=
  (blob.magic, blob.version)

def NetworkBlobV1.header (blob : NetworkBlobV1) : UInt32 × UInt16 :=
  (blob.magic, blob.version)

/-- What a load makes of the record in the flash. -/
def loadBlob (network : NetworkSettings) (bytes : List UInt8) :
    NetworkSettings :=
  if bytes.length = networkBlobV4.stampedSize then
    if Genuine networkBlobV4 NetworkBlobV4.header networkVersion bytes then
      loadV4 network (networkBlobV4.read bytes)
    else network
  else if bytes.length = networkBlobV3.stampedSize then
    if Genuine networkBlobV3 NetworkBlobV3.header 3 bytes then
      loadV3 network (networkBlobV3.read bytes)
    else network
  else if bytes.length = networkBlobV2.stampedSize then
    if Genuine networkBlobV2 NetworkBlobV2.header 2 bytes then
      loadV2 network (networkBlobV2.read bytes)
    else network
  else if bytes.length = networkBlobV1.stampedSize then
    if Genuine networkBlobV1 NetworkBlobV1.header 1 bytes ∧
        (networkBlobV1.read bytes).wifiEnabled ≤ 1 ∧
        (networkBlobV1.read bytes).ethernetEnabled ≤ 1 then
      loadV1 network (networkBlobV1.read bytes)
    else network
  else network

/-- `device_profile_load_network_config`, the part that fills the profile. -/
def loadNetworkConfig (network : NetworkSettings) (nvs : NetworkNvs) :
    NetworkSettings :=
  let started :=
    match nvs.nodeProfile with
    | some _ => network
    | none => { network with onboardingPending := true }
  match nvs.network with
  | none => started
  | some bytes => loadBlob started bytes

def nodeProfileField : UInt8 := 1

def nodeProfileMax : UInt8 := 5

/-- `device_profile_load_network_config`, the part that fills
`current_node_profile`. -/
def loadNodeProfile (current : UInt8) (nvs : NetworkNvs) : UInt8 :=
  match nvs.nodeProfile with
  | some value => if value < nodeProfileMax then value else current
  | none => nodeProfileField

/-- `device_profile_init_network_profile`. -/
def initNetworkProfile (support : NetworkSupport) (nvs : NetworkNvs) :
    NetworkSettings :=
  normalizeTransportPolicy (loadNetworkConfig (buildDefaults support) nvs)

/-! ## Changes -/

/-- The static state of `device_profile.c` that the functions change, and the
flash. -/
structure NetworkWorld where
  settings : NetworkSettings
  nodeProfile : UInt8
  nvs : NetworkNvs

/-- The world after the start. -/
def NetworkWorld.boot (support : NetworkSupport) (nvs : NetworkNvs) :
    NetworkWorld where
  settings := initNetworkProfile support nvs
  nodeProfile := loadNodeProfile nodeProfileField nvs
  nvs := nvs

/-- `device_profile_network_config_result_t`. -/
inductive NetworkConfigResult where
  | ok
  | unsupported
  | persistFailed
deriving DecidableEq

/-- A flag in a record. -/
def flagByte (flag : Bool) : UInt8 :=
  if flag then 1 else 0

/-- The record that `device_profile_persist_network_config` writes. -/
def blobOf (network : NetworkSettings) : NetworkBlobV4 where
  magic := networkMagic
  version := networkVersion
  wifiEnabled := flagByte network.wifiEnabled
  ethernetEnabled := flagByte network.ethernetEnabled
  rs485Enabled := flagByte network.rs485Enabled
  onboardingPending := flagByte network.onboardingPending
  primaryTransport := network.primaryTransport.toUInt8
  fallbackTransport := network.fallbackTransport.toUInt8
  wifiMode := network.wifiMode.toUInt8
  allowLocalAp := flagByte network.allowLocalAp
  allowDashboard := flagByte network.allowDashboard
  allowOta := flagByte network.allowOta
  reserved1 := 0
  failoverDelayMs := network.failoverDelayMs
  recoveryHysteresisMs := network.recoveryHysteresisMs

/-- `device_profile_persist_network_config`. -/
def persistNetworkConfig (world : NetworkWorld) (outcome : NvsOutcome) :
    NetworkWorld × NetworkConfigResult :=
  let record :=
    Layout.stamp deviceProfileCrc32 networkBlobV4 (blobOf world.settings)
  ({ world with
      nvs :=
        { world.nvs with
          network := nvsWrite outcome world.nvs.network (some record) } },
    if outcome.succeeds then .ok else .persistFailed)

/-- `device_profile_apply_manual_network_selection`. -/
def applyManualNetworkSelection
    (network : NetworkSettings)
    (wifiEnabled ethernetEnabled rs485Enabled : Bool) (wifiMode : UInt32) :
    NetworkSettings :=
  let wifiAllowed := network.wifiSupported && wifiEnabled
  let ethernetAllowed := network.ethernetSupported && ethernetEnabled
  let rs485Allowed := network.rs485Supported && rs485Enabled
  let primary :=
    if ethernetAllowed then profileTransportEthernet
    else if wifiAllowed then profileTransportWifi
    else if rs485Allowed then profileTransportRs485
    else profileTransportNone
  let fallback :=
    if primary ≠ profileTransportEthernet ∧ ethernetAllowed = true then
      profileTransportEthernet
    else if primary ≠ profileTransportWifi ∧ wifiAllowed = true then
      profileTransportWifi
    else if primary ≠ profileTransportRs485 ∧ rs485Allowed = true then
      profileTransportRs485
    else profileTransportNone
  { network with
    onboardingPending := false
    wifiEnabled := wifiAllowed
    ethernetEnabled := ethernetAllowed
    rs485Enabled := rs485Allowed
    wifiMode := wifiMode
    primaryTransport := primary
    fallbackTransport := fallback }

/-- `device_profile_set_network_enabled`. -/
def setNetworkEnabled
    (world : NetworkWorld)
    (wifiEnabled ethernetEnabled rs485Enabled : Bool) (wifiMode : UInt32)
    (outcome : NvsOutcome) : NetworkWorld × NetworkConfigResult :=
  if (wifiEnabled && !world.settings.wifiSupported) = true then
    (world, .unsupported)
  else if (ethernetEnabled && !world.settings.ethernetSupported) = true then
    (world, .unsupported)
  else if (rs485Enabled && !world.settings.rs485Supported) = true then
    (world, .unsupported)
  else
    persistNetworkConfig
      { world with
        settings :=
          normalizeTransportPolicy
            (applyManualNetworkSelection world.settings wifiEnabled
              ethernetEnabled rs485Enabled wifiMode) }
      outcome

/-- The policy that `device_profile_set_transport_policy` normalises. -/
def NetworkSettings.withPolicy
    (network : NetworkSettings) (onboardingPending : Bool)
    (primary fallback failoverDelayMs recoveryHysteresisMs : UInt32) :
    NetworkSettings :=
  { network with
    onboardingPending := onboardingPending
    primaryTransport := primary
    fallbackTransport := fallback
    failoverDelayMs := failoverDelayMs
    recoveryHysteresisMs := recoveryHysteresisMs }

/-- `device_profile_set_transport_policy`. -/
def setTransportPolicy
    (world : NetworkWorld) (onboardingPending : Bool)
    (primary fallback failoverDelayMs recoveryHysteresisMs : UInt32)
    (outcome : NvsOutcome) : NetworkWorld × NetworkConfigResult :=
  persistNetworkConfig
    { world with
      settings :=
        normalizeTransportPolicy
          (world.settings.withPolicy onboardingPending primary fallback
            failoverDelayMs recoveryHysteresisMs) }
    outcome

/-- The calls that change the policy. -/
inductive NetworkRequest where
  | setEnabled (wifi ethernet rs485 : Bool) (wifiMode : UInt32)
      (outcome : NvsOutcome)
  | setPolicy (onboardingPending : Bool)
      (primary fallback failoverDelayMs recoveryHysteresisMs : UInt32)
      (outcome : NvsOutcome)

/-- One call. -/
def networkStep (world : NetworkWorld) :
    NetworkRequest → NetworkWorld × NetworkConfigResult
  | .setEnabled wifi ethernet rs485 wifiMode outcome =>
      setNetworkEnabled world wifi ethernet rs485 wifiMode outcome
  | .setPolicy onboardingPending primary fallback failover recovery
      outcome =>
      setTransportPolicy world onboardingPending primary fallback failover
        recovery outcome

/-! ## Usable along a run -/

/-- The fields of a record ask for a stranded fallback. -/
def StoredStrands (support : NetworkSupport)
    (rs485Enabled onboardingPending : Bool)
    (primary fallback : UInt8) : Prop :=
  AsksStranded
    { buildDefaults support with
      rs485Enabled := support.rs485 && rs485Enabled
      onboardingPending := onboardingPending
      primaryTransport := primary.toUInt32
      fallbackTransport := fallback.toUInt32 }

/-- The record in the flash asks for a stranded fallback.  One of version 1
holds no transports. -/
def BlobStrands (support : NetworkSupport) (bytes : List UInt8) : Prop :=
  if bytes.length = networkBlobV4.stampedSize then
    Genuine networkBlobV4 NetworkBlobV4.header networkVersion bytes ∧
    StoredStrands support ((networkBlobV4.read bytes).rs485Enabled ≠ 0)
      ((networkBlobV4.read bytes).onboardingPending ≠ 0)
      (networkBlobV4.read bytes).primaryTransport
      (networkBlobV4.read bytes).fallbackTransport
  else if bytes.length = networkBlobV3.stampedSize then
    Genuine networkBlobV3 NetworkBlobV3.header 3 bytes ∧
    StoredStrands support ((networkBlobV3.read bytes).rs485Enabled ≠ 0)
      ((networkBlobV3.read bytes).onboardingPending ≠ 0)
      (networkBlobV3.read bytes).primaryTransport
      (networkBlobV3.read bytes).fallbackTransport
  else if bytes.length = networkBlobV2.stampedSize then
    Genuine networkBlobV2 NetworkBlobV2.header 2 bytes ∧
    StoredStrands support false
      ((networkBlobV2.read bytes).onboardingPending ≠ 0)
      (networkBlobV2.read bytes).primaryTransport
      (networkBlobV2.read bytes).fallbackTransport
  else False

/-- The flash at the start asks for a stranded fallback. -/
def NvsStrands (support : NetworkSupport) (nvs : NetworkNvs) : Prop :=
  ∃ bytes, nvs.network = some bytes ∧ BlobStrands support bytes

/-- A call asks for a stranded fallback. -/
def RequestStrands (network : NetworkSettings) : NetworkRequest → Prop
  | .setEnabled _ _ _ _ _ => False
  | .setPolicy onboardingPending primary fallback failover recovery _ =>
      AsksStranded
        (network.withPolicy onboardingPending primary fallback failover
          recovery)

theorem loadNetworkConfig_defaults
    (support : NetworkSupport) (nvs : NetworkNvs) :
    loadNetworkConfig (buildDefaults support) nvs =
      match nvs.network with
      | none => buildDefaults support
      | some bytes => loadBlob (buildDefaults support) bytes := by
  unfold loadNetworkConfig
  cases nvs.nodeProfile <;> rfl

theorem buildDefaults_not_stranded (support : NetworkSupport) :
    ¬ AsksStranded (buildDefaults support) := by
  rintro ⟨running, _⟩
  cases running

theorem applyLegacyTransportPolicy_not_stranded
    (network : NetworkSettings) (wifi ethernet : Bool) :
    ¬ AsksStranded (applyLegacyTransportPolicy network wifi ethernet) := by
  unfold AsksStranded Stranded applyLegacyTransportPolicy
  cases wifi with
  | false =>
      cases ethernet with
      | false => simp [profileTransportNone, profileTransportWifi,
          profileTransportEthernet]
      | true => simp
  | true =>
      cases ethernet <;> simp

theorem loadBlob_stranded_iff
    (support : NetworkSupport) (bytes : List UInt8) :
    AsksStranded (loadBlob (buildDefaults support) bytes) ↔
    BlobStrands support bytes := by
  have defaults := buildDefaults_not_stranded support
  unfold loadBlob BlobStrands StoredStrands
  by_cases isV4 : bytes.length = networkBlobV4.stampedSize
  · rw [if_pos isV4, if_pos isV4]
    split_ifs with genuine
    · rw [asksStranded_iff, asksStranded_iff]
      exact (and_iff_right genuine).symm
    · exact iff_of_false defaults fun stored => genuine stored.1
  · rw [if_neg isV4, if_neg isV4]
    by_cases isV3 : bytes.length = networkBlobV3.stampedSize
    · rw [if_pos isV3, if_pos isV3]
      split_ifs with genuine
      · rw [asksStranded_iff, asksStranded_iff]
        exact (and_iff_right genuine).symm
      · exact iff_of_false defaults fun stored => genuine stored.1
    · rw [if_neg isV3, if_neg isV3]
      by_cases isV2 : bytes.length = networkBlobV2.stampedSize
      · rw [if_pos isV2, if_pos isV2, Bool.and_false]
        split_ifs with genuine
        · rw [asksStranded_iff, asksStranded_iff]
          exact (and_iff_right genuine).symm
        · exact iff_of_false defaults fun stored => genuine stored.1
      · rw [if_neg isV2, if_neg isV2]
        split_ifs with isV1 genuine
        · exact iff_false_intro (applyLegacyTransportPolicy_not_stranded _ _ _)
        · exact iff_false_intro defaults
        · exact iff_false_intro defaults

/-- The profile after the start is usable unless the flash asks for a stranded
fallback. -/
theorem usable_initNetworkProfile_iff
    (support : NetworkSupport) (nvs : NetworkNvs) :
    Usable (initNetworkProfile support nvs) ↔ ¬ NvsStrands support nvs := by
  unfold initNetworkProfile NvsStrands
  rw [usable_normalizeTransportPolicy_iff, loadNetworkConfig_defaults]
  cases nvs.network with
  | none =>
      simp only [buildDefaults_not_stranded, not_false_eq_true, true_iff]
      rintro ⟨bytes, impossible, _⟩
      cases impossible
  | some bytes =>
      simp only [loadBlob_stranded_iff, Option.some.injEq, exists_eq_left']

/-- The links chosen by hand strand nothing: the primary transport is another
one only if neither Wi-Fi nor Ethernet is used. -/
theorem applyManualNetworkSelection_not_stranded
    (network : NetworkSettings) (wifi ethernet rs485 : Bool)
    (wifiMode : UInt32) :
    ¬ AsksStranded
      (applyManualNetworkSelection network wifi ethernet rs485 wifiMode) := by
  rintro ⟨_, ⟨notWifi, notEthernet, isIp⟩, _⟩
  unfold applyManualNetworkSelection at notWifi notEthernet isIp
  dsimp only at notWifi notEthernet isIp
  by_cases ethernetAllowed : (network.ethernetSupported && ethernet) = true
  · rw [if_pos ethernetAllowed] at notEthernet
    exact notEthernet rfl
  · rw [if_neg ethernetAllowed] at notWifi
    by_cases wifiAllowed : (network.wifiSupported && wifi) = true
    · rw [if_pos wifiAllowed] at notWifi
      exact notWifi rfl
    · rw [if_neg fun both => ethernetAllowed both.2,
        if_neg fun both => wifiAllowed both.2] at isIp
      split_ifs at isIp <;> exact absurd isIp (by decide)

variable {world : NetworkWorld}

theorem usable_networkStep_iff
    (usable : Usable world.settings)
    (request : NetworkRequest) :
    Usable (networkStep world request).1.settings ↔
    ¬ RequestStrands world.settings request := by
  cases request with
  | setEnabled wifi ethernet rs485 wifiMode outcome =>
      refine iff_of_true ?_ id
      change
        Usable
          (setNetworkEnabled world wifi ethernet rs485 wifiMode
            outcome).1.settings
      unfold setNetworkEnabled
      split_ifs
      · exact usable
      · exact usable
      · exact usable
      · exact
          (usable_normalizeTransportPolicy_iff _).mpr
            (applyManualNetworkSelection_not_stranded _ _ _ _ _)
  | setPolicy onboardingPending primary fallback failover recovery outcome =>
      exact usable_normalizeTransportPolicy_iff _

/-- The policies of a run are all usable if and only if neither the flash at
the start nor a call asks for a stranded fallback. -/
theorem network_usable_along_runs
    (support : NetworkSupport) (nvs : NetworkNvs)
    (requests : List NetworkRequest) :
    (Usable (NetworkWorld.boot support nvs).settings ∧
        ∀ made ∈ history networkStep (.boot support nvs) requests,
          Usable made.after.settings) ↔
      ¬ NvsStrands support nvs ∧
      ∀ made ∈ history networkStep (.boot support nvs) requests,
        ¬ RequestStrands made.before.settings made.action := by
  have start := usable_initNetworkProfile_iff support nvs
  have along (usable : Usable (NetworkWorld.boot support nvs).settings) :=
    history_invariant_iff
      (fun world : NetworkWorld => Usable world.settings)
      (fun world request => ¬ RequestStrands world.settings request)
      (fun _ request holds => usable_networkStep_iff holds request)
      usable requests
  constructor
  · rintro ⟨usable, later⟩
    exact ⟨start.mp usable, (along usable).mp later⟩
  · rintro ⟨harmless, later⟩
    have usable := start.mpr harmless
    exact ⟨usable, (along usable).mpr later⟩

/-- A device with every link and an empty flash: the bus is switched on, and
then made the primary transport with Wi-Fi as its fallback. -/
def busWithWifiFallback : List NetworkRequest :=
  [.setEnabled false false true 0 .committed,
    .setPolicy false profileTransportRs485 profileTransportWifi 5000 15000
      .committed]

/-- The device is left with a fallback that is switched off. -/
theorem wifi_fallback_disabled :
    ¬ ∀ made ∈
        history networkStep
          (.boot { wifi := true, ethernet := true, rs485 := true }
            { nodeProfile := none, network := none })
          busWithWifiFallback,
        Usable made.after.settings := by
  intro usable
  have last := usable _ (List.mem_cons_of_mem _ (List.mem_cons_self ..))
  have policy := last rfl
  have enabled := policy.fallback (.inl rfl)
  revert enabled
  decide +kernel

/-! ## Policies that are loaded again -/

/-- The profile is that of the build, and its numbers are those that a record
can hold. -/
structure WithinRange (support : NetworkSupport) (network : NetworkSettings) :
    Prop where
  wifi : network.wifiSupported = support.wifi
  ethernet : network.ethernetSupported = support.ethernet
  rs485 : network.rs485Supported = support.rs485
  mode : network.wifiMode ≤ 2
  primary : network.primaryTransport ≤ 255
  fallback : network.fallbackTransport ≤ 255

theorem toUInt32_le (byte : UInt8) : byte.toUInt32 ≤ 255 := by
  rw [UInt32.le_iff_toNat_le, UInt8.toNat_toUInt32]
  exact Nat.le_of_lt_succ byte.toNat_lt

theorem isLink_le {transport : UInt32} (link : IsLink transport) :
    transport ≤ 255 := by
  obtain rfl | rfl | rfl := link
  · decide
  · decide
  · decide

variable {support : NetworkSupport} {network : NetworkSettings}

theorem WithinRange.normalize
    (within : WithinRange support network) :
    WithinRange support (normalizeTransportPolicy network) := by
  cases pending : network.onboardingPending with
  | true =>
      have onboarded :
          normalizeTransportPolicy network = network.fillDelays.onboard :=
        if_pos pending
      have transport : network.fillDelays.onboardingTransport ≤ 255 := by
        unfold NetworkSettings.onboardingTransport
        split_ifs <;> decide
      rw [onboarded]
      exact
        { wifi := within.wifi
          ethernet := within.ethernet
          rs485 := within.rs485
          mode := within.mode
          primary := transport
          fallback := (by decide : profileTransportNone ≤ 255) }
  | false =>
      have primary : network.fillDelays.choosePrimary ≤ 255 :=
        NetworkSettings.choosePrimary_cases (· ≤ 255) within.primary
          (by decide) (fun _ => isLink_le)
      have fallback : network.fillDelays.chosen.fallbackTransport ≤ 255 := by
        unfold NetworkSettings.chosen NetworkSettings.chooseFallback
        dsimp only
        split_ifs
        · decide
        · exact within.fallback
      rw [normalizeTransportPolicy_running pending]
      exact
        { wifi := within.wifi
          ethernet := within.ethernet
          rs485 := within.rs485
          mode := within.mode
          primary := primary
          fallback := fallback }

theorem buildDefaults_within (support : NetworkSupport) :
    WithinRange support (buildDefaults support) where
  wifi := rfl
  ethernet := rfl
  rs485 := rfl
  mode := (by decide : (0 : UInt32) ≤ 2)
  primary := by
    unfold buildDefaults
    dsimp only
    split_ifs <;> decide
  fallback := (by decide : profileTransportNone ≤ 255)

theorem clampedMode_le (mode : UInt8) :
    (if mode ≤ 2 then mode.toUInt32 else 0) ≤ 2 := by
  split_ifs with small
  · rw [UInt8.le_iff_toNat_le] at small
    rw [UInt32.le_iff_toNat_le, UInt8.toNat_toUInt32]
    exact small
  · decide

theorem applyLegacyTransportPolicy_within
    (within : WithinRange support network) (wifi ethernet : Bool) :
    WithinRange support
      (applyLegacyTransportPolicy network wifi ethernet) := by
  have transports : ∀ primary fallback : UInt32,
      primary ≤ 255 → fallback ≤ 255 →
      WithinRange support
        { network with
          onboardingPending := false
          rs485Enabled := false
          primaryTransport := primary
          fallbackTransport := fallback } :=
    fun _ _ primary fallback =>
      { wifi := within.wifi
        ethernet := within.ethernet
        rs485 := within.rs485
        mode := within.mode
        primary := primary
        fallback := fallback }
  unfold applyLegacyTransportPolicy
  dsimp only
  split_ifs
  · exact transports _ _ (by decide) (by decide)
  · exact transports _ _ (by decide) (by decide)
  · exact transports _ _ (by decide) (by decide)
  · exact transports _ _ (by decide) (by decide)

theorem loadBlob_within (support : NetworkSupport) (bytes : List UInt8) :
    WithinRange support (loadBlob (buildDefaults support) bytes) := by
  have defaults := buildDefaults_within support
  unfold loadBlob
  split_ifs
  · exact
      { wifi := rfl
        ethernet := rfl
        rs485 := rfl
        mode := clampedMode_le _
        primary := toUInt32_le _
        fallback := toUInt32_le _ }
  · exact defaults
  · exact
      { wifi := rfl
        ethernet := rfl
        rs485 := rfl
        mode := clampedMode_le _
        primary := toUInt32_le _
        fallback := toUInt32_le _ }
  · exact defaults
  · exact
      { wifi := rfl
        ethernet := rfl
        rs485 := rfl
        mode := defaults.mode
        primary := toUInt32_le _
        fallback := toUInt32_le _ }
  · exact defaults
  · refine applyLegacyTransportPolicy_within ?_ _ _
    exact
      { wifi := rfl
        ethernet := rfl
        rs485 := rfl
        mode := defaults.mode
        primary := defaults.primary
        fallback := defaults.fallback }
  · exact defaults
  · exact defaults

theorem initNetworkProfile_within
    (support : NetworkSupport) (nvs : NetworkNvs) :
    WithinRange support (initNetworkProfile support nvs) := by
  unfold initNetworkProfile
  rw [loadNetworkConfig_defaults]
  cases nvs.network with
  | none => exact (buildDefaults_within support).normalize
  | some bytes => exact (loadBlob_within support bytes).normalize

theorem NormalPolicy.supported
    (normal : NormalPolicy network) :
    (network.wifiEnabled = true → network.wifiSupported = true) ∧
    (network.ethernetEnabled = true → network.ethernetSupported = true) ∧
    (network.rs485Enabled = true → network.rs485Supported = true) := by
  cases pending : network.onboardingPending with
  | true =>
      rw [← normal.onboarding pending]
      refine ⟨id, ?_, ?_⟩
      · intro off
        cases off
      · intro off
        cases off
  | false =>
      have running := normal.running pending
      have primary := running.primary
      have fallback := running.fallback
      rw [NetworkSettings.allows_iff] at primary fallback
      refine ⟨?_, ?_, running.rs485⟩
      · intro enabled
        rw [running.wifi, NetworkSettings.wifiUsed,
          decide_eq_true_eq] at enabled
        exact enabled.elim primary.1 fun used => fallback.1 used.2
      · intro enabled
        rw [running.ethernet, NetworkSettings.ethernetUsed,
          decide_eq_true_eq] at enabled
        exact enabled.elim primary.2.1 fun used => fallback.2.1 used.2

theorem flagByte_ne_zero (flag : Bool) : decide (flagByte flag ≠ 0) = flag := by
  cases flag <;> rfl

theorem and_flagByte
    {supported flag : Bool} (enabled : flag = true → supported = true) :
    (supported && decide (flagByte flag ≠ 0)) = flag := by
  rw [flagByte_ne_zero, Bool.and_eq_right_iff_imp]
  exact enabled

theorem toUInt8_toUInt32 {value : UInt32} (small : value ≤ 255) :
    value.toUInt8.toUInt32 = value := by
  apply UInt32.toNat_inj.mp
  rw [UInt8.toNat_toUInt32, UInt32.toNat_toUInt8]
  rw [UInt32.le_iff_toNat_le] at small
  exact Nat.mod_eq_of_lt (Nat.lt_succ_of_le small)

theorem loadV4_blobOf
    (within : WithinRange support network) (normal : NormalPolicy network) :
    loadV4 (buildDefaults support) (blobOf network) = network := by
  obtain ⟨wifi, ethernet, rs485⟩ := normal.supported
  have mode :
      (if network.wifiMode.toUInt8 ≤ 2 then
          network.wifiMode.toUInt8.toUInt32
        else 0) = network.wifiMode := by
    have small := within.mode
    rw [UInt32.le_iff_toNat_le] at small
    have fits : network.wifiMode ≤ 255 := by
      rw [UInt32.le_iff_toNat_le]
      exact small.trans (by decide)
    have accepted : network.wifiMode.toUInt8 ≤ 2 := by
      rw [UInt8.le_iff_toNat_le, ← UInt8.toNat_toUInt32, toUInt8_toUInt32 fits]
      exact small
    rw [if_pos accepted, toUInt8_toUInt32 fits]
  unfold loadV4 blobOf buildDefaults
  dsimp only
  rw [← within.wifi, ← within.ethernet, ← within.rs485, and_flagByte wifi,
    and_flagByte ethernet, and_flagByte rs485, mode, flagByte_ne_zero,
    flagByte_ne_zero, flagByte_ne_zero, flagByte_ne_zero,
    toUInt8_toUInt32 within.primary, toUInt8_toUInt32 within.fallback]

/-- The flash holds the record of the profile. -/
def SavedProfile (world : NetworkWorld) : Prop :=
  world.nvs.network =
    some (Layout.stamp deviceProfileCrc32 networkBlobV4 (blobOf world.settings))

theorem initNetworkProfile_saved
    (within : WithinRange support world.settings)
    (normal : NormalPolicy world.settings) (saved : SavedProfile world) :
    initNetworkProfile support world.nvs = world.settings := by
  have size :=
    Layout.stamp_length deviceProfileCrc32 networkBlobV4 (blobOf world.settings)
  have body :=
    Layout.read_stamp deviceProfileCrc32 networkBlobV4 (blobOf world.settings)
  have genuine :
      Genuine networkBlobV4 NetworkBlobV4.header networkVersion
        (Layout.stamp deviceProfileCrc32 networkBlobV4
          (blobOf world.settings)) := by
    refine ⟨?_, Layout.intact_stamp _ _ _⟩
    rw [body]
    rfl
  unfold initNetworkProfile
  rw [loadNetworkConfig_defaults, saved]
  unfold loadBlob
  dsimp only
  rw [if_pos size, if_pos genuine, body, loadV4_blobOf within normal]
  exact normalizeTransportPolicy_of_normal normal

/-! ## Reboots along a run -/

/-- The arguments of a call: a mode of the enumeration, transports of one
byte. -/
def NetworkRequest.InRange : NetworkRequest → Prop
  | .setEnabled _ _ _ wifiMode _ => wifiMode ≤ 2
  | .setPolicy _ primary fallback _ _ _ => primary ≤ 255 ∧ fallback ≤ 255

/-- The last call that wrote the record reports success. -/
def LastPersistSucceeded
    (past : List (Transition NetworkWorld NetworkRequest NetworkConfigResult)) :
    Prop :=
  ((past.map Transition.output).filter (· ≠ .unsupported)).getLast? = some .ok

instance
    (past : List (Transition NetworkWorld NetworkRequest NetworkConfigResult)) :
    Decidable (LastPersistSucceeded past) :=
  inferInstanceAs (Decidable (_ = _))

/-- What one call does: it refuses and changes nothing, or it normalises a
profile within the range and writes it. -/
theorem networkStep_cases
    (within : WithinRange support world.settings) {request : NetworkRequest}
    (inRange : request.InRange) :
    networkStep world request = (world, .unsupported) ∨
    ∃ network outcome,
      WithinRange support network ∧
      networkStep world request =
        persistNetworkConfig
          { world with settings := normalizeTransportPolicy network }
          outcome := by
  cases request with
  | setEnabled wifi ethernet rs485 wifiMode outcome =>
      change
        setNetworkEnabled world wifi ethernet rs485 wifiMode outcome = _ ∨ _
      have selected :
          WithinRange support
            (applyManualNetworkSelection world.settings wifi ethernet rs485
              wifiMode) :=
        { wifi := within.wifi
          ethernet := within.ethernet
          rs485 := within.rs485
          mode := inRange
          primary := by
            unfold applyManualNetworkSelection
            dsimp only
            split_ifs <;> decide
          fallback := by
            unfold applyManualNetworkSelection
            dsimp only
            split_ifs <;> decide }
      unfold setNetworkEnabled
      split_ifs with noWifi noEthernet noRs485
      · exact .inl rfl
      · exact .inl rfl
      · exact .inl rfl
      · refine .inr ⟨_, outcome, selected, ?_⟩
        change setNetworkEnabled world wifi ethernet rs485 wifiMode outcome = _
        unfold setNetworkEnabled
        rw [if_neg noWifi, if_neg noEthernet, if_neg noRs485]
  | setPolicy onboardingPending primary fallback failover recovery outcome =>
      refine .inr ⟨_, outcome, ?_, rfl⟩
      exact
        { wifi := within.wifi
          ethernet := within.ethernet
          rs485 := within.rs485
          mode := within.mode
          primary := inRange.1
          fallback := inRange.2 }

/-- What holds between the calls of a run and the world it reaches. -/
structure Persisted (support : NetworkSupport)
    (past : List (Transition NetworkWorld NetworkRequest NetworkConfigResult))
    (world : NetworkWorld) : Prop where
  within : WithinRange support world.settings
  normal : NormalPolicy world.settings
  saved : LastPersistSucceeded past → SavedProfile world

variable {past : List (Transition NetworkWorld NetworkRequest NetworkConfigResult)}

theorem LastPersistSucceeded.snoc_unsupported
    {made : Transition NetworkWorld NetworkRequest NetworkConfigResult}
    (refused : made.output = .unsupported) :
    LastPersistSucceeded (past ++ [made]) ↔ LastPersistSucceeded past := by
  unfold LastPersistSucceeded
  rw [List.map_append, List.filter_append]
  simp [refused]

theorem LastPersistSucceeded.snoc_written
    {made : Transition NetworkWorld NetworkRequest NetworkConfigResult}
    (written : made.output ≠ .unsupported) :
    LastPersistSucceeded (past ++ [made]) ↔ made.output = .ok := by
  unfold LastPersistSucceeded
  rw [List.map_append, List.filter_append]
  simp [written]

theorem Persisted.snoc
    (persisted : Persisted support past world)
    {request : NetworkRequest} (inRange : request.InRange) :
    Persisted support (past ++ [call networkStep world request])
      (networkStep world request).1 := by
  obtain refused | ⟨network, outcome, within, written⟩ :=
    networkStep_cases persisted.within inRange
  · have output :
        (call networkStep world request).output = .unsupported :=
      congrArg Prod.snd refused
    rw [refused]
    exact
      { within := persisted.within
        normal := persisted.normal
        saved := fun last =>
          persisted.saved
            ((LastPersistSucceeded.snoc_unsupported output).mp last) }
  · have output :
        (call networkStep world request).output =
          if outcome.succeeds then .ok else .persistFailed :=
      congrArg Prod.snd written
    have notRefused :
        (call networkStep world request).output ≠ .unsupported := by
      rw [output]
      split_ifs
      · simp
      · simp
    refine
      { within := by
          rw [written]
          exact within.normalize
        normal := by
          rw [written]
          exact normalizeTransportPolicy_normal network
        saved := ?_ }
    intro last
    rw [LastPersistSucceeded.snoc_written notRefused, output] at last
    have succeeds : outcome.succeeds = true := by
      by_contra fails
      rw [if_neg fails] at last
      cases last
    rw [written]
    exact nvsWrite_of_succeeds succeeds _ _

theorem persisted_along_runs
    (support : NetworkSupport) (nvs : NetworkNvs)
    {requests : List NetworkRequest}
    (inRange : ∀ request ∈ requests, request.InRange) :
    Persisted support (history networkStep (.boot support nvs) requests)
      (final networkStep (.boot support nvs) requests) := by
  induction requests using List.reverseRecOn with
  | nil =>
      exact
        { within := initNetworkProfile_within support nvs
          normal := normalizeTransportPolicy_normal _
          saved := fun last => by cases last }
  | append_singleton earlier request induction =>
      rw [history_snoc, final_snoc]
      have before :=
        induction fun other member =>
          inRange other (List.mem_append_left _ member)
      exact
        before.snoc
          (inRange request
            (List.mem_append_right _ (List.mem_singleton_self request)))

/-- A record of one of the four versions, by its size, its magic number, its
version and its checksum. -/
def GenuineBlob (bytes : List UInt8) : Prop :=
  bytes.length = networkBlobV4.stampedSize ∧
      Genuine networkBlobV4 NetworkBlobV4.header networkVersion bytes ∨
    bytes.length = networkBlobV3.stampedSize ∧
    Genuine networkBlobV3 NetworkBlobV3.header 3 bytes ∨
    bytes.length = networkBlobV2.stampedSize ∧
    Genuine networkBlobV2 NetworkBlobV2.header 2 bytes ∨
    bytes.length = networkBlobV1.stampedSize ∧
    Genuine networkBlobV1 NetworkBlobV1.header 1 bytes

theorem loadBlob_of_not_genuine
    (network : NetworkSettings) {bytes : List UInt8}
    (foreign : ¬ GenuineBlob bytes) :
    loadBlob network bytes = network := by
  unfold loadBlob
  split_ifs with isV4 genuine isV3 genuine isV2 genuine isV1 genuine
  · exact absurd (.inl ⟨isV4, genuine⟩) foreign
  · rfl
  · exact absurd (.inr (.inl ⟨isV3, genuine⟩)) foreign
  · rfl
  · exact absurd (.inr (.inr (.inl ⟨isV2, genuine⟩))) foreign
  · rfl
  · exact absurd (.inr (.inr (.inr ⟨isV1, genuine.1⟩))) foreign
  · rfl
  · rfl

theorem buildDefaults_normal (support : NetworkSupport) :
    NormalPolicy (buildDefaults support) where
  failover := (by decide : failoverDelayDefaultMs ≠ 0)
  recovery := (by decide : recoveryHystDefaultMs ≠ 0)
  onboarding := fun _ => rfl
  running := fun running => by cases running

theorem initNetworkProfile_of_not_genuine
    (support : NetworkSupport) (nodeProfile : Option UInt8)
    {bytes : List UInt8} (foreign : ¬ GenuineBlob bytes) :
    initNetworkProfile support
        { nodeProfile := nodeProfile, network := some bytes } =
      buildDefaults support := by
  unfold initNetworkProfile
  rw [loadNetworkConfig_defaults]
  dsimp only
  rw [loadBlob_of_not_genuine _ foreign]
  exact normalizeTransportPolicy_of_normal (buildDefaults_normal support)

/-- A policy whose last write succeeded is loaded again as it was;
normalisation is idempotent; and a record that is not genuine leaves the
defaults of the build. -/
theorem network_profile_persists (support : NetworkSupport) :
    (∀ (nvs : NetworkNvs) (requests : List NetworkRequest),
        (∀ request ∈ requests, request.InRange) →
        LastPersistSucceeded
            (history networkStep (.boot support nvs) requests) →
          initNetworkProfile support
              (final networkStep (.boot support nvs) requests).nvs =
            (final networkStep (.boot support nvs) requests).settings) ∧
      (∀ network : NetworkSettings,
        normalizeTransportPolicy (normalizeTransportPolicy network) =
          normalizeTransportPolicy network) ∧
      ∀ (nodeProfile : Option UInt8) (bytes : List UInt8),
        ¬ GenuineBlob bytes →
        initNetworkProfile support
            { nodeProfile := nodeProfile, network := some bytes } =
          buildDefaults support := by
  refine
    ⟨?_, normalizeTransportPolicy_idem,
      fun nodeProfile _ => initNetworkProfile_of_not_genuine support nodeProfile⟩
  intro nvs requests inRange last
  have persisted := persisted_along_runs support nvs inRange
  exact
    initNetworkProfile_saved persisted.within persisted.normal
      (persisted.saved last)

/-- The bus with a fallback is loaded again, and an empty record leaves the
defaults. -/
theorem bus_policy_reloaded :
    initNetworkProfile { wifi := true, ethernet := true, rs485 := true }
          (final networkStep
            (.boot { wifi := true, ethernet := true, rs485 := true }
              { nodeProfile := some nodeProfileField, network := none })
            busWithWifiFallback).nvs =
        (final networkStep
          (.boot { wifi := true, ethernet := true, rs485 := true }
            { nodeProfile := some nodeProfileField, network := none })
          busWithWifiFallback).settings ∧
      initNetworkProfile { wifi := true, ethernet := true, rs485 := true }
          { nodeProfile := some nodeProfileField, network := some [] } =
        buildDefaults { wifi := true, ethernet := true, rs485 := true } := by
  have persists :=
    network_profile_persists { wifi := true, ethernet := true, rs485 := true }
  constructor
  · refine
      persists.1 { nodeProfile := some nodeProfileField, network := none }
        busWithWifiFallback ?_ ?_
    · intro request member
      rcases List.mem_cons.mp member with rfl | later
      · exact (by decide : (0 : UInt32) ≤ 2)
      · rw [List.mem_singleton.mp later]
        exact
          (by decide : profileTransportRs485 ≤ 255 ∧ profileTransportWifi ≤ 255)
    · decide +kernel
  · apply persists.2.2
    rintro (⟨size, _⟩ | ⟨size, _⟩ | ⟨size, _⟩ | ⟨size, _⟩) <;> cases size

end Endap.Device
