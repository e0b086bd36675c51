import Mathlib.Data.UInt

/-!
# The network part of the device profile

The profile says which transports the device has and which of them are
switched on.  ESP-NOW and mesh have no switch of their own: they are always
allowed.
-/

namespace Endap.Device

/-- `device_profile_transport_t`; a message may carry any other value. -/
inductive ProfileTransport where
  | none
  | wifi
  | ethernet
  | rs485
  | espnow
  | mesh
  | unknown (value : UInt8)
deriving DecidableEq

/-- `device_profile_wifi_mode_t`; a message may carry any other value. -/
inductive WifiMode where
  | infra
  | mesh
  | now
  | unknown (value : UInt8)
deriving DecidableEq

/-- `device_network_profile_t`, the fields that choose a transport. -/
structure NetworkProfile where
  wifiSupported : Bool
  ethernetSupported : Bool
  rs485Supported : Bool
  wifiEnabled : Bool
  ethernetEnabled : Bool
  rs485Enabled : Bool
  wifiMode : WifiMode
  primaryTransport : ProfileTransport

/-- `device_profile_transport_allowed_in_network`. -/
def transportAllowedInNetwork
    (transport : ProfileTransport) (network : NetworkProfile) : Bool :=
  match transport with
  | .wifi => network.wifiSupported
  | .ethernet => network.ethernetSupported
  | .rs485 => network.rs485Supported && network.rs485Enabled
  | .none => true
  | .espnow => true
  | .mesh => true
  | .unknown _ => true

/-- `device_profile_transport_enabled`. -/
def transportEnabled
    (transport : ProfileTransport) (network : NetworkProfile) : Bool :=
  if transportAllowedInNetwork transport network then
    match transport with
    | .wifi => network.wifiEnabled
    | .ethernet => network.ethernetEnabled
    | .rs485 => network.rs485Enabled
    | .none => true
    | .espnow => true
    | .mesh => true
    | .unknown _ => true
  else
    false

end Endap.Device
