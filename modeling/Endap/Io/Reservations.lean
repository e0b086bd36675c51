import Endap.Device.Network
import Endap.Io.BindingTable

/-!
# Pins that are taken

Two pieces of the device profile know which pins of the chip are taken.  One
is asked before a channel is bound to a pin; the other names the owner of a
pin in the inventory.  They list the pins of the console, of the sensors, of
the RS485 transceiver and of the Ethernet controller separately.

The first one knows neither the two pins of the AHT10 nor the receiver-enable
pin of the transceiver.
-/

namespace Endap.Io

open Endap.Device

structure DeviceSensorProfile where
  dht11Enabled : Bool
  dht11Gpio : Int
  ds18b20Enabled : Bool
  ds18b20Gpio : Int
  aht10Enabled : Bool
  aht10SdaGpio : Int
  aht10SclGpio : Int

/-- `device_profile_ethernet_mode_t`. -/
inductive EthernetMode where
  | none
  | internalLan8720
  | spiW5500
deriving DecidableEq

/-- `device_network_w5500_profile_t`, its pins. -/
structure W5500Profile where
  mosiGpio : Int
  misoGpio : Int
  sclkGpio : Int
  csGpio : Int
  intGpio : Int
  resetGpio : Int

/-- `device_network_profile_t`, with the part that names pins. -/
structure WiredNetworkProfile extends NetworkProfile where
  ethernetMode : EthernetMode
  w5500 : W5500Profile

section

variable (sensors : DeviceSensorProfile) (network : WiredNetworkProfile)

def deviceProfileGpioReservedForPlatform (gpio : Int) : Bool :=
  if gpio = 1 ∨ gpio = 3 then true
  else if sensors.dht11Enabled ∧ gpio = sensors.dht11Gpio then true
  else if sensors.ds18b20Enabled ∧ gpio = sensors.ds18b20Gpio then true
  else if network.rs485Supported ∧ network.rs485Enabled then
    gpio = 25 ∨ gpio = 26 ∨ gpio = 27
  else false

def deviceProfileW5500IsConfiguredFromProfile : Bool :=
  if network.ethernetMode ≠ .spiW5500 then false
  else
    network.w5500.mosiGpio ≠ gpioNumNc ∧ network.w5500.misoGpio ≠ gpioNumNc ∧
    network.w5500.sclkGpio ≠ gpioNumNc ∧ network.w5500.csGpio ≠ gpioNumNc

/-- One of the pins of the Ethernet controller. -/
def W5500Profile.holds (w5500 : W5500Profile) (gpio : Int) : Bool :=
  gpio = w5500.mosiGpio ∨ gpio = w5500.misoGpio ∨ gpio = w5500.sclkGpio ∨
  gpio = w5500.csGpio ∨ gpio = w5500.intGpio ∨ gpio = w5500.resetGpio

def deviceProfileGpioReservedForNetwork (gpio : Int) : Bool :=
  if ¬ network.ethernetSupported ∨ ¬ network.ethernetEnabled then false
  else if ¬ deviceProfileW5500IsConfiguredFromProfile network then false
  else network.w5500.holds gpio

/-- `device_profile_input_gpio_allowed` and
`device_profile_output_gpio_allowed`. -/
def deviceProfileGpioAllowed (side : Side) (gpio : Int) : Bool :=
  side.gpioAllowed
    (fun pin =>
      deviceProfileGpioReservedForPlatform sensors network pin ||
        deviceProfileGpioReservedForNetwork network pin)
    gpio

def deviceProfileGpioReservedBy (gpio : Int) : Option String :=
  if gpio = 1 ∨ gpio = 3 then some "UART/Console"
  else if gpio = 0 ∨ gpio = 12 ∨ gpio = 15 then some "Strapping/Boot"
  else if 6 ≤ gpio ∧ gpio ≤ 11 then some "Flash SPI"
  else if sensors.aht10Enabled ∧
      (gpio = sensors.aht10SdaGpio ∨ gpio = sensors.aht10SclGpio) then
    some "I2C/AHT10"
  else if sensors.dht11Enabled ∧ gpio = sensors.dht11Gpio then some "DHT11"
  else if sensors.ds18b20Enabled ∧ gpio = sensors.ds18b20Gpio then
    some "DS18B20"
  else if (network.rs485Supported ∧ network.rs485Enabled) ∧
      (gpio = 14 ∨ gpio = 25 ∨ gpio = 26 ∨ gpio = 27) then
    some "RS-485"
  else if (network.ethernetSupported ∧ network.ethernetEnabled ∧
        deviceProfileW5500IsConfiguredFromProfile network) ∧
      network.w5500.holds gpio then
    some "W5500"
  else none

/-! ## Owners -/

/-- The RS485 transceiver is in use. -/
def Rs485Wired : Prop :=
  network.rs485Supported = true ∧ network.rs485Enabled = true

/-- The Ethernet controller is in use, and the pin is one of its pins. -/
def HeldByW5500 (gpio : Int) : Prop :=
  (network.ethernetSupported = true ∧ network.ethernetEnabled = true ∧
      deviceProfileW5500IsConfiguredFromProfile network = true) ∧
    network.w5500.holds gpio = true

/-- The AHT10 is in use, and the pin is one of its pins. -/
def HeldByAht10 (gpio : Int) : Prop :=
  sensors.aht10Enabled = true ∧
  (gpio = sensors.aht10SdaGpio ∨ gpio = sensors.aht10SclGpio)

/-- A sensor on one wire is in use on the pin. -/
def HeldByOneWire (gpio : Int) : Prop :=
  sensors.dht11Enabled = true ∧ gpio = sensors.dht11Gpio ∨
  sensors.ds18b20Enabled = true ∧ gpio = sensors.ds18b20Gpio

/-- The pin may be offered to a channel. -/
def Offered (gpio : Int) : Prop := ∃ side : Side, gpio ∈ side.gpioOptions

/-- A pin that channels may have, on which only the AHT10 or the
receiver-enable line of the transceiver is. -/
def Overlooked (gpio : Int) : Prop :=
  Offered gpio ∧
  (HeldByAht10 sensors gpio ∨ Rs485Wired network ∧ gpio = 14) ∧
  ¬ HeldByOneWire sensors gpio ∧
  ¬ (Rs485Wired network ∧ (gpio = 25 ∨ gpio = 26 ∨ gpio = 27)) ∧
  ¬ HeldByW5500 network gpio

end

section

variable {sensors : DeviceSensorProfile} {network : WiredNetworkProfile}
variable {gpio : Int}

/-- The pins of the console, of the boot and of the flash are never
offered. -/
theorem Offered.ordinary (offered : Offered gpio) :
    ¬ (gpio = 1 ∨ gpio = 3) ∧ ¬ (gpio = 0 ∨ gpio = 12 ∨ gpio = 15) ∧
    ¬ (6 ≤ gpio ∧ gpio ≤ 11) := by
  rcases offered with ⟨side, listed⟩
  cases side with
  | input | output =>
      simp only [Side.gpioOptions, List.mem_cons, List.not_mem_nil,
        or_false] at listed
      omega

theorem deviceProfileGpioAllowed_iff (side : Side) :
    deviceProfileGpioAllowed sensors network side gpio = true ↔
    gpio ∈ side.gpioOptions ∧ ¬ HeldByOneWire sensors gpio ∧
    ¬ (Rs485Wired network ∧ (gpio = 25 ∨ gpio = 26 ∨ gpio = 27)) ∧
    ¬ HeldByW5500 network gpio := by
  rw [deviceProfileGpioAllowed, Side.gpioAllowed]
  by_cases listed : gpio ∈ side.gpioOptions
  · have ordinary := (Offered.ordinary ⟨side, listed⟩).1
    simp only [listed, decide_true, Bool.true_and, true_and,
      deviceProfileGpioReservedForPlatform, if_neg ordinary,
      deviceProfileGpioReservedForNetwork, HeldByOneWire, Rs485Wired,
      HeldByW5500]
    grind
  · simp [listed]

theorem deviceProfileGpioReservedBy_none_iff (offered : Offered gpio) :
    deviceProfileGpioReservedBy sensors network gpio = none ↔
    ¬ HeldByAht10 sensors gpio ∧ ¬ HeldByOneWire sensors gpio ∧
    ¬ (Rs485Wired network ∧
    (gpio = 14 ∨ gpio = 25 ∨ gpio = 26 ∨ gpio = 27)) ∧
    ¬ HeldByW5500 network gpio := by
  rcases offered.ordinary with ⟨console, boot, flash⟩
  simp only [deviceProfileGpioReservedBy, if_neg console, if_neg boot,
    if_neg flash, HeldByAht10, HeldByOneWire, Rs485Wired, HeldByW5500]
  grind

end

/-- A pin that a channel may have is without an owner if and only if it is not
an overlooked one. -/
theorem allowed_pin_unreserved_iff
    (sensors : DeviceSensorProfile) (network : WiredNetworkProfile)
    (gpio : Int) :
    (deviceProfileGpioAllowed sensors network .input gpio = true ∨
          deviceProfileGpioAllowed sensors network .output gpio = true →
        deviceProfileGpioReservedBy sensors network gpio = none) ↔
      ¬ Overlooked sensors network gpio := by
  simp only [deviceProfileGpioAllowed_iff]
  constructor
  · rintro free ⟨offered, owned, oneWire, rs485, w5500⟩
    have unowned : deviceProfileGpioReservedBy sensors network gpio = none := by
      apply free
      rcases offered with ⟨side, listed⟩
      cases side with
      | input => exact .inl ⟨listed, oneWire, rs485, w5500⟩
      | output => exact .inr ⟨listed, oneWire, rs485, w5500⟩
    rw [deviceProfileGpioReservedBy_none_iff offered] at unowned
    rcases owned with aht10 | ⟨wired, isEnable⟩
    · exact unowned.1 aht10
    · exact unowned.2.2.1 ⟨wired, .inl isEnable⟩
  · intro seen allowed
    have free :
        Offered gpio ∧ ¬ HeldByOneWire sensors gpio ∧
        ¬ (Rs485Wired network ∧ (gpio = 25 ∨ gpio = 26 ∨ gpio = 27)) ∧
        ¬ HeldByW5500 network gpio := by
      rcases allowed with ⟨listed, free⟩ | ⟨listed, free⟩
      · exact ⟨⟨.input, listed⟩, free⟩
      · exact ⟨⟨.output, listed⟩, free⟩
    rcases free with ⟨offered, oneWire, rs485, w5500⟩
    have unowned :
        ¬ (HeldByAht10 sensors gpio ∨ Rs485Wired network ∧ gpio = 14) :=
      fun owned => seen ⟨offered, owned, oneWire, rs485, w5500⟩
    rw [deviceProfileGpioReservedBy_none_iff offered]
    refine ⟨fun aht10 => unowned (.inl aht10), oneWire, ?_, w5500⟩
    rintro ⟨wired, isEnable | isData⟩
    · exact unowned (.inr ⟨wired, isEnable⟩)
    · exact rs485 ⟨wired, isData⟩

def sensorsWithAht10 : DeviceSensorProfile where
  dht11Enabled := false
  dht11Gpio := -1
  ds18b20Enabled := false
  ds18b20Gpio := -1
  aht10Enabled := true
  aht10SdaGpio := 21
  aht10SclGpio := 22

def networkWithRs485 : WiredNetworkProfile where
  wifiSupported := true
  ethernetSupported := false
  rs485Supported := true
  wifiEnabled := true
  ethernetEnabled := false
  rs485Enabled := true
  wifiMode := .infra
  primaryTransport := .wifi
  ethernetMode := .none
  w5500 := ⟨-1, -1, -1, -1, -1, -1⟩

/-- An input may be bound to the data line of the AHT10, and an output to the
receiver-enable line of the transceiver. -/
theorem reserved_pins_allowed :
    deviceProfileGpioAllowed sensorsWithAht10 networkWithRs485 .input 21 =
          true ∧
        deviceProfileGpioReservedBy sensorsWithAht10 networkWithRs485 21 =
          some "I2C/AHT10" ∧
      deviceProfileGpioAllowed sensorsWithAht10 networkWithRs485 .output 14 =
          true ∧
      deviceProfileGpioReservedBy sensorsWithAht10 networkWithRs485 14 =
        some "RS-485" := by
  decide

end Endap.Io
