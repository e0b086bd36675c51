import Endap.Io.Binding
import Endap.Library.CText

/-!
# The tables of bindings

The inputs and the outputs are bound in two tables of the same form, and the
functions that change them come in pairs.  Here each pair is one function of
the side it works on.

A binding has a physical pin and an address: a backend, an instance of it and
an endpoint.  The address of a pin of the chip is the pin; the address of an
analog input is the channel of the converter behind the pin.  Whether a
binding is free is decided by its address alone.
-/

namespace Endap.Io

open Endap.Device
open Endap.Library

/-! ## Sides -/

/-- The table that a function works on. -/
inductive Side where
  | input
  | output
deriving DecidableEq

/-- The other table. -/
def Side.other : Side → Side
  | .input => .output
  | .output => .input

/-- The fields of `device_input_profile_t` and `device_output_profile_t` that a
binding takes over. -/
structure ChannelProfile where
  id : UInt16
  name : String
  gpio : Int
deriving DecidableEq

/-- `device_profile_find_input` and `device_profile_find_output`. -/
def Side.findProfile (side : Side) (id : UInt16) : Option ChannelProfile :=
  match side with
  | .input =>
      (deviceProfileFindInput id).map fun profile =>
        { id := profile.id, name := profile.name, gpio := profile.gpio }
  | .output =>
      (deviceProfileFindOutput id).map fun profile =>
        { id := profile.id, name := profile.name, gpio := profile.gpio }

/-- The channels that are bound by default: the first
`ENDAP_DEFAULT_ACTIVE_INPUTS` and `ENDAP_DEFAULT_ACTIVE_OUTPUTS` of the
profile. -/
def Side.defaultProfiles : Side → List ChannelProfile
  | .input =>
      (inputProfileEntries.take defaultActiveInputs).map fun profile =>
        { id := profile.id, name := profile.name, gpio := profile.gpio }
  | .output =>
      (outputProfileEntries.take 6).map fun profile =>
        { id := profile.id, name := profile.name, gpio := profile.gpio }

/-- `device_profile_is_default_input_id` and
`device_profile_is_default_output_id`. -/
def Side.isDefaultId (side : Side) (id : UInt16) : Bool :=
  side.defaultProfiles.any fun profile => profile.id = id

/-- `IO_BINDING_MAX_INPUTS` and `IO_BINDING_MAX_OUTPUTS`. -/
def Side.maxEntries : Side → Nat
  | .input => ioBindingMaxInputs
  | .output => ioBindingMaxOutputs

/-- `io_binding_default_input_role_for` and
`io_binding_default_output_role_for`. -/
def Side.defaultRole : Side → String
  | .input => "Input"
  | .output => "Actuator"

/-- `input_gpio_options` and `output_gpio_options`. -/
def Side.gpioOptions : Side → List Int
  | .input =>
      [16, 17, 18, 19, 21, 22, 23, 25, 26, 27, 32, 33, 34, 35, 36, 39]
  | .output =>
      [4, 5, 13, 14, 16, 17, 18, 19, 21, 22, 23, 25, 26, 27, 32, 33]

/-- `device_profile_input_gpio_allowed` and
`device_profile_output_gpio_allowed`; `reserved` are the pins taken by the
platform and by the network. -/
def Side.gpioAllowed
    (side : Side) (reserved : Int → Bool) (gpio : Int) : Bool :=
  gpio ∈ side.gpioOptions && !reserved gpio

/-! ## Addresses -/

/-- `DEVICE_CHANNEL_BACKEND_GPIO`. -/
def backendGpio : UInt32 := 0

/-- `DEVICE_CHANNEL_BACKEND_MCP23X17`. -/
def backendMcp : UInt32 := 1

/-- `DEVICE_CHANNEL_BACKEND_ADC_NATIVE`. -/
def backendAdcNative : UInt32 := 2

/-- `DEVICE_CHANNEL_BACKEND_ADC_EXTERNAL`. -/
def backendAdcExternal : UInt32 := 3

/-- What the checks for conflicts compare. -/
structure Address where
  backend : UInt32
  backendInstance : Int
  endpointIndex : Int
deriving DecidableEq

/-- The address of a pin of the chip. -/
def Address.pin (gpio : Int) : Address where
  backend := backendGpio
  backendInstance := 0
  endpointIndex := gpio

/-- `io_binding_backend_selectable_now`; the build supports the expander. -/
def Side.selectable (side : Side) (backend : UInt32) : Bool :=
  match side with
  | .input =>
      backend = backendGpio ∨ backend = backendMcp ∨ backend = backendAdcNative
  | .output => backend = backendGpio ∨ backend = backendMcp

/-- `io_binding_mcp_address_valid`: two expanders of sixteen channels. -/
def mcpAddressValid (backendInstance endpointIndex : Int) : Bool :=
  0 ≤ backendInstance ∧ backendInstance < 2 ∧
  0 ≤ endpointIndex ∧ endpointIndex < 16

/-- `io_binding_backend_address_valid`. -/
def Side.addressValid (side : Side) (reserved : Int → Bool) (gpio : Int)
    (address : Address) : Bool :=
  if address.backend = backendGpio then side.gpioAllowed reserved gpio
  else if address.backend = backendMcp then
    side.selectable address.backend &&
      mcpAddressValid address.backendInstance address.endpointIndex
  else if address.backend = backendAdcNative then
    side = .input ∧ side.selectable address.backend = true ∧
    analogEndpoint gpio = some address.endpointIndex
  else false

/-! ## Bindings -/

/-- A text of a binding. -/
abbrev BindingText := Fin ioBindingTextLen → UInt8

/-- `io_binding_input_entry_t` and `io_binding_output_entry_t`. -/
structure Binding where
  id : UInt16
  gpio : Int16
  backendInstance : Int16
  endpointIndex : Int16
  backend : UInt8
  channelClass : UInt8
  reserved0 : UInt16
  name : BindingText
  role : BindingText

/-- The address of a binding. -/
def Binding.address (binding : Binding) : Address where
  backend := binding.backend.toUInt32
  backendInstance := binding.backendInstance.toInt
  endpointIndex := binding.endpointIndex.toInt

/-- The physical pin that a binding occupies: that of the backends on the chip
itself, unless it is not connected. -/
def Binding.pin (binding : Binding) : Option Int :=
  if (binding.backend.toUInt32 = backendGpio ∨
        binding.backend.toUInt32 = backendAdcNative) ∧
      binding.gpio.toInt ≠ gpioNumNc then
    some binding.gpio.toInt
  else none

/-- `io_binding_copy_text`. -/
def bindingText (text : List UInt8) : BindingText :=
  CText.strncpy (fun _ => 0)
    (text.takeWhile fun character => character ≠ 0) (ioBindingTextLen - 1)

/-- `channel_class` of a binding. -/
def Side.channelClass (side : Side) (backend : UInt32) : UInt8 :=
  match side with
  | .input =>
      if backend = backendAdcNative ∨ backend = backendAdcExternal then 2
      else 0
  | .output => 1

/-- `io_binding_prepare_input_entry` and `io_binding_prepare_output_entry`. -/
def Side.prepareEntry (side : Side) (name role : List UInt8) (gpio : Int)
    (address : Address) (profile : ChannelProfile) : Binding where
  id := profile.id
  gpio := Int16.ofInt gpio
  backendInstance := Int16.ofInt address.backendInstance
  endpointIndex := Int16.ofInt address.endpointIndex
  backend := address.backend.toUInt8
  channelClass := side.channelClass address.backend
  reserved0 := 0
  name := bindingText (textOr name (textBytes profile.name))
  role := bindingText (textOr role (textBytes side.defaultRole))

/-- `input_entries` and `output_entries`, as far as they are in use. -/
abbrev BindingTables := Side → List Binding

/-! ## Conflicts -/

/-- `io_binding_result_t`. -/
inductive BindingResult where
  | ok
  | notFound
  | invalidGpio
  | gpioConflict
  | alreadyActive
  | limitReached
  | protectedChannel
  | invalidBackend
  | unsupportedBackend
  | invalidEndpoint
  | addressConflict
deriving DecidableEq

/-- `io_binding_address_in_use_by_input` and
`io_binding_address_in_use_by_output`. -/
def addressInUse (entries : List Binding) (address : Address)
    (ignoreId : UInt16) : Bool :=
  entries.any fun entry => entry.id ≠ ignoreId ∧ entry.address = address

/-- `io_binding_validate_input_address` and
`io_binding_validate_output_address`. -/
def Side.validateAddress (side : Side) (reserved : Int → Bool)
    (tables : BindingTables) (id : UInt16) (gpio : Int)
    (address : Address) : BindingResult :=
  if side.selectable address.backend = false then
    if address.backend = backendMcp then .unsupportedBackend
    else .invalidBackend
  else if side.addressValid reserved gpio address = false then
    if address.backend = backendGpio then .invalidGpio
    else .invalidEndpoint
  else if addressInUse (tables side) address id ||
      addressInUse (tables side.other) address 0 then
    if address.backend = backendGpio then .gpioConflict
    else .addressConflict
  else .ok

/-! ## Requests -/

/-- The arguments of the functions that bind a channel. -/
structure BindingArguments where
  id : UInt16
  name : List UInt8
  role : List UInt8
  backend : UInt32
  gpio : Int
  backendInstance : Int
  endpointIndex : Int

/-- Where a request puts which pin and which address. -/
structure Placement where
  profile : ChannelProfile
  gpio : Int
  address : Address

/-- The physical pin that a placement asks for. -/
def Placement.pin (placement : Placement) : Option Int :=
  if (placement.address.backend = backendGpio ∨
        placement.address.backend = backendAdcNative) ∧
      placement.gpio ≠ gpioNumNc then
    some placement.gpio
  else none

/-- `io_binding_add_input_ex` and `io_binding_add_output_ex` before the check
of the address. -/
def Side.placeNew (side : Side) (entries : List Binding)
    (arguments : BindingArguments) : Except BindingResult Placement :=
  match side.findProfile arguments.id with
  | none => .error .notFound
  | some profile =>
      if (entries.any fun entry => entry.id = arguments.id) then
        .error .alreadyActive
      else if side.maxEntries ≤ entries.length then .error .limitReached
      else if arguments.backend = backendGpio then
        if arguments.gpio < 0 then .error .invalidGpio
        else
          .ok
            { profile := profile
              gpio := arguments.gpio
              address := .pin arguments.gpio }
      else if arguments.backend = backendMcp then
        .ok
          { profile := profile
            gpio := gpioNumNc
            address :=
              { backend := backendMcp
                backendInstance := arguments.backendInstance
                endpointIndex := arguments.endpointIndex } }
      else .error .invalidBackend

/-- The address in `io_binding_set_input_ex` and `io_binding_set_output_ex`;
only inputs have the converter. -/
def Side.placeOver (side : Side) (entry : Binding)
    (profile : ChannelProfile) (arguments : BindingArguments) :
    Except BindingResult Placement :=
  let resolvedGpio :=
    if 0 ≤ arguments.gpio then arguments.gpio else entry.gpio.toInt
  if arguments.backend = backendGpio then
    .ok
      { profile := profile
        gpio := resolvedGpio
        address := .pin resolvedGpio }
  else if arguments.backend = backendMcp then
    .ok
      { profile := profile
        gpio := gpioNumNc
        address :=
          { backend := backendMcp
            backendInstance :=
              if arguments.backendInstance < 0 then
                entry.backendInstance.toInt
              else arguments.backendInstance
            endpointIndex :=
              if arguments.endpointIndex < 0 then entry.endpointIndex.toInt
              else arguments.endpointIndex } }
  else if arguments.backend = backendAdcNative ∧ side = .input then
    .ok
      { profile := profile
        gpio := resolvedGpio
        address :=
          { backend := backendAdcNative
            backendInstance :=
              if arguments.backendInstance < 0 then 0
              else arguments.backendInstance
            endpointIndex :=
              (analogEndpoint resolvedGpio).getD arguments.endpointIndex } }
  else .error .invalidBackend

/-! ## Valid addresses -/

variable {side : Side} {gpio : Int}

theorem toInt_ofInt_of_option
    (listed : gpio ∈ side.gpioOptions) :
    (Int16.ofInt gpio).toInt = gpio := by
  have all :
      (side.gpioOptions.all fun gpio =>
        decide ((Int16.ofInt gpio).toInt = gpio)) = true := by
    cases side <;> decide
  exact of_decide_eq_true (List.all_eq_true.mp all gpio listed)

/-- A valid address is one of a pin of the chip, of an expander or of the
converter. -/
theorem Side.addressValid_cases
    {reserved : Int → Bool} {address : Address}
    (valid : side.addressValid reserved gpio address = true) :
    address.backend = backendGpio ∧ gpio ∈ side.gpioOptions ∨
    address.backend = backendMcp ∨
    address.backend = backendAdcNative ∧ side = .input ∧
    analogEndpoint gpio = some address.endpointIndex := by
  unfold Side.addressValid at valid
  split_ifs at valid with isGpio isMcp isAdc
  · left
    rw [Side.gpioAllowed, Bool.and_eq_true, decide_eq_true_eq] at valid
    exact ⟨isGpio, valid.1⟩
  · exact .inr (.inl isMcp)
  · right
    right
    rw [decide_eq_true_eq] at valid
    exact ⟨isAdc, valid.1, valid.2.2⟩

theorem Side.addressValid_of_ok
    {reserved : Int → Bool} {tables : BindingTables}
    {id : UInt16} {address : Address}
    (passed : side.validateAddress reserved tables id gpio address = .ok) :
    side.addressValid reserved gpio address = true := by
  by_contra invalid
  rw [Bool.not_eq_true] at invalid
  unfold Side.validateAddress at passed
  rw [if_pos invalid] at passed
  split_ifs at passed

end Endap.Io
