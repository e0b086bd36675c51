import Endap.Device.Profile
import Mathlib.Data.List.OfFn

/-!
# Bindings of the channels

A binding gives an input or an output of the device the pin, or the port of an
expander, that it is connected to.  The I/O driver reads the bindings once, at
boot.

Bindings that were stored by the first version of the firmware name outputs
without their pins, and every output takes the pin of its profile.  Two
outputs of the profile have the same pin, and nothing keeps a record from
naming both of them.
-/

namespace Endap.Io

open Endap.Device

def ioBindingMaxInputs : Nat := 16

def ioBindingMaxOutputs : Nat := 16

/-- `ENDAP_DEFAULT_ACTIVE_INPUTS`. -/
def defaultActiveInputs : Nat := 6

/-- `IO_BINDING_NAME_LEN` and `IO_BINDING_ROLE_LEN`. -/
def ioBindingTextLen : Nat := 24

/-- `device_channel_backend_t`. -/
inductive ChannelBackend where
  | gpio
  | mcp23x17
  | adcNative
  | adcExternal
deriving DecidableEq

/-- `io_binding_input_entry_t`; only inputs of the profile are bound. -/
structure IoBindingInputEntry where
  id : UInt16
  gpio : Int
  backendInstance : Int
  endpointIndex : Int
  backend : ChannelBackend
  name : List UInt8
  role : List UInt8
  known : id ∈ inputProfile

/-- `io_binding_output_entry_t`; only outputs of the profile are bound. -/
structure IoBindingOutputEntry where
  id : UInt16
  gpio : Int
  backendInstance : Int
  endpointIndex : Int
  backend : ChannelBackend
  name : List UInt8
  role : List UInt8
  known : id ∈ outputProfile

/-- `input_entries` and `output_entries`. -/
structure IoBindings where
  inputEntries : List IoBindingInputEntry
  outputEntries : List IoBindingOutputEntry

/-! ## Views -/

/-- The fields of `io_binding_input_view_t` that the driver reads. -/
structure IoBindingInputView where
  id : UInt16
  gpio : Int
  backend : ChannelBackend
deriving DecidableEq

/-- The fields of `io_binding_output_view_t` that the driver reads. -/
structure IoBindingOutputView where
  id : UInt16
  gpio : Int

/-- `io_binding_get_input` of an entry of the table: the first entry with the
same identifier is shown. -/
def ioBindingGetInput (bindings : IoBindings)
    (entry : IoBindingInputEntry) : IoBindingInputView :=
  let first :=
    (bindings.inputEntries.find? fun other => other.id = entry.id).getD entry
  { id := entry.id, gpio := first.gpio, backend := first.backend }

/-- `io_binding_get_output` of an entry of the table. -/
def ioBindingGetOutput (bindings : IoBindings)
    (entry : IoBindingOutputEntry) : IoBindingOutputView :=
  let first :=
    (bindings.outputEntries.find? fun other => other.id = entry.id).getD entry
  { id := entry.id, gpio := first.gpio }

/-- `io_binding_export_inputs` into an array with room for all inputs. -/
def ioBindingExportInputs (bindings : IoBindings) : List IoBindingInputView :=
  bindings.inputEntries.map (ioBindingGetInput bindings)

/-- `io_binding_export_outputs` into an array with room for all outputs. -/
def ioBindingExportOutputs (bindings : IoBindings) : List IoBindingOutputView :=
  bindings.outputEntries.map (ioBindingGetOutput bindings)

theorem exportOutputs_gpio
    {bindings : IoBindings} {first second : IoBindingOutputView}
    (firstMember : first ∈ ioBindingExportOutputs bindings)
    (secondMember : second ∈ ioBindingExportOutputs bindings)
    (same : first.id = second.id) : first.gpio = second.gpio := by
  rcases List.mem_map.mp firstMember with ⟨entry, inTable, rfl⟩
  rcases List.mem_map.mp secondMember with ⟨other, otherInTable, rfl⟩
  have sameId : entry.id = other.id := same
  have found :
      (bindings.outputEntries.find? fun third => third.id = entry.id).isSome
        := by
    rw [List.find?_isSome]
    exact ⟨entry, inTable, decide_eq_true rfl⟩
  rcases Option.isSome_iff_exists.mp found with ⟨third, isThird⟩
  have otherFound := isThird
  rw [sameId] at otherFound
  simp only [ioBindingGetOutput, isThird, otherFound, Option.getD_some]

/-! ## Entries -/

/-- The bytes of a text. -/
def textBytes (text : String) : List UInt8 :=
  text.toList.map fun character => UInt8.ofNat character.toNat

/-- `io_binding_copy_text`, the characters before the terminator. -/
def ioBindingCopyText (text : List UInt8) : List UInt8 :=
  (text.takeWhile fun character => character ≠ 0).take (ioBindingTextLen - 1)

/-- A text that is empty is replaced. -/
def textOr (text replacement : List UInt8) : List UInt8 :=
  if (text.takeWhile fun character => character ≠ 0) = [] then replacement
  else text

/-- `io_binding_prepare_input_entry`, on a pin of the chip itself. -/
def ioBindingPrepareInputEntry (id : UInt16) (name role : List UInt8)
    (backend : ChannelBackend) (gpio endpointIndex : Int)
    (profile : DeviceInputProfile) (known : id ∈ inputProfile) :
    IoBindingInputEntry where
  id := id
  gpio := gpio
  backendInstance := 0
  endpointIndex := endpointIndex
  backend := backend
  name := ioBindingCopyText (textOr name (textBytes profile.name))
  role := ioBindingCopyText (textOr role (textBytes "Input"))
  known := known

/-- `io_binding_prepare_output_entry`, on the backend of the chip itself. -/
def ioBindingPrepareOutputEntry (id : UInt16) (name role : List UInt8)
    (gpio : Int) (profile : DeviceOutputProfile)
    (known : id ∈ outputProfile) : IoBindingOutputEntry where
  id := id
  gpio := gpio
  backendInstance := 0
  endpointIndex := gpio
  backend := .gpio
  name := ioBindingCopyText (textOr name (textBytes profile.name))
  role := ioBindingCopyText (textOr role (textBytes "Actuator"))
  known := known

/-! ## Inputs of a device without a record -/

/-- `analog_slots`: an input, its pin and its channel of the converter. -/
def analogSlots : List (UInt16 × Int × Int) :=
  [ (endapInputId 12, 34, 6),
    (endapInputId 13, 35, 7),
    (endapInputId 14, 36, 0),
    (endapInputId 15, 39, 3) ]

/-- The channel of the converter that a pin belongs to. -/
def analogEndpoint (gpio : Int) : Option Int :=
  (analogSlots.find? fun slot => slot.2.1 = gpio).map fun slot => slot.2.2

/-- The loop of `io_binding_ensure_analog_inputs`. -/
def ensureAnalogInput (entries : List IoBindingInputEntry)
    (slot : UInt16 × Int × Int) : List IoBindingInputEntry :=
  match found : deviceProfileFindInput slot.1 with
  | none => entries
  | some profile =>
      if profile.gpio = gpioNumNc then entries
      else if entries.any fun entry =>
          decide
            (entry.id = slot.1 ∨
            entry.backend = .gpio ∧ entry.gpio = slot.2.1) then
        entries
      else if ioBindingMaxInputs ≤ entries.length then entries
      else
        entries ++
          [ioBindingPrepareInputEntry slot.1 (textBytes profile.name)
            (textBytes "Input") .adcNative slot.2.1 slot.2.2 profile
            (deviceProfileFindInput_some found).2]

def ioBindingEnsureAnalogInputs (entries : List IoBindingInputEntry) :
    List IoBindingInputEntry :=
  if ioBindingMaxInputs ≤ entries.length then entries
  else analogSlots.foldl ensureAnalogInput entries

def ioBindingApplyInputDefaults : List IoBindingInputEntry :=
  ioBindingEnsureAnalogInputs
    ((inputProfile.take defaultActiveInputs).filterMap fun id =>
      match found : deviceProfileFindInput id with
      | none => none
      | some profile =>
          some
            (ioBindingPrepareInputEntry id (textBytes profile.name)
              (textBytes "Input")
              (if (analogEndpoint profile.gpio).isSome then .adcNative
                else .gpio)
              profile.gpio
              ((analogEndpoint profile.gpio).getD profile.gpio) profile
              (deviceProfileFindInput_some found).2))

/-! ## Records of the first version -/

def ioBindingMagicOutputs : UInt32 := 0x49424F55

def ioBindingVersionV1 : UInt16 := 1

structure IoBindingOutputEntryV1 where
  id : UInt16
  name : List UInt8
  role : List UInt8

/-- `io_binding_output_blob_v1_t`, after its checksum was found right. -/
structure IoBindingOutputBlobV1 where
  magic : UInt32
  version : UInt16
  count : UInt16
  outputs : Fin ioBindingMaxOutputs → IoBindingOutputEntryV1

/-- The loop of `io_binding_load_outputs_v1`: the entries that were prepared,
also when it gives up. -/
def loadOutputsV1 :
    List IoBindingOutputEntryV1 → Bool × List IoBindingOutputEntry
  | [] => (true, [])
  | stored :: rest =>
      match found : deviceProfileFindOutput stored.id with
      | none => (false, [])
      | some profile =>
          let entry :=
            ioBindingPrepareOutputEntry stored.id stored.name stored.role
              profile.gpio profile (deviceProfileFindOutput_some found).2
          let later := loadOutputsV1 rest
          (later.1, entry :: later.2)

def ioBindingLoadOutputsV1 (blob : IoBindingOutputBlobV1) :
    Bool × List IoBindingOutputEntry :=
  if blob.magic ≠ ioBindingMagicOutputs ∨
      blob.version ≠ ioBindingVersionV1 ∨
      ioBindingMaxOutputs < blob.count.toNat then
    (false, [])
  else loadOutputsV1 ((List.ofFn blob.outputs).take blob.count.toNat)

end Endap.Io
