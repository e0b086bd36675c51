import Endap.State.Store

/-!
# The device profile

The inputs and outputs of the device are fixed tables of the firmware.  Most
components read only the identifier of a slot; the bindings of the channels
and the I/O driver also read its pin and its polarity.
-/

namespace Endap.Device

open Endap.State

def endapInputId (slot : Nat) : UInt16 := UInt16.ofNat (10 + slot)

def endapOutputId (slot : Nat) : UInt16 := UInt16.ofNat (100 + slot)

/-- The identifiers of `input_profile`. -/
def inputProfile : List UInt16 := (List.range 16).map endapInputId

/-- The identifiers of `output_profile`. -/
def outputProfile : List UInt16 := (List.range 16).map endapOutputId

def deviceProfileIsValidInput (inputId : UInt16) : Bool :=
  inputId ∈ inputProfile

def deviceProfileIsValidOutput (outputId : UInt16) : Bool :=
  outputId ∈ outputProfile

theorem outputProfile_nodup : outputProfile.Nodup := by
  decide

theorem outputProfile_validId
    {outputId : UInt16} (member : outputId ∈ outputProfile) :
    StateValidId outputId := by
  have all :
      (outputProfile.all fun outputId => decide (StateValidId outputId)) =
        true := by
    decide
  exact of_decide_eq_true (List.all_eq_true.mp all outputId member)

theorem input_ne_output
    {inputId outputId : UInt16} (input : inputId ∈ inputProfile)
    (output : outputId ∈ outputProfile) : inputId ≠ outputId := by
  have apart :
      (inputProfile.all fun inputId => inputId ∉ outputProfile) = true := by
    decide
  rintro rfl
  exact of_decide_eq_true (List.all_eq_true.mp apart inputId input) output

theorem inputProfile_validId
    {inputId : UInt16} (member : inputId ∈ inputProfile) :
    StateValidId inputId := by
  have all :
      (inputProfile.all fun inputId => decide (StateValidId inputId)) =
        true := by
    decide
  exact of_decide_eq_true (List.all_eq_true.mp all inputId member)

/-! ## Pins -/

def gpioNumNc : Int := -1

/-- `device_input_profile_t`, without its description. -/
structure DeviceInputProfile where
  id : UInt16
  name : String
  gpio : Int
  activeLow : Bool
  debounceSamples : UInt8

/-- `device_output_profile_t`, without its description. -/
structure DeviceOutputProfile where
  id : UInt16
  name : String
  gpio : Int
  activeLow : Bool

/-- `input_profile`. -/
def inputProfileEntries : List DeviceInputProfile :=
  [ ⟨endapInputId 0, "GPIO16", 16, false, 5⟩,
    ⟨endapInputId 1, "GPIO17", 17, false, 5⟩,
    ⟨endapInputId 2, "GPIO21", 21, false, 5⟩,
    ⟨endapInputId 3, "GPIO22", gpioNumNc, false, 5⟩,
    ⟨endapInputId 4, "GPIO27", 27, false, 5⟩,
    ⟨endapInputId 5, "GPIO26", 26, false, 5⟩,
    ⟨endapInputId 6, "GPIO18", 18, false, 5⟩,
    ⟨endapInputId 7, "GPIO19", 19, false, 5⟩,
    ⟨endapInputId 8, "GPIO23", 23, false, 5⟩,
    ⟨endapInputId 9, "GPIO32", 32, false, 5⟩,
    ⟨endapInputId 10, "GPIO33", 33, false, 5⟩,
    ⟨endapInputId 11, "GPIO25", 25, false, 5⟩,
    ⟨endapInputId 12, "GPIO34", 34, false, 5⟩,
    ⟨endapInputId 13, "GPIO35", 35, false, 5⟩,
    ⟨endapInputId 14, "GPIO36", 36, false, 5⟩,
    ⟨endapInputId 15, "GPIO39", 39, false, 5⟩ ]

/-- `output_profile`. -/
def outputProfileEntries : List DeviceOutputProfile :=
  [ ⟨endapOutputId 0, "GPIO22", 22, true⟩,
    ⟨endapOutputId 1, "GPIO4", 4, true⟩,
    ⟨endapOutputId 2, "GPIO5", 5, true⟩,
    ⟨endapOutputId 3, "GPIO14", 14, true⟩,
    ⟨endapOutputId 4, "GPIO25", gpioNumNc, false⟩,
    ⟨endapOutputId 5, "GPIO33", 33, true⟩,
    ⟨endapOutputId 6, "GPIO13", 13, true⟩,
    ⟨endapOutputId 7, "GPIO16", 16, true⟩,
    ⟨endapOutputId 8, "GPIO17", 17, true⟩,
    ⟨endapOutputId 9, "GPIO18", 18, true⟩,
    ⟨endapOutputId 10, "GPIO19", 19, true⟩,
    ⟨endapOutputId 11, "GPIO21", 21, true⟩,
    ⟨endapOutputId 12, "GPIO22", 22, true⟩,
    ⟨endapOutputId 13, "GPIO23", 23, true⟩,
    ⟨endapOutputId 14, "GPIO26", gpioNumNc, false⟩,
    ⟨endapOutputId 15, "GPIO32", 32, true⟩ ]

def deviceProfileFindInput (id : UInt16) : Option DeviceInputProfile :=
  inputProfileEntries.find? fun entry => entry.id = id

def deviceProfileFindOutput (id : UInt16) : Option DeviceOutputProfile :=
  outputProfileEntries.find? fun entry => entry.id = id

theorem inputProfileEntries_ids :
    inputProfileEntries.map DeviceInputProfile.id = inputProfile := by
  decide

theorem outputProfileEntries_ids :
    outputProfileEntries.map DeviceOutputProfile.id = outputProfile := by
  decide

theorem deviceProfileFindInput_some
    {id : UInt16} {profile : DeviceInputProfile}
    (found : deviceProfileFindInput id = some profile) :
    profile.id = id ∧ id ∈ inputProfile := by
  have same : profile.id = id := by
    simpa using List.find?_some found
  refine ⟨same, ?_⟩
  rw [← same, ← inputProfileEntries_ids]
  exact List.mem_map_of_mem (List.mem_of_find?_eq_some found)

theorem deviceProfileFindOutput_some
    {id : UInt16} {profile : DeviceOutputProfile}
    (found : deviceProfileFindOutput id = some profile) :
    profile.id = id ∧ id ∈ outputProfile := by
  have same : profile.id = id := by
    simpa using List.find?_some found
  refine ⟨same, ?_⟩
  rw [← same, ← outputProfileEntries_ids]
  exact List.mem_map_of_mem (List.mem_of_find?_eq_some found)

end Endap.Device
