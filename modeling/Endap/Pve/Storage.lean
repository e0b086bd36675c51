import Endap.Library.Layout
import Endap.Pve.History
import Mathlib.Data.List.FinRange

/-!
# The stored configuration of the process variables

The name, the scaling and the alarm settings of each variable are stored as
one blob under a key of their own, with a checksum.  At boot the blobs are
read and applied one by one; when one of them is missing or damaged, all
variables go back to the defaults, so that stored and default settings are
never mixed.

The source of a variable is not part of its blob.  A variable loaded into
zeroed memory has the source that zeroes stand for.
-/

namespace Endap.Pve

open Endap.Library
open Endap.State

/-! ## The stored record -/

def pveCrc32 (data : List UInt8) : UInt32 :=
  data.foldl (fun crc byte => (crc ^^^ byte.toUInt32) * 16777619) 2166136261

/-- `pve_persisted_config_t`, without its checksum. -/
structure PersistedConfig where
  name : Fin 16 → UInt8
  inputMin : Int32
  inputMax : Int32
  scaledMin : Int32
  scaledMax : Int32
  decimals : UInt8
  unit : Fin 8 → UInt8
  alarmEnabled : UInt8
  alarmHigh : Int32
  alarmLow : Int32
  alarmHysteresis : Int32

/-- The bytes of `pve_persisted_config_t` before the checksum.  Two bytes of
padding bring the limits to a multiple of four. -/
def persistedLayout : Layout PersistedConfig :=
  ((((((((((Layout.array 16 Layout.u8).andThen Layout.i32).andThen
      Layout.i32).andThen Layout.i32).andThen Layout.i32).andThen
      Layout.u8).andThen (Layout.array 8 Layout.u8)).andThen
      Layout.u8).andThen (Layout.padded 2 Layout.i32)).andThen
      Layout.i32 |>.andThen Layout.i32).retype
    (fun fields =>
      { name := fields.1.1.1.1.1.1.1.1.1.1
        inputMin := fields.1.1.1.1.1.1.1.1.1.2
        inputMax := fields.1.1.1.1.1.1.1.1.2
        scaledMin := fields.1.1.1.1.1.1.1.2
        scaledMax := fields.1.1.1.1.1.1.2
        decimals := fields.1.1.1.1.1.2
        unit := fields.1.1.1.1.2
        alarmEnabled := fields.1.1.1.2
        alarmHigh := fields.1.1.2
        alarmLow := fields.1.2
        alarmHysteresis := fields.2 })
    (fun config =>
      ((((((((((config.name, config.inputMin), config.inputMax),
        config.scaledMin), config.scaledMax), config.decimals),
        config.unit), config.alarmEnabled), config.alarmHigh),
        config.alarmLow), config.alarmHysteresis))
    (fun _ => rfl)

/-- The record that `pve_save_config` fills from a variable. -/
def PersistedConfig.ofVariable (var : PveVariable) : PersistedConfig where
  name := CText.strncpy (fun _ => 0) (CText.text var.name) 15
  inputMin := var.config.inputMin
  inputMax := var.config.inputMax
  scaledMin := var.config.scaledMin
  scaledMax := var.config.scaledMax
  decimals := var.config.decimals
  unit := CText.strncpy (fun _ => 0) (CText.text var.config.unit) 7
  alarmEnabled := var.alarm.enabled
  alarmHigh := var.alarm.highLimit
  alarmLow := var.alarm.lowLimit
  alarmHysteresis := var.alarm.hysteresis

/-- The variable that `pve_load_config` fills from a record, before its value
is scaled anew. -/
def PveVariable.applied (var : PveVariable) (stored : PersistedConfig) :
    PveVariable :=
  { var with
    name := CText.strncpy var.name (CText.text stored.name) 15
    config :=
      { inputMin := stored.inputMin
        inputMax := stored.inputMax
        scaledMin := stored.scaledMin
        scaledMax := stored.scaledMax
        decimals := stored.decimals
        unit := CText.strncpy var.config.unit (CText.text stored.unit) 7 }
    alarm :=
      { highLimit := stored.alarmHigh
        lowLimit := stored.alarmLow
        hysteresis := stored.alarmHysteresis
        enabled := stored.alarmEnabled } }

/-! ## Saving and loading -/

/-- The blobs of the namespace, where it exists. -/
abbrev PveFlash := Option (Fin maxPveVariables → Option (List UInt8))

/-- Which calls of the driver succeed during a save: whether the namespace
opens, and which of the blobs are in the flash afterwards. -/
structure PveSaveOutcome where
  opens : Bool
  lands : Fin maxPveVariables → Bool

def PveSaveOutcome.succeeds : PveSaveOutcome where
  opens := true
  lands := fun _ => true

def pveSaveConfig
    (pveVariables : PveVariables) (outcome : PveSaveOutcome)
    (flash : PveFlash) : PveFlash :=
  if outcome.opens then
    some fun id =>
      if outcome.lands id then
        some
          (Layout.stamp pveCrc32 persistedLayout
            (.ofVariable (pveVariables id)))
      else (flash.getD fun _ => none) id
  else flash

/-- The record of an intact blob of the right size. -/
def readEntry (blob : Option (List UInt8)) : Option PersistedConfig :=
  match blob with
  | none => none
  | some bytes =>
      if bytes.length = persistedLayout.stampedSize ∧
          Layout.Intact pveCrc32 persistedLayout bytes then
        some (persistedLayout.read bytes)
      else none

/-- The variables of the loop of `pve_load_config`. -/
structure PveLoad where
  world : PveWorld
  loadedAny : Bool
  anyFailed : Bool

/-- One iteration of the loop of `pve_load_config`. -/
def pveLoadEntry
    (blobs : Fin maxPveVariables → Option (List UInt8)) (load : PveLoad)
    (id : Fin maxPveVariables) : PveLoad :=
  match readEntry (blobs id) with
  | none => { load with anyFailed := true }
  | some stored =>
      let applied := (load.world.pveVariables id).applied stored
      { load with
        world :=
          pveUpdate
            { load.world with
              pveVariables :=
                Function.update load.world.pveVariables id applied }
            id applied.runtime.rawValue
        loadedAny := true }

def pveLoadConfig (world : PveWorld) (flash : PveFlash) : PveWorld :=
  match flash with
  | none => { world with pveVariables := pveInitVariables }
  | some blobs =>
      let load :=
        (List.finRange maxPveVariables).foldl (pveLoadEntry blobs)
          { world := world, loadedAny := false, anyFailed := false }
      if load.anyFailed ∨ load.loadedAny = false then
        { load.world with pveVariables := pveInitVariables }
      else load.world

/-! ## Settings -/

/-- What a stored record says about a variable: its name and unit as texts,
its scaling and its alarm. -/
structure PveSettings where
  name : List UInt8
  inputMin : Int32
  inputMax : Int32
  scaledMin : Int32
  scaledMax : Int32
  decimals : UInt8
  unit : List UInt8
  alarm : PveAlarm
deriving DecidableEq

def PveVariable.settings (var : PveVariable) : PveSettings where
  name := CText.text var.name
  inputMin := var.config.inputMin
  inputMax := var.config.inputMax
  scaledMin := var.config.scaledMin
  scaledMax := var.config.scaledMax
  decimals := var.config.decimals
  unit := CText.text var.config.unit
  alarm := var.alarm

/-- The settings in a record.  The last character of each array is not
copied. -/
def PersistedConfig.settings (stored : PersistedConfig) : PveSettings where
  name := (CText.text stored.name).take 15
  inputMin := stored.inputMin
  inputMax := stored.inputMax
  scaledMin := stored.scaledMin
  scaledMax := stored.scaledMax
  decimals := stored.decimals
  unit := (CText.text stored.unit).take 7
  alarm :=
    { highLimit := stored.alarmHigh
      lowLimit := stored.alarmLow
      hysteresis := stored.alarmHysteresis
      enabled := stored.alarmEnabled }

/-- The name and the unit of a variable end in zero. -/
def PveVariable.EndsInZero (var : PveVariable) : Prop :=
  var.name (Fin.last 15) = 0 ∧ var.config.unit (Fin.last 7) = 0

instance (var : PveVariable) : Decidable var.EndsInZero :=
  inferInstanceAs (Decidable (_ ∧ _))

/-- What the flash says about one variable. -/
def storedEntry (flash : PveFlash) (id : Fin maxPveVariables) :
    Option PersistedConfig :=
  match flash with
  | none => none
  | some blobs => readEntry (blobs id)

/-- The variable that a load makes of a stored record. -/
def PveVariable.loaded (var : PveVariable) (stored : PersistedConfig) :
    PveVariable :=
  (var.applied stored).updated var.runtime.rawValue

@[simp]
theorem updated_settings (var : PveVariable) (rawValue : Int32) :
    (var.updated rawValue).settings = var.settings :=
  rfl

theorem loaded_settings
    {var : PveVariable} (ends : var.EndsInZero) (stored : PersistedConfig) :
    (var.loaded stored).settings = stored.settings := by
  have name :=
    @CText.text_strncpy 16 var.name (CText.text stored.name) 15
      (fun _ => CText.ne_zero_of_mem_text) (by decide) ends.1
  have unit :=
    @CText.text_strncpy 8 var.config.unit (CText.text stored.unit) 7
      (fun _ => CText.ne_zero_of_mem_text) (by decide) ends.2
  rw [PveVariable.loaded, updated_settings]
  simp only [PveVariable.settings, PveVariable.applied, name, unit]
  rfl

theorem ofVariable_settings
    {var : PveVariable} (name : CText.Terminated var.name)
    (unit : CText.Terminated var.config.unit) :
    (PersistedConfig.ofVariable var).settings = var.settings := by
  have storedName :
      CText.text (PersistedConfig.ofVariable var).name = CText.text var.name :=
    CText.text_strncpy_text name rfl
  have storedUnit :
      CText.text (PersistedConfig.ofVariable var).unit =
        CText.text var.config.unit :=
    CText.text_strncpy_text unit rfl
  have nameFits := Nat.le_of_lt_succ (CText.text_length_lt name)
  have unitFits := Nat.le_of_lt_succ (CText.text_length_lt unit)
  simp only [PersistedConfig.settings, storedName, storedUnit,
    List.take_of_length_le nameFits, List.take_of_length_le unitFits]
  rfl

theorem readEntry_stamp (stored : PersistedConfig) :
    readEntry (some (Layout.stamp pveCrc32 persistedLayout stored)) =
      some stored := by
  rw [readEntry, if_pos ⟨Layout.stamp_length _ _ _, Layout.intact_stamp _ _ _⟩,
    Layout.read_stamp]

/-! ## What a load does -/

section

variable {blobs : Fin maxPveVariables → Option (List UInt8)}

variable {id : Fin maxPveVariables}

theorem pveLoadEntry_failed
    (missing : readEntry (blobs id) = none)
    (load : PveLoad) :
    pveLoadEntry blobs load id = { load with anyFailed := true } := by
  rw [pveLoadEntry, missing]

theorem pveLoadEntry_loaded
    {stored : PersistedConfig}
    (found : readEntry (blobs id) = some stored) (load : PveLoad) :
    (pveLoadEntry blobs load id).world.pveVariables =
        Function.update load.world.pveVariables id
          ((load.world.pveVariables id).loaded stored) ∧
    (pveLoadEntry blobs load id).loadedAny = true ∧
    (pveLoadEntry blobs load id).anyFailed = load.anyFailed := by
  rw [pveLoadEntry, found]
  refine ⟨?_, rfl, rfl⟩
  simp only [pveUpdate_pveVariables, Function.update_self, Function.update_idem]
  rfl

theorem pveLoadEntries_stays_failed
    (ids : List (Fin maxPveVariables)) {load : PveLoad}
    (failed : load.anyFailed = true) :
    (ids.foldl (pveLoadEntry blobs) load).anyFailed = true := by
  induction ids generalizing load with
  | nil => exact failed
  | cons id ids induction =>
      apply induction
      cases found : readEntry (blobs id) with
      | none => rw [pveLoadEntry_failed found]
      | some stored => rw [(pveLoadEntry_loaded found load).2.2, failed]

theorem pveLoadEntries_failed
    {ids : List (Fin maxPveVariables)}
    (member : id ∈ ids) (missing : readEntry (blobs id) = none)
    (load : PveLoad) :
    (ids.foldl (pveLoadEntry blobs) load).anyFailed = true := by
  induction ids generalizing load with
  | nil => cases member
  | cons first ids induction =>
      rcases List.mem_cons.mp member with rfl | later
      · refine pveLoadEntries_stays_failed ids ?_
        rw [pveLoadEntry_failed missing]
      · exact induction later _

theorem pveLoadEntries_loaded
    {stored : Fin maxPveVariables → PersistedConfig}
    {ids : List (Fin maxPveVariables)} (distinct : ids.Nodup)
    (found : ∀ id ∈ ids, readEntry (blobs id) = some (stored id))
    (load : PveLoad) :
    (∀ id,
        (ids.foldl (pveLoadEntry blobs) load).world.pveVariables id =
          if id ∈ ids then
            (load.world.pveVariables id).loaded (stored id)
          else load.world.pveVariables id) ∧
      (ids.foldl (pveLoadEntry blobs) load).loadedAny =
          (load.loadedAny || !ids.isEmpty) ∧
      (ids.foldl (pveLoadEntry blobs) load).anyFailed =
        load.anyFailed := by
  induction ids generalizing load with
  | nil => simp
  | cons first ids induction =>
      rcases List.nodup_cons.mp distinct with ⟨fresh, restDistinct⟩
      have here := found first (List.mem_cons_self ..)
      rcases pveLoadEntry_loaded here load with ⟨written, any, failed⟩
      rcases
        induction restDistinct
          (fun id member => found id (List.mem_cons_of_mem _ member))
          (pveLoadEntry blobs load first) with
        ⟨later, laterAny, laterFailed⟩
      refine ⟨?_, ?_, ?_⟩
      · intro id
        rw [List.foldl_cons, later, written]
        by_cases isFirst : id = first
        · subst isFirst
          simp [fresh]
        · simp [isFirst]
      · rw [List.foldl_cons, laterAny, any]
        simp
      · rw [List.foldl_cons, laterFailed, failed]

end

theorem pveLoadConfig_cases (world : PveWorld) (flash : PveFlash) :
    (∃ stored : Fin maxPveVariables → PersistedConfig,
        (∀ id, storedEntry flash id = some (stored id)) ∧
        (pveLoadConfig world flash).pveVariables =
          fun id => (world.pveVariables id).loaded (stored id)) ∨
      (∃ id, storedEntry flash id = none) ∧
      (pveLoadConfig world flash).pveVariables = pveInitVariables := by
  cases flash with
  | none => exact Or.inr ⟨⟨0, rfl⟩, rfl⟩
  | some blobs =>
      by_cases missing : ∃ id, readEntry (blobs id) = none
      · refine Or.inr ⟨missing, ?_⟩
        rcases missing with ⟨id, missing⟩
        have failed :=
          pveLoadEntries_failed (List.mem_finRange id) missing
            { world := world, loadedAny := false, anyFailed := false }
        simp only [pveLoadConfig, failed, true_or, if_true]
      · refine Or.inl ?_
        have found : ∀ id, ∃ stored, readEntry (blobs id) = some stored := by
          intro id
          exact Option.ne_none_iff_exists'.mp fun none => missing ⟨id, none⟩
        choose stored isStored using found
        refine ⟨stored, isStored, ?_⟩
        rcases
          pveLoadEntries_loaded (List.nodup_finRange maxPveVariables)
            (fun id _ => isStored id)
            { world := world, loadedAny := false, anyFailed := false } with
          ⟨written, any, failed⟩
        funext id
        have applied := written id
        rw [if_pos (List.mem_finRange id)] at applied
        have passes :
            ¬ (((List.finRange maxPveVariables).foldl (pveLoadEntry blobs)
                    { world := world, loadedAny := false
                      anyFailed := false }).anyFailed =
                  true ∨
                ((List.finRange maxPveVariables).foldl (pveLoadEntry blobs)
                    { world := world, loadedAny := false
                      anyFailed := false }).loadedAny =
                  false) := by
          rw [any, failed]
          simp [List.finRange_succ]
        rw [pveLoadConfig, if_neg passes]
        exact applied

/-! ## Reboots -/

/-- The variable has the source and the settings of another. -/
def PveVariable.RestoredAs (var original : PveVariable) : Prop :=
  var.sourceType = original.sourceType ∧
  var.sourceId = original.sourceId ∧ var.settings = original.settings

/-- A save in which no call fails, and a load into zeroed memory, give every
variable back. -/
def SurvivesReboot (pveVariables : PveVariables) : Prop :=
  ∀ flash world,
    world.pveVariables = zeroVariables →
    ∀ id,
      ((pveLoadConfig world
          (pveSaveConfig pveVariables .succeeds flash)).pveVariables
        id).RestoredAs (pveVariables id)

/-- Whatever is in the flash, a load leaves all variables as stored or all at
the defaults. -/
def NeverMixed : Prop :=
  ∀ flash world,
    (∀ id, (world.pveVariables id).EndsInZero) →
    (∀ id, ∃ stored,
        storedEntry flash id = some stored ∧
        ((pveLoadConfig world flash).pveVariables id).settings =
          stored.settings) ∨
      (pveLoadConfig world flash).pveVariables = pveInitVariables

theorem neverMixed : NeverMixed := by
  intro flash world ends
  rcases pveLoadConfig_cases world flash with
    ⟨stored, isStored, loaded⟩ | ⟨_, defaults⟩
  · refine Or.inl fun id => ⟨stored id, isStored id, ?_⟩
    rw [loaded]
    exact loaded_settings (ends id) (stored id)
  · exact Or.inr defaults

theorem storedEntry_saved
    (pveVariables : PveVariables) (flash : PveFlash)
    (id : Fin maxPveVariables) :
    storedEntry (pveSaveConfig pveVariables .succeeds flash) id =
      some (.ofVariable (pveVariables id)) := by
  simp only [storedEntry, pveSaveConfig, PveSaveOutcome.succeeds, if_true,
    readEntry_stamp]

theorem reboot_restores
    {pveVariables : PveVariables}
    (terminated :
      ∀ id,
        CText.Terminated (pveVariables id).name ∧
        CText.Terminated (pveVariables id).config.unit)
    (flash : PveFlash) {world : PveWorld}
    (zeroed : world.pveVariables = zeroVariables)
    (id : Fin maxPveVariables) :
    let restored :=
      (pveLoadConfig world
        (pveSaveConfig pveVariables .succeeds flash)).pveVariables id
    restored.sourceType = 0 ∧ restored.sourceId = 0 ∧
    restored.settings = (pveVariables id).settings := by
  intro restored
  rcases
    pveLoadConfig_cases world
      (pveSaveConfig pveVariables .succeeds flash) with
    ⟨stored, isStored, loaded⟩ | ⟨⟨missing, none⟩, _⟩
  · have isRecord : stored id = .ofVariable (pveVariables id) := by
      have saved := storedEntry_saved pveVariables flash id
      rw [isStored id] at saved
      exact Option.some.inj saved
    have isLoaded :
        restored =
          (zeroVariables id).loaded (.ofVariable (pveVariables id)) := by
      change
        (pveLoadConfig world
          (pveSaveConfig pveVariables .succeeds flash)).pveVariables id = _
      rw [loaded, zeroed, ← isRecord]
    have zeroEnds : (zeroVariables id).EndsInZero := ⟨rfl, rfl⟩
    rw [isLoaded]
    refine ⟨rfl, rfl, ?_⟩
    rw [loaded_settings zeroEnds,
      ofVariable_settings (terminated id).1 (terminated id).2]
  · rw [storedEntry_saved] at none
    cases none

/-- The state of a device that starts with zeroed memory. -/
def bootWorld : PveWorld where
  pveVariables := zeroVariables
  history := pveClearAlarmHistory
  bus := eventBusInit
  seconds := fun _ => 0

/--
The configuration survives a reboot, and is never mixed with the defaults,
exactly if the source of every variable is the one that zeroes stand for: the
settings always come back, the source never does.
-/
theorem pve_survives_reboot_iff
    (pveVariables : PveVariables)
    (terminated :
      ∀ id,
        CText.Terminated (pveVariables id).name ∧
        CText.Terminated (pveVariables id).config.unit) :
    SurvivesReboot pveVariables ∧ NeverMixed ↔
    ∀ id,
      (pveVariables id).sourceType = pveSourceAdcNative ∧
      (pveVariables id).sourceId = 0 := by
  constructor
  · rintro ⟨survives, _⟩ id
    have restored :=
      @reboot_restores pveVariables terminated none bootWorld rfl id
    rcases survives none bootWorld rfl id with ⟨sourceType, sourceId, _⟩
    exact ⟨sourceType.symm.trans restored.1, sourceId.symm.trans restored.2.1⟩
  · intro sources
    refine ⟨?_, neverMixed⟩
    intro flash world zeroed id
    rcases reboot_restores terminated flash zeroed id with
      ⟨sourceType, sourceId, settings⟩
    exact ⟨sourceType.trans (sources id).1.symm,
      sourceId.trans (sources id).2.symm, settings⟩

def sourcelessVariables : PveVariables := fun id =>
  { pveInitVariables id with
    sourceType := pveSourceAdcNative
    sourceId := 0 }

/-- Variables without a source of their own survive a reboot. -/
theorem sourcelessVariables_survive :
    SurvivesReboot sourcelessVariables ∧ NeverMixed :=
  (pve_survives_reboot_iff sourcelessVariables (by decide +kernel)).mpr
    fun _ => ⟨rfl, rfl⟩

/-- The defaults do not: after a reboot, input 1 has lost its source. -/
theorem defaults_lose_source :
    (pveInitVariables 0).sourceId = 6 ∧
    ((pveLoadConfig bootWorld
        (pveSaveConfig pveInitVariables .succeeds none)).pveVariables
      0).sourceId = 0 ∧
    ¬ SurvivesReboot pveInitVariables := by
  have restored :
      ((pveLoadConfig bootWorld
          (pveSaveConfig pveInitVariables .succeeds none)).pveVariables
        0).sourceId =
        0 :=
    (@reboot_restores pveInitVariables (by decide +kernel) none bootWorld
      rfl 0).2.1
  refine ⟨rfl, restored, ?_⟩
  intro survives
  have same := (survives none bootWorld rfl 0).2.1
  rw [restored] at same
  exact absurd same (by decide)

end Endap.Pve
