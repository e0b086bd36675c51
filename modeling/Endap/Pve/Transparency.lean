import Endap.Pve.SelfTest

/-!
# When the self-test changes nothing

What the self-test leaves can be told before it runs: from the settings in
RAM, the records in the flash, the writes that are going to land, and the
alarm history.  A record that lands takes the place of the stored one, and
the settings that it carries are those of the trial or the defaults.
-/

namespace Endap.Pve

open Endap.Library

/-! ## Records that land -/

/-- The record that a save puts in the flash, if its blob lands. -/
def PveSaveOutcome.record? (outcome : PveSaveOutcome)
    (pveVariables : PveVariables) (id : Fin maxPveVariables) :
    Option PersistedConfig :=
  if outcome.opens && outcome.lands id then
    some (.ofVariable (pveVariables id))
  else none

/-- The record of a variable when some records have taken the place of those
in the flash. -/
def foundEntry (flash : PveFlash)
    (landed : Fin maxPveVariables → Option PersistedConfig)
    (id : Fin maxPveVariables) : Option PersistedConfig :=
  (landed id).or (storedEntry flash id)

theorem storedEntry_save
    (pveVariables : PveVariables) (outcome : PveSaveOutcome)
    (flash : PveFlash) (id : Fin maxPveVariables) :
    storedEntry (pveSaveConfig pveVariables outcome flash) id =
      foundEntry flash (outcome.record? pveVariables) id := by
  rw [foundEntry, PveSaveOutcome.record?, pveSaveConfig]
  cases outcome.opens with
  | false => rfl
  | true =>
      simp only [if_true, Bool.true_and, storedEntry]
      cases outcome.lands id with
      | true => exact readEntry_stamp _
      | false =>
          cases flash <;> rfl

theorem restoredSettings_cases (flash : PveFlash) :
    (∀ id, ∃ entry, storedEntry flash id = some entry ∧
        restoredSettings flash id = entry.settings) ∨
      (∃ id, storedEntry flash id = none) ∧
      ∀ id, restoredSettings flash id = (pveInitVariables id).settings := by
  rcases pveLoadConfig_cases bootWorld flash with
    ⟨stored, isStored, loaded⟩ | ⟨missing, defaults⟩
  · refine .inl fun id => ⟨stored id, isStored id, ?_⟩
    rw [restoredSettings, loaded]
    exact loaded_settings ⟨rfl, rfl⟩ (stored id)
  · refine .inr ⟨missing, fun id => ?_⟩
    rw [restoredSettings, defaults]

/-- Records that landed, and those that they left, carry the settings that
the flash restored before. -/
structure SameSettings (flash : PveFlash)
    (landed : Fin maxPveVariables → Option PersistedConfig) : Prop where
  written :
    ∀ id, ∀ entry ∈ landed id, entry.settings = restoredSettings flash id
  kept :
    ∀ id, landed id = none → ∀ entry ∈ storedEntry flash id,
      entry.settings = restoredSettings flash id

/-- Records that landed change nothing that a load restores: some record is
still missing, or they carry the old settings. -/
def RestoresTheSame (flash : PveFlash)
    (landed : Fin maxPveVariables → Option PersistedConfig) : Prop :=
  (∃ id, landed id = none ∧ storedEntry flash id = none) ∨
  SameSettings flash landed

theorem restoresTheSame_iff
    {flash after : PveFlash}
    {landed : Fin maxPveVariables → Option PersistedConfig}
    (isAfter : ∀ id, storedEntry after id = foundEntry flash landed id) :
    (∀ id, restoredSettings after id = restoredSettings flash id) ↔
    RestoresTheSame flash landed := by
  rcases restoredSettings_cases after with found | ⟨⟨id, missing⟩, lost⟩
  · -- Every record is found, so the load restores each of them.
    have complete (id : Fin maxPveVariables) :
        ¬ (landed id = none ∧ storedEntry flash id = none) := by
      rintro ⟨absent, missing⟩
      rcases found id with ⟨entry, isFound, _⟩
      rw [isAfter, foundEntry, absent, missing] at isFound
      cases isFound
    have restored {id : Fin maxPveVariables} {entry : PersistedConfig}
        (isEntry : foundEntry flash landed id = some entry) :
        restoredSettings after id = entry.settings := by
      rcases found id with ⟨other, isFound, settings⟩
      rw [isAfter, isEntry] at isFound
      cases isFound
      exact settings
    constructor
    · intro same
      refine .inr ⟨fun id entry isLanded => ?_, fun id absent entry kept => ?_⟩
      · rw [← same id, restored]
        rw [foundEntry, isLanded]
        rfl
      · rw [← same id, restored]
        rw [foundEntry, absent, kept]
        rfl
    · rintro (⟨id, missing⟩ | same) id
      · exact absurd missing (complete _)
      · cases isLanded : landed id with
        | some entry =>
            rw [← same.written id entry isLanded, restored]
            rw [foundEntry, isLanded]
            rfl
        | none =>
            cases kept : storedEntry flash id with
            | none => exact absurd ⟨isLanded, kept⟩ (complete id)
            | some entry =>
                rw [← same.kept id isLanded entry kept, restored]
                rw [foundEntry, isLanded, kept]
                rfl
  · -- A missing record was missing before: both loads restore the defaults.
    rw [isAfter, foundEntry, Option.or_eq_none_iff] at missing
    refine ⟨fun _ => .inl ⟨id, missing⟩, fun _ other => ?_⟩
    rcases restoredSettings_cases flash with found | ⟨_, defaults⟩
    · rcases found id with ⟨entry, isStored, _⟩
      rw [missing.2] at isStored
      cases isStored
    · rw [lost, defaults]

/-! ## What can be told beforehand -/

/-- The records of the trial configuration that test 10 puts in the flash. -/
def PveSelfTestOutcome.trialRecord? (outcome : PveSelfTestOutcome) :
    Fin maxPveVariables → Option PersistedConfig :=
  outcome.trial.record? trialVariables

/-- The records that a self-test that passes puts in the flash: those of the
defaults, which are written last, and where they do not land those of the
trial configuration. -/
def PveSelfTestOutcome.finalRecord? (outcome : PveSelfTestOutcome)
    (id : Fin maxPveVariables) : Option PersistedConfig :=
  (outcome.restored.record? pveInitVariables id).or (outcome.trialRecord? id)

/-- Test 10 reads back what it wrote: a record that does not land is stored
already, for the first two variables with the trial settings. -/
structure TrialReadsBack
    (flash : PveFlash) (outcome : PveSelfTestOutcome) : Prop where
  complete : ∀ id, outcome.trialRecord? id = none → storedEntry flash id ≠ none
  first :
    outcome.trialRecord? 0 = none → ∀ entry ∈ storedEntry flash 0,
      entry.settings.matches "TEST_P1" 100 900 10 90 3 "psi" 1 85 15 = true
  second :
    outcome.trialRecord? 1 = none → ∀ entry ∈ storedEntry flash 1,
      entry.settings.matches "TEST_P2" 200 800 20 80 0 "C" 0 70 30 = true

/-- The alarms that the load of test 10 raises, variable by variable: those
of the record that it finds, at the raw value zero. -/
def raisedAtZero (flash : PveFlash) (outcome : PveSelfTestOutcome) :
    List AlarmState :=
  (List.finRange maxPveVariables).flatMap fun id =>
    match foundEntry flash outcome.trialRecord? id with
    | none => []
    | some entry => ((pveInitVariables id).applied entry).changes [0]

/-- The history shows the alarm of test 11: with the alarms that the load
raises, a high alarm and its end entered, these two are the last of its ten
oldest states. -/
def HistoryShowsAlarm
    (history : AlarmHistory) (flash : PveFlash)
    (outcome : PveSelfTestOutcome) : Prop :=
  endsHighOk
      ((entered history.states
          (raisedAtZero flash outcome ++ [.high, .ok])).take 10) =
    true

/-- There is nothing that the self-test would have to restore. -/
inductive NothingToRestore
    (world : PveWorld) (flash : PveFlash) (outcome : PveSelfTestOutcome) :
    Prop where
  | unread
      (fails : ¬ TrialReadsBack flash outcome)
      (inRam :
        ∀ id, (world.pveVariables id).settings = restoredSettings flash id)
      (inFlash : RestoresTheSame flash outcome.trialRecord?)
  | hidden
      (readsBack : TrialReadsBack flash outcome)
      (fails : ¬ HistoryShowsAlarm world.history flash outcome)
      (inRam :
        ∀ id, (world.pveVariables id).settings = (armedVariables id).settings)
      (inFlash : RestoresTheSame flash outcome.trialRecord?)
  | passed
      (readsBack : TrialReadsBack flash outcome)
      (shown : HistoryShowsAlarm world.history flash outcome)
      (inRam :
        ∀ id, (world.pveVariables id).settings = (pveInitVariables id).settings)
      (inFlash : RestoresTheSame flash outcome.finalRecord?)

/-! ## The storage test -/

theorem trialVariables_terminated (id : Fin maxPveVariables) :
    CText.Terminated (trialVariables id).name ∧
    CText.Terminated (trialVariables id).config.unit := by
  revert id
  decide +kernel

theorem storedEntry_trialFlash
    (flash : PveFlash) (outcome : PveSelfTestOutcome)
    (id : Fin maxPveVariables) :
    storedEntry (trialFlash flash outcome) id =
      foundEntry flash outcome.trialRecord? id :=
  storedEntry_save trialVariables outcome.trial flash id

theorem storedEntry_finalFlash
    (flash : PveFlash) (outcome : PveSelfTestOutcome)
    (id : Fin maxPveVariables) :
    storedEntry (finalFlash flash outcome) id =
      foundEntry flash outcome.finalRecord? id := by
  rw [finalFlash, storedEntry_save, foundEntry, storedEntry_trialFlash,
    foundEntry, foundEntry, PveSelfTestOutcome.finalRecord?, Option.or_assoc]

theorem trialRecord?_settings
    {outcome : PveSelfTestOutcome} {id : Fin maxPveVariables}
    {entry : PersistedConfig}
    (isRecord : outcome.trialRecord? id = some entry) :
    entry.settings = (trialVariables id).settings := by
  rw [PveSelfTestOutcome.trialRecord?, PveSaveOutcome.record?] at isRecord
  split at isRecord
  · cases isRecord
    have ends := trialVariables_terminated id
    exact ofVariable_settings ends.1 ends.2
  · cases isRecord

/-- A check of the trial settings of a variable holds of the record that the
load finds exactly if it holds of a stored one that stays. -/
theorem trial_check_iff
    {flash : PveFlash} {outcome : PveSelfTestOutcome}
    {id : Fin maxPveVariables} {check : PveSettings → Bool}
    (holds : check (trialVariables id).settings = true)
    {entry : PersistedConfig}
    (found : foundEntry flash outcome.trialRecord? id = some entry) :
    check entry.settings = true ↔
    (outcome.trialRecord? id = none →
    ∀ stored ∈ storedEntry flash id, check stored.settings = true) := by
  cases isRecord : outcome.trialRecord? id with
  | some record =>
      rw [foundEntry, isRecord] at found
      cases found
      rw [trialRecord?_settings isRecord]
      simp [holds]
  | none =>
      rw [foundEntry, isRecord] at found
      have isStored : storedEntry flash id = some entry := found
      simp [isStored]

theorem trialMatches_iff
    (flash : PveFlash) (outcome : PveSelfTestOutcome) :
    trialMatches (restoredSettings (trialFlash flash outcome)) = true ↔
    TrialReadsBack flash outcome := by
  rcases restoredSettings_cases (trialFlash flash outcome) with
    found | ⟨⟨id, missing⟩, lost⟩
  · have entryOf (id : Fin maxPveVariables) :
        ∃ entry,
          foundEntry flash outcome.trialRecord? id = some entry ∧
          restoredSettings (trialFlash flash outcome) id =
            entry.settings := by
      rcases found id with ⟨entry, isStored, settings⟩
      rw [storedEntry_trialFlash] at isStored
      exact ⟨entry, isStored, settings⟩
    have complete :
        ∀ id, outcome.trialRecord? id = none →
        storedEntry flash id ≠ none := by
      intro id absent missing
      rcases entryOf id with ⟨entry, isFound, _⟩
      rw [foundEntry, absent, missing] at isFound
      cases isFound
    rcases entryOf 0 with ⟨firstEntry, firstFound, firstSettings⟩
    rcases entryOf 1 with ⟨secondEntry, secondFound, secondSettings⟩
    rw [trialMatches, firstSettings, secondSettings, Bool.and_eq_true]
    have first :=
      @trial_check_iff flash outcome 0
        (fun settings =>
          settings.matches "TEST_P1" 100 900 10 90 3 "psi" 1 85 15)
        (by decide +kernel) _ firstFound
    have second :=
      @trial_check_iff flash outcome 1
        (fun settings =>
          settings.matches "TEST_P2" 200 800 20 80 0 "C" 0 70 30)
        (by decide +kernel) _ secondFound
    exact
      ⟨fun checks => ⟨complete, first.mp checks.1, second.mp checks.2⟩,
        fun reads => ⟨first.mpr reads.first, second.mpr reads.second⟩⟩
  · -- The defaults do not pass for the trial configuration.
    have settings :
        restoredSettings (trialFlash flash outcome) =
          fun id => (pveInitVariables id).settings :=
      funext lost
    have refused :
        trialMatches (fun id => (pveInitVariables id).settings) = false := by
      decide +kernel
    rw [storedEntry_trialFlash, foundEntry, Option.or_eq_none_iff] at missing
    rw [settings, refused]
    exact ⟨nofun, fun reads => absurd missing.2 (reads.complete id missing.1)⟩

/-! ## The history after the storage test -/

section

variable {blobs : Fin maxPveVariables → Option (List UInt8)}

theorem pveLoadEntry_states
    {id : Fin maxPveVariables} {stored : PersistedConfig}
    (found : readEntry (blobs id) = some stored) (load : PveLoad) :
    (pveLoadEntry blobs load id).world.history.states =
      entered load.world.history.states
        (((load.world.pveVariables id).applied stored).changes
          [(load.world.pveVariables id).runtime.rawValue]) := by
  rw [pveLoadEntry, found]
  simp only [pveUpdate_states, Function.update_self]
  rfl

theorem entered_append (states first second : List AlarmState) :
    entered states (first ++ second) = entered (entered states first) second :=
  List.foldl_append

theorem pveLoadEntries_states
    {stored : Fin maxPveVariables → PersistedConfig}
    {ids : List (Fin maxPveVariables)} (distinct : ids.Nodup)
    (found : ∀ id ∈ ids, readEntry (blobs id) = some (stored id))
    (load : PveLoad) :
    (ids.foldl (pveLoadEntry blobs) load).world.history.states =
      entered load.world.history.states
        (ids.flatMap fun id =>
          ((load.world.pveVariables id).applied (stored id)).changes
            [(load.world.pveVariables id).runtime.rawValue]) := by
  induction ids generalizing load with
  | nil => rfl
  | cons first ids induction =>
      rcases List.nodup_cons.mp distinct with ⟨fresh, restDistinct⟩
      have here := found first (List.mem_cons_self ..)
      have later :=
        induction restDistinct
          (fun id member => found id (List.mem_cons_of_mem _ member))
          (pveLoadEntry blobs load first)
      -- The variables of the other records are as before.
      have others : ∀ id ∈ ids,
          (pveLoadEntry blobs load first).world.pveVariables id =
            load.world.pveVariables id := by
        intro id member
        rw [(pveLoadEntry_loaded here load).1]
        apply Function.update_of_ne
        rintro rfl
        exact fresh member
      rw [List.foldl_cons, later, pveLoadEntry_states here,
        ← entered_append, List.flatMap_cons]
      congr 2
      apply List.flatMap_congr
      intro id member
      rw [others id member]

end

theorem pveLoadConfig_states
    {flash : PveFlash} {stored : Fin maxPveVariables → PersistedConfig}
    (isStored : ∀ id, storedEntry flash id = some (stored id))
    (world : PveWorld) :
    (pveLoadConfig world flash).history.states =
      entered world.history.states
        ((List.finRange maxPveVariables).flatMap fun id =>
          ((world.pveVariables id).applied (stored id)).changes
            [(world.pveVariables id).runtime.rawValue]) := by
  cases flash with
  | none => cases isStored 0
  | some blobs =>
      have logged :=
        pveLoadEntries_states (List.nodup_finRange maxPveVariables)
          (fun id _ => isStored id)
          { world := world, loadedAny := false, anyFailed := false }
      rw [pveLoadConfig]
      simp only
      split
      · exact logged
      · exact logged

theorem pveInitVariables_rawValue (id : Fin maxPveVariables) :
    (pveInitVariables id).runtime.rawValue = 0 := by
  revert id
  decide +kernel

/-- If test 10 reads back, what test 11 finds in the history can be told from
the history before and the records. -/
theorem alarmShown_iff
    {flash : PveFlash} {outcome : PveSelfTestOutcome}
    (reads : TrialReadsBack flash outcome) (world : PveWorld) :
    AlarmShown world flash outcome ↔
    HistoryShowsAlarm world.history flash outcome := by
  have found :
      ∀ id, ∃ entry,
        foundEntry flash outcome.trialRecord? id = some entry := by
    intro id
    apply Option.ne_none_iff_exists'.mp
    intro missing
    rw [foundEntry, Option.or_eq_none_iff] at missing
    exact reads.complete id missing.1 missing.2
  choose entry isEntry using found
  have isStored :
      ∀ id, storedEntry (trialFlash flash outcome) id = some (entry id) := by
    intro id
    rw [storedEntry_trialFlash, isEntry]
  have states :=
    pveLoadConfig_states isStored
      { world with pveVariables := pveInitVariables }
  have raised :
      raisedAtZero flash outcome =
        (List.finRange maxPveVariables).flatMap fun id =>
          ((pveInitVariables id).applied (entry id)).changes
            [(pveInitVariables id).runtime.rawValue] := by
    rw [raisedAtZero]
    simp only [isEntry, pveInitVariables_rawValue]
  rw [AlarmShown, HistoryShowsAlarm, trialLoaded, states, ← raised,
    entered_append]

/-! ## The theorem -/

/-- The settings in RAM, and those that the next load restores, are the same
after the self-test as before. -/
def SelfTestTransparent
    (world : PveWorld) (flash : PveFlash) (outcome : PveSelfTestOutcome) :
    Prop :=
  let result := pveRunSelfTests world flash outcome
  (∀ id,
      (result.world.pveVariables id).settings =
        (world.pveVariables id).settings) ∧
    ∀ id, restoredSettings result.flash id = restoredSettings flash id

/--
The self-test changes neither the settings in RAM nor those that the next
load restores exactly if there is nothing to restore: it puts back the
defaults, or leaves what the failed test has written, and not what it found.
-/
theorem self_test_transparent_iff
    (world : PveWorld) (flash : PveFlash) (outcome : PveSelfTestOutcome) :
    SelfTestTransparent world flash outcome ↔
    NothingToRestore world flash outcome := by
  have left := pveRunSelfTests_spec world flash outcome
  have trial := restoresTheSame_iff (storedEntry_trialFlash flash outcome)
  have final := restoresTheSame_iff (storedEntry_finalFlash flash outcome)
  have matched := trialMatches_iff flash outcome
  rw [SelfTestTransparent]
  simp only at left ⊢
  by_cases reads : TrialReadsBack flash outcome
  · have shown := alarmShown_iff reads world
    rw [if_neg (by simp [matched.mpr reads])] at left
    by_cases shows : HistoryShowsAlarm world.history flash outcome
    · rw [if_neg (not_not.mpr (shown.mpr shows))] at left
      rcases left with ⟨_, flashLeft, settingsLeft⟩
      simp only [flashLeft, settingsLeft, final]
      constructor
      · rintro ⟨inRam, inFlash⟩
        exact .passed reads shows (fun id => (inRam id).symm) inFlash
      · rintro (fails | ⟨_, fails⟩ | ⟨_, _, inRam, inFlash⟩)
        · exact absurd reads fails
        · exact absurd shows fails
        · exact ⟨fun id => (inRam id).symm, inFlash⟩
    · rw [if_pos (fun isShown => shows (shown.mp isShown))] at left
      rcases left with ⟨flashLeft, settingsLeft⟩
      simp only [flashLeft, settingsLeft, trial]
      constructor
      · rintro ⟨inRam, inFlash⟩
        exact .hidden reads shows (fun id => (inRam id).symm) inFlash
      · rintro (fails | ⟨_, _, inRam, inFlash⟩ | ⟨_, isShown⟩)
        · exact absurd reads fails
        · exact ⟨fun id => (inRam id).symm, inFlash⟩
        · exact absurd isShown shows
  · have unread :
        trialMatches (restoredSettings (trialFlash flash outcome)) =
          false := by
      rw [Bool.eq_false_iff]
      exact fun isRead => reads (matched.mp isRead)
    rw [if_pos unread] at left
    rcases left with ⟨flashLeft, settingsLeft⟩
    simp only [flashLeft, settingsLeft, trial]
    constructor
    · rintro ⟨inRam, inFlash⟩
      refine .unread reads (fun id => ?_) inFlash
      rw [← inRam id, trial.mpr inFlash id]
    · rintro (⟨_, inRam, inFlash⟩ | readsBack | readsBack)
      · refine ⟨fun id => ?_, inFlash⟩
        rw [inRam id, trial.mpr inFlash id]
      · exact absurd readsBack reads
      · exact absurd readsBack reads

theorem SelfTestTransparent.settings
    {world : PveWorld} {flash : PveFlash} {outcome : PveSelfTestOutcome}
    (transparent : SelfTestTransparent world flash outcome)
    (id : Fin maxPveVariables) :
    ((pveRunSelfTests world flash outcome).world.pveVariables id).settings =
      (world.pveVariables id).settings :=
  transparent.1 id

theorem passed_self_test
    {world : PveWorld} {flash : PveFlash} {outcome : PveSelfTestOutcome}
    (matched :
      trialMatches (restoredSettings (trialFlash flash outcome)) = true)
    (shown : AlarmShown world flash outcome) :
    (pveRunSelfTests world flash outcome).passed = true ∧
    (pveRunSelfTests world flash outcome).flash = finalFlash flash outcome ∧
    ∀ id,
      ((pveRunSelfTests world flash outcome).world.pveVariables id).settings =
        (pveInitVariables id).settings := by
  have left := pveRunSelfTests_spec world flash outcome
  have read :
      ¬ trialMatches (restoredSettings (trialFlash flash outcome)) =
          false := by
    rw [matched]
    exact Bool.noConfusion
  simp only at left
  rwa [if_neg read, if_neg (not_not.mpr shown)] at left

def PveSelfTestOutcome.succeeds : PveSelfTestOutcome where
  trial := .succeeds
  restored := .succeeds

theorem trial_reads_back (flash : PveFlash) :
    trialMatches (restoredSettings (trialFlash flash .succeeds)) = true := by
  have saved :
      restoredSettings (trialFlash flash .succeeds) =
        fun id => (trialVariables id).settings :=
    restoredSettings_saved (by decide +kernel) flash
  rw [saved]
  decide +kernel

/-- A device whose first variable has been given another name, in RAM and in
the flash. -/
def calibrated : PveVariables := fun id =>
  if id.val = 0 then
    { pveInitVariables id with name := CText.literal 16 "P1" }
  else pveInitVariables id

/-- The self-test passes, and the name is gone from RAM and from the flash. -/
theorem self_test_loses_calibration :
    let world := { bootWorld with pveVariables := calibrated }
    let flash := pveSaveConfig calibrated .succeeds none
    let result := pveRunSelfTests world flash .succeeds
    result.passed = true ∧
    (world.pveVariables 0).settings.name = CText.bytes "P1" ∧
    (result.world.pveVariables 0).settings.name = CText.bytes "AIN1" ∧
    (restoredSettings flash 0).name = CText.bytes "P1" ∧
    (restoredSettings result.flash 0).name = CText.bytes "AIN1" ∧
    ¬ SelfTestTransparent world flash .succeeds := by
  intro world flash result
  rcases
    @passed_self_test world flash .succeeds (trial_reads_back flash)
      (by decide +kernel) with
    ⟨passed, flashLeft, settingsLeft⟩
  have nameBefore :
      (world.pveVariables 0).settings.name = CText.bytes "P1" := by
    decide +kernel
  have nameDefault :
      (pveInitVariables 0).settings.name = CText.bytes "AIN1" := by
    decide +kernel
  have nameAfter :
      (result.world.pveVariables 0).settings.name =
        CText.bytes "AIN1" := by
    rw [settingsLeft 0]
    exact nameDefault
  have restoredBefore : (restoredSettings flash 0).name = CText.bytes "P1" := by
    rw [restoredSettings_saved (by decide +kernel)]
    exact nameBefore
  have restoredAfter :
      (restoredSettings result.flash 0).name = CText.bytes "AIN1" := by
    have saved :
        restoredSettings (finalFlash flash .succeeds) =
          fun id => (pveInitVariables id).settings :=
      restoredSettings_saved (by decide +kernel) _
    rw [flashLeft, saved]
    exact nameDefault
  refine ⟨passed, nameBefore, nameAfter, restoredBefore, restoredAfter, ?_⟩
  intro transparent
  have same := transparent.settings 0
  rw [settingsLeft 0] at same
  exact absurd same (by decide +kernel)

end Endap.Pve
