import Endap.Pve.Storage
import Mathlib.Logic.Function.Iterate

/-!
# The self-test of the process variables

On every boot, after the stored configuration is loaded, the self-test checks
the scaling, the storage and the alarms.  It works on the variables and the
namespace of the device.  Before the storage test it keeps a copy of the
variables, but by then it has already set them to the defaults; on success it
puts these back and saves them, and on a failure it leaves everything as the
failed step found it.

The self-test therefore changes nothing only on a device that has, and has
stored, what the self-test leaves.
-/

namespace Endap.Pve

open Endap.Library

/-! ## The steps of the test -/

/-- Tests 1 to 8. -/
def scaleTests : Bool :=
  pveScale 2048 0 4095 0 1000 = 500 ∧
  pveScale 1024 0 4095 0 1000 = 250 ∧
  pveScale 2048 0 4095 1000 0 = 500 ∧
  pveScale 1024 0 4095 1000 0 = 750 ∧
  pveScale (-100) 0 4095 0 1000 = 0 ∧
  pveScale 4200 4095 0 0 1000 = 0 ∧
  pveScale 5000 0 4095 0 1000 = 1000 ∧
  pveScale (-50) 4095 0 0 1000 = 1000 ∧
  pveScale 2048 0 4095 0 10000 = 5001 ∧
  pveScale 819 819 4095 0 10000 = 0 ∧
  pveScale 2457 819 4095 0 10000 = 5000 ∧
  pveScale 4095 819 4095 0 10000 = 10000 ∧
  pveScale 2000 1000 1000 50 100 = 50 ∧
  ∀ _iteration ∈ List.range 1000,
    pveScale 1500 0 4095 0 1000 = pveScale 1500 0 4095 0 1000

/-- A variable with another scaled value. -/
def PveVariable.showing (var : PveVariable) (scaledValue : Int32) :
    PveVariable :=
  { var with runtime := { var.runtime with scaledValue := scaledValue } }

/-- The variables of test 9, which `backup_vars` copies. -/
def backupVars : PveVariables :=
  Function.update
    (Function.update pveInitVariables 0 ((pveInitVariables 0).showing 598))
    1 ((pveInitVariables 1).showing 7500)

/-- Test 9. -/
def lookupTests (pveVariables : PveVariables) : Bool :=
  pveGetScaledValue pveVariables 12 100 = 598 ∧
  pveGetScaledValue pveVariables 13 200 = 7500 ∧
  pveGetScaledValue pveVariables 10 42 = 42

/-- The variables that test 10 saves. -/
def trialVariables : PveVariables :=
  let first := backupVars 0
  let second := backupVars 1
  Function.update
    (Function.update backupVars 0
      { first with
        name := CText.strncpy first.name (CText.bytes "TEST_P1") 15
        config :=
          { inputMin := 100, inputMax := 900, scaledMin := 10
            scaledMax := 90, decimals := 3
            unit := CText.strncpy first.config.unit (CText.bytes "psi") 7 }
        alarm :=
          { first.alarm with enabled := 1, highLimit := 85
                             lowLimit := 15 } })
    1
    { second with
      name := CText.strncpy second.name (CText.bytes "TEST_P2") 15
      config :=
        { inputMin := 200, inputMax := 800, scaledMin := 20
          scaledMax := 80, decimals := 0
          unit := CText.strncpy second.config.unit (CText.bytes "C") 7 }
      alarm :=
        { second.alarm with enabled := 0, highLimit := 70
                            lowLimit := 30 } }

/-- The checks of test 10 on one variable. -/
def PveSettings.matches
    (settings : PveSettings) (name : String)
    (inputMin inputMax scaledMin scaledMax : Int32) (decimals : UInt8)
    (unit : String) (enabled : UInt8) (highLimit lowLimit : Int32) :
    Bool :=
  settings.name = CText.bytes name ∧ settings.inputMin = inputMin ∧
  settings.inputMax = inputMax ∧ settings.scaledMin = scaledMin ∧
  settings.scaledMax = scaledMax ∧ settings.decimals = decimals ∧
  settings.unit = CText.bytes unit ∧ settings.alarm.enabled = enabled ∧
  settings.alarm.highLimit = highLimit ∧
  settings.alarm.lowLimit = lowLimit

/-- The checks of test 10. -/
def trialMatches (settings : Fin maxPveVariables → PveSettings) : Bool :=
  (settings 0).matches "TEST_P1" 100 900 10 90 3 "psi" 1 85 15 &&
    (settings 1).matches "TEST_P2" 200 800 20 80 0 "C" 0 70 30

/-- The defaults with the alarm of the first variable enabled, as test 11 and
the first audit set them. -/
def armedVariables : PveVariables :=
  Function.update pveInitVariables 0
    { pveInitVariables 0 with
      alarm :=
        { highLimit := 800, lowLimit := 200, hysteresis := 50
          enabled := 1 }
      runtime := { (pveInitVariables 0).runtime with alarmState := .ok } }

/-- The alarm state of the first variable. -/
def PveWorld.firstAlarm (world : PveWorld) : AlarmState :=
  (world.pveVariables 0).runtime.alarmState

/-- The last two events copied are a high alarm and its end. -/
def endsHighOk (events : List AlarmState) : Bool :=
  events.length ≥ 2 ∧ events[events.length - 2]? = some .high ∧
  events[events.length - 1]? = some .ok

/-- Test 11. -/
def alarmTest (world : PveWorld) : Bool × PveWorld :=
  let armed := { world with pveVariables := armedVariables }
  let high := pveUpdate armed 0 3276
  if high.firstAlarm ≠ .high then (false, high)
  else
    let held := pveUpdate high 0 3075
    if held.firstAlarm ≠ .high then (false, held)
    else
      let normal := pveUpdate held 0 3071
      if normal.firstAlarm ≠ .ok then (false, normal)
      else
        (endsHighOk
            ((pveGetAlarmHistory normal.history 10).map PveAlarmEvent.state),
          normal)

/-- One alarm of the first audit, and its end. -/
def alarmCycle (world : PveWorld) : PveWorld :=
  pveUpdate (pveUpdate world 0 3276) 0 3071

/-- The checks of the first audit: the history is full, and its last states
are a high alarm and its end. -/
def fullHighOk (auditEvents : List PveAlarmEvent) : Bool :=
  auditEvents.length = 64 ∧
  auditEvents[63]?.map PveAlarmEvent.state = some .ok ∧
  auditEvents[62]?.map PveAlarmEvent.state = some .high

/-- The first audit. -/
def overflowAudit (world : PveWorld) : Bool × PveWorld :=
  let cycled := alarmCycle^[100] { world with pveVariables := armedVariables }
  (fullHighOk (pveGetAlarmHistory cycled.history 100), cycled)

/-- The first variable with a high alarm. -/
def PveVariable.alarming (var : PveVariable) : PveVariable :=
  { var with runtime := { var.runtime with alarmState := .high } }

/-- The second audit. -/
def chatterAudit (world : PveWorld) : Bool × PveWorld :=
  let cleared := { world with history := pveClearAlarmHistory }
  let countBeforeStorm := (pveGetAlarmHistory cleared.history 64).length
  let alarming :=
    { cleared with
      pveVariables :=
        Function.update cleared.pveVariables 0
          (cleared.pveVariables 0).alarming }
  let stormed :=
    pveUpdates alarming 0 [3071, 3272, 3280, 3272, 3280, 3272, 3280]
  let countAfterStorm := (pveGetAlarmHistory stormed.history 64).length
  (countAfterStorm - countBeforeStorm = 2, stormed)

/-! ## The whole test -/

/-- The outcomes of the two saves of the self-test. -/
structure PveSelfTestOutcome where
  trial : PveSaveOutcome
  restored : PveSaveOutcome

/-- What the self-test returns and leaves. -/
structure PveSelfTestResult where
  passed : Bool
  world : PveWorld
  flash : PveFlash

def pveRunSelfTests
    (world : PveWorld) (flash : PveFlash) (outcome : PveSelfTestOutcome) :
    PveSelfTestResult :=
  if scaleTests = false then ⟨false, world, flash⟩
  else
    let looked := { world with pveVariables := backupVars }
    if lookupTests looked.pveVariables = false then ⟨false, looked, flash⟩
    else
      let saved := pveSaveConfig trialVariables outcome.trial flash
      let loaded :=
        pveLoadConfig { looked with pveVariables := pveInitVariables } saved
      if trialMatches (fun id => (loaded.pveVariables id).settings) =
          false then
        ⟨false, loaded, saved⟩
      else
        let alarmed := alarmTest loaded
        if alarmed.1 = false then ⟨false, alarmed.2, saved⟩
        else
          let overflowed := overflowAudit alarmed.2
          if overflowed.1 = false then ⟨false, overflowed.2, saved⟩
          else
            let stormed := chatterAudit overflowed.2
            if stormed.1 = false then ⟨false, stormed.2, saved⟩
            else
              ⟨true, { stormed.2 with pveVariables := backupVars },
                pveSaveConfig backupVars outcome.restored saved⟩

/-! ## The checks that cannot fail -/

theorem scaleTests_pass : scaleTests = true := by
  refine decide_eq_true ⟨?_, ?_, ?_, ?_, ?_, ?_, ?_, ?_, ?_, ?_, ?_, ?_,
    ?_, fun _ _ => rfl⟩
  all_goals decide +kernel

theorem lookupTests_pass : lookupTests backupVars = true := by
  decide +kernel

variable {world : PveWorld} {var : PveVariable}

theorem pveUpdates_first
    (isVar : world.pveVariables 0 = var) (samples : List Int32) :
    (pveUpdates world 0 samples).pveVariables 0 =
      samples.foldl PveVariable.updated var := by
  rw [(pveUpdates_spec samples world 0).1, Function.update_self, isVar]

theorem firstAlarm_pveUpdates
    (isVar : world.pveVariables 0 = var) (samples : List Int32) :
    (pveUpdates world 0 samples).firstAlarm =
      (samples.foldl PveVariable.updated var).runtime.alarmState := by
  rw [PveWorld.firstAlarm, pveUpdates_first isVar]

/-- The first variable after the alarm test. -/
def testedFirst : PveVariable :=
  [3276, 3075, 3071].foldl PveVariable.updated (armedVariables 0)

theorem alarmTest_eq (world : PveWorld) :
    (alarmTest world).1 =
        endsHighOk ((entered world.history.states [.high, .ok]).take 10) ∧
    (alarmTest world).2.pveVariables =
      Function.update armedVariables 0 testedFirst := by
  rw [alarmTest]
  generalize isArmed :
    ({ world with pveVariables := armedVariables } : PveWorld) = armed
  have armedVars : armed.pveVariables = armedVariables := by rw [← isArmed]
  have armedHistory : armed.history = world.history := by rw [← isArmed]
  have isFirst : armed.pveVariables 0 = armedVariables 0 := by
    rw [armedVars]
  have high : (pveUpdates armed 0 [3276]).firstAlarm = .high := by
    rw [firstAlarm_pveUpdates isFirst]
    decide +kernel
  have held : (pveUpdates armed 0 [3276, 3075]).firstAlarm = .high := by
    rw [firstAlarm_pveUpdates isFirst]
    decide +kernel
  have normal : (pveUpdates armed 0 [3276, 3075, 3071]).firstAlarm = .ok := by
    rw [firstAlarm_pveUpdates isFirst]
    decide +kernel
  have logged :
      (armedVariables 0).changes [3276, 3075, 3071] = [.high, .ok] := by
    decide +kernel
  rcases pveUpdates_spec [3276, 3075, 3071] armed 0 with
    ⟨reached, states⟩
  rw [isFirst, armedVars, ← testedFirst] at reached
  rw [isFirst, logged, armedHistory] at states
  simp only [pveUpdates, List.foldl_cons, List.foldl_nil] at high held
  simp only [pveUpdates, List.foldl_cons, List.foldl_nil] at normal
  simp only [pveUpdates, List.foldl_cons, List.foldl_nil] at reached states
  simp only [high, held, normal, ne_eq, not_true, if_false]
  refine ⟨?_, reached⟩
  rw [pveGetAlarmHistory_eq, List.map_take]
  rw [← states, AlarmHistory.states]

/-! ## The audits -/

/-- The first variable after a cycle of the first audit. -/
def cycledFirst : PveVariable :=
  [3276, 3071].foldl PveVariable.updated (armedVariables 0)

theorem alarmCycle_spec
    (isFirst :
      world.pveVariables 0 = armedVariables 0 ∨
      world.pveVariables 0 = cycledFirst) :
    (alarmCycle world).pveVariables 0 = cycledFirst ∧
    (alarmCycle world).history.states =
      entered world.history.states [.high, .ok] := by
  have isUpdates : alarmCycle world = pveUpdates world 0 [3276, 3071] := rfl
  rcases pveUpdates_spec [3276, 3071] world 0 with ⟨_, states⟩
  rw [isUpdates]
  rcases isFirst with isArmed | isCycled
  · have logged : (armedVariables 0).changes [3276, 3071] = [.high, .ok] := by
      decide +kernel
    rw [isArmed, logged] at states
    exact ⟨pveUpdates_first isArmed _, states⟩
  · have logged : cycledFirst.changes [3276, 3071] = [.high, .ok] := by
      decide +kernel
    have runtime :
        ([3276, 3071].foldl PveVariable.updated cycledFirst).runtime =
          cycledFirst.runtime := by
      decide +kernel
    have again :
        [3276, 3071].foldl PveVariable.updated cycledFirst =
          cycledFirst :=
      congrArg (fun runtime => { cycledFirst with runtime := runtime }) runtime
    rw [isCycled, logged] at states
    exact ⟨(pveUpdates_first isCycled _).trans again, states⟩

theorem entered_length (states new : List AlarmState) (fits : states.length ≤ 64) :
    (entered states new).length = min (states.length + new.length) 64 := by
  induction new generalizing states with
  | nil => exact (Nat.min_eq_left fits).symm
  | cons state new induction =>
      have length := latest_length (states ++ [state])
      rw [List.length_append, List.length_singleton] at length
      refine (induction (latest (states ++ [state])) (by omega)).trans ?_
      rw [length, List.length_cons]
      omega

theorem alarmCycles_spec
    (isFirst : world.pveVariables 0 = armedVariables 0) (count : Nat) :
    ((alarmCycle^[count] world).pveVariables 0 = armedVariables 0 ∨
        (alarmCycle^[count] world).pveVariables 0 = cycledFirst) ∧
      (alarmCycle^[count] world).history.states.length =
        min (world.history.states.length + 2 * count) 64 := by
  have fits : world.history.states.length ≤ 64 := by
    rw [states_length]
    exact world.history.countFits
  induction count with
  | zero => exact ⟨Or.inl isFirst, (Nat.min_eq_left fits).symm⟩
  | succ count induction =>
      rcases induction with ⟨reached, length⟩
      rcases alarmCycle_spec reached with ⟨first, states⟩
      rw [Function.iterate_succ_apply']
      refine ⟨Or.inr first, ?_⟩
      rw [states, entered_length _ _ (by omega), length]
      simp only [List.length_cons, List.length_nil]
      omega

theorem latest_full
    {states : List AlarmState} (full : states.length = 64)
    (state : AlarmState) :
    latest (states ++ [state]) = states.drop 1 ++ [state] := by
  have excess : (states ++ [state]).length - alarmHistoryMax = 1 := by
    rw [List.length_append, full]
    rfl
  rw [latest, excess, List.drop_append_of_le_length (by omega)]

theorem entered_full
    {states : List AlarmState} (full : states.length = 64)
    (first second : AlarmState) :
    entered states [first, second] = states.drop 2 ++ [first, second] := by
  have still : (states.drop 1 ++ [first]).length = 64 := by
    simp [full]
  rw [entered, List.foldl_cons, List.foldl_cons, List.foldl_nil,
    latest_full full, latest_full still,
    List.drop_append_of_le_length (by simp [full]), List.drop_drop]
  simp

/-- A hundred cycles fill the history, and its last two states are a high
alarm and its end. -/
theorem hundred_cycles
    {armed : PveWorld}
    (isFirst : armed.pveVariables 0 = armedVariables 0) :
    (alarmCycle^[100] armed).pveVariables 0 = cycledFirst ∧
    ∃ earlier : List AlarmState,
      earlier.length = 62 ∧
      (alarmCycle^[100] armed).history.states =
        earlier ++ [.high, .ok] := by
  rcases alarmCycles_spec isFirst 99 with ⟨reached, length⟩
  have full : (alarmCycle^[99] armed).history.states.length = 64 := by
    omega
  have next : alarmCycle^[100] armed = alarmCycle (alarmCycle^[99] armed) :=
    Function.iterate_succ_apply' alarmCycle 99 armed
  rcases alarmCycle_spec reached with ⟨first, states⟩
  rw [next]
  refine ⟨first, _, ?_, states.trans (entered_full full _ _)⟩
  rw [List.length_drop, full]

theorem fullHighOk_of_states
    {events : List PveAlarmEvent} {earlier : List AlarmState}
    (length : earlier.length = 62)
    (states : events.map PveAlarmEvent.state = earlier ++ [.high, .ok]) :
    fullHighOk events = true := by
  have size := congrArg List.length states
  have last := congrArg (·[63]?) states
  have next := congrArg (·[62]?) states
  simp only [List.getElem?_map] at last next
  refine decide_eq_true ⟨?_, last.trans ?_, next.trans ?_⟩
  · simpa [length] using size
  · simp [length]
  · simp [length]

theorem overflowAudit_passes (world : PveWorld) :
    (overflowAudit world).1 = true ∧
    (overflowAudit world).2.pveVariables 0 = cycledFirst := by
  rw [overflowAudit]
  generalize isArmed :
    ({ world with pveVariables := armedVariables } : PveWorld) = armed
  have isFirst : armed.pveVariables 0 = armedVariables 0 := by
    rw [← isArmed]
  rcases hundred_cycles isFirst with ⟨first, earlier, length, states⟩
  generalize alarmCycle^[100] armed = cycled at first states ⊢
  refine ⟨fullHighOk_of_states length ?_, first⟩
  rw [pveGetAlarmHistory_eq, List.map_take, ← AlarmHistory.states, states]
  exact List.take_of_length_le (by simp [length])

theorem chatterAudit_passes
    (isFirst : world.pveVariables 0 = cycledFirst) :
    (chatterAudit world).1 = true := by
  rw [chatterAudit]
  simp only
  generalize isAlarming :
    ({ world with
        history := pveClearAlarmHistory
        pveVariables :=
          Function.update world.pveVariables 0
            (world.pveVariables 0).alarming } : PveWorld) = alarming
  have first : alarming.pveVariables 0 = cycledFirst.alarming := by
    rw [← isAlarming, ← isFirst]
    simp only [Function.update_self]
  have cleared : alarming.history = pveClearAlarmHistory := by
    rw [← isAlarming]
  have logged :
      cycledFirst.alarming.changes [3071, 3272, 3280, 3272, 3280, 3272, 3280] =
        [.ok, .high] := by
    decide +kernel
  rcases
    pveUpdates_spec [3071, 3272, 3280, 3272, 3280, 3272, 3280] alarming
      0 with
    ⟨_, states⟩
  rw [first, logged, cleared] at states
  have count := congrArg List.length states
  rw [states_length] at count
  rw [pveGetAlarmHistory_eq, pveGetAlarmHistory_eq, List.length_take,
    List.length_take, AlarmHistory.logged_length,
    AlarmHistory.logged_length, count]
  decide +kernel

/-! ## What the self-test leaves -/

/-- The settings that the next load after a boot restores. -/
def restoredSettings (flash : PveFlash) (id : Fin maxPveVariables) :
    PveSettings :=
  ((pveLoadConfig bootWorld flash).pveVariables id).settings

theorem restoredSettings_saved
    {pveVariables : PveVariables}
    (terminated :
      ∀ id,
        CText.Terminated (pveVariables id).name ∧
        CText.Terminated (pveVariables id).config.unit)
    (flash : PveFlash) :
    restoredSettings (pveSaveConfig pveVariables .succeeds flash) =
      fun id => (pveVariables id).settings := by
  funext id
  exact (reboot_restores terminated flash rfl id).2.2

/-- The flash after the save of test 10. -/
def trialFlash (flash : PveFlash) (outcome : PveSelfTestOutcome) :
    PveFlash :=
  pveSaveConfig trialVariables outcome.trial flash

/-- The flash after the save at the end of the self-test. -/
def finalFlash (flash : PveFlash) (outcome : PveSelfTestOutcome) :
    PveFlash :=
  pveSaveConfig pveInitVariables outcome.restored (trialFlash flash outcome)

theorem load_settings
    (ends : ∀ id, (world.pveVariables id).EndsInZero) (flash : PveFlash)
    (id : Fin maxPveVariables) :
    ((pveLoadConfig world flash).pveVariables id).settings =
      restoredSettings flash id := by
  rw [restoredSettings]
  rcases pveLoadConfig_cases world flash with
    ⟨stored, isStored, loaded⟩ | ⟨⟨missing, isMissing⟩, defaults⟩
  · rcases pveLoadConfig_cases bootWorld flash with
      ⟨other, isOther, otherLoaded⟩ | ⟨⟨missing, isMissing⟩, _⟩
    · have same : stored id = other id :=
        Option.some.inj ((isStored id).symm.trans (isOther id))
      rw [loaded, otherLoaded, loaded_settings (ends id), same]
      exact (loaded_settings ⟨rfl, rfl⟩ _).symm
    · cases (isStored missing).symm.trans isMissing
  · rcases pveLoadConfig_cases bootWorld flash with
      ⟨other, isOther, _⟩ | ⟨_, otherDefaults⟩
    · cases (isOther missing).symm.trans isMissing
    · rw [defaults, otherDefaults]

theorem update_settings
    {pveVariables : PveVariables} {changed : Fin maxPveVariables}
    (same : var.settings = (pveVariables changed).settings)
    (id : Fin maxPveVariables) :
    (Function.update pveVariables changed var id).settings =
      (pveVariables id).settings := by
  by_cases here : id = changed
  · subst here
    rw [Function.update_self, same]
  · rw [Function.update_of_ne here]

theorem backupVars_settings (id : Fin maxPveVariables) :
    (backupVars id).settings = (pveInitVariables id).settings := by
  rw [backupVars, update_settings, update_settings]
  · rfl
  · rw [Function.update_of_ne (by decide)]
    rfl

theorem tested_settings (id : Fin maxPveVariables) :
    (Function.update armedVariables 0 testedFirst id).settings =
      (armedVariables id).settings := by
  have same : testedFirst.settings = (armedVariables 0).settings := rfl
  exact update_settings same id

theorem ofVariable_showing (var : PveVariable) (scaledValue : Int32) :
    PersistedConfig.ofVariable (var.showing scaledValue) = .ofVariable var :=
  rfl

theorem save_backupVars (outcome : PveSaveOutcome) (flash : PveFlash) :
    pveSaveConfig backupVars outcome flash =
      pveSaveConfig pveInitVariables outcome flash := by
  have same :
      ∀ id,
        PersistedConfig.ofVariable (backupVars id) =
          .ofVariable (pveInitVariables id) := by
    intro id
    rw [backupVars]
    by_cases isSecond : id = 1
    · rw [isSecond, Function.update_self, ofVariable_showing]
    · rw [Function.update_of_ne isSecond]
      by_cases isFirst : id = 0
      · rw [isFirst, Function.update_self, ofVariable_showing]
      · rw [Function.update_of_ne isFirst]
  simp only [pveSaveConfig, same]

theorem pveInitVariables_endInZero (id : Fin maxPveVariables) :
    (pveInitVariables id).EndsInZero := by
  revert id
  decide +kernel

/-- The state after test 10 has loaded what it saved. -/
def trialLoaded
    (world : PveWorld) (flash : PveFlash) (outcome : PveSelfTestOutcome) :
    PveWorld :=
  pveLoadConfig { world with pveVariables := pveInitVariables }
    (trialFlash flash outcome)

/-- Test 11 finds the high alarm and its end: entered behind what the load of
test 10 has left in the history, they are the last of its ten oldest
states. -/
def AlarmShown
    (world : PveWorld) (flash : PveFlash) (outcome : PveSelfTestOutcome) :
    Prop :=
  endsHighOk
      ((entered (trialLoaded world flash outcome).history.states
          [.high, .ok]).take 10) =
    true

instance (world : PveWorld) (flash : PveFlash)
    (outcome : PveSelfTestOutcome) :
    Decidable (AlarmShown world flash outcome) :=
  inferInstanceAs (Decidable (_ = _))

theorem trialLoaded_settings
    (world : PveWorld) (flash : PveFlash) (outcome : PveSelfTestOutcome)
    (id : Fin maxPveVariables) :
    ((trialLoaded world flash outcome).pveVariables id).settings =
      restoredSettings (trialFlash flash outcome) id :=
  load_settings pveInitVariables_endInZero _ id

theorem pveRunSelfTests_eq
    (world : PveWorld) (flash : PveFlash) (outcome : PveSelfTestOutcome) :
    pveRunSelfTests world flash outcome =
      let loaded := trialLoaded world flash outcome
      let alarmed := alarmTest loaded
      if trialMatches (fun id => (loaded.pveVariables id).settings) =
          false then
        ⟨false, loaded, trialFlash flash outcome⟩
      else if alarmed.1 = false then
        ⟨false, alarmed.2, trialFlash flash outcome⟩
      else
        ⟨true,
          { (chatterAudit (overflowAudit alarmed.2).2).2 with
            pveVariables := backupVars },
          pveSaveConfig backupVars outcome.restored
            (trialFlash flash outcome)⟩ := by
  have audited := fun world => (overflowAudit_passes world).1
  have stormed := fun world =>
    chatterAudit_passes (overflowAudit_passes world).2
  simp only [pveRunSelfTests, scaleTests_pass, lookupTests_pass, audited,
    stormed, Bool.true_eq_false, if_false, trialLoaded, trialFlash]
  rfl

theorem pveRunSelfTests_spec
    (world : PveWorld) (flash : PveFlash) (outcome : PveSelfTestOutcome) :
    let result := pveRunSelfTests world flash outcome
    if trialMatches (restoredSettings (trialFlash flash outcome)) =
        false then
      result.flash = trialFlash flash outcome ∧
      ∀ id,
        (result.world.pveVariables id).settings =
          restoredSettings (trialFlash flash outcome) id
    else if ¬ AlarmShown world flash outcome then
      result.flash = trialFlash flash outcome ∧
      ∀ id,
        (result.world.pveVariables id).settings = (armedVariables id).settings
    else
      result.passed = true ∧ result.flash = finalFlash flash outcome ∧
      ∀ id,
        (result.world.pveVariables id).settings =
          (pveInitVariables id).settings := by
  have settings := trialLoaded_settings world flash outcome
  rcases alarmTest_eq (trialLoaded world flash outcome) with
    ⟨shown, tested⟩
  have matched :
      trialMatches
          (fun id =>
            ((trialLoaded world flash outcome).pveVariables id).settings) =
        trialMatches (restoredSettings (trialFlash flash outcome)) :=
    congrArg trialMatches (funext settings)
  simp only [pveRunSelfTests_eq, matched]
  by_cases unread :
      trialMatches (restoredSettings (trialFlash flash outcome)) = false
  · rw [if_pos unread, if_pos unread]
    exact ⟨rfl, settings⟩
  · rw [if_neg unread, if_neg unread]
    cases passed : (alarmTest (trialLoaded world flash outcome)).1 with
    | false =>
        have hidden : ¬ AlarmShown world flash outcome := by
          intro shows
          rw [shown] at passed
          exact Bool.false_ne_true (passed.symm.trans shows)
        rw [if_pos rfl, if_pos hidden]
        refine ⟨rfl, fun id => ?_⟩
        rw [tested]
        exact tested_settings id
    | true =>
        have shows : AlarmShown world flash outcome := by
          rw [shown] at passed
          exact passed
        rw [if_neg (not_not.mpr shows), if_neg Bool.noConfusion]
        exact ⟨rfl, save_backupVars _ _, backupVars_settings⟩

end Endap.Pve
