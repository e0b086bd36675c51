import Endap.Library.Run
import Endap.Pve.History

/-!
# Hysteresis of the alarms

An alarm is raised at its limit and given up only when the value has come back
by the hysteresis.  Between two alarms of one kind the value has therefore
crossed the whole band, and a value that trembles at the limit raises one
alarm only.
-/

namespace Endap.Pve

open Endap.Library
open Endap.State

/-! ## The bands -/

/-- A number that an `int32_t` can hold. -/
def FitsInt32 (value : Int) : Prop := -2147483648 ≤ value ∧ value < 2147483648

instance (value : Int) : Decidable (FitsInt32 value) :=
  inferInstanceAs (Decidable (_ ∧ _))

/-- Where a high alarm is given up. -/
def PveAlarm.highBack (alarm : PveAlarm) : Int :=
  alarm.highLimit.toInt - alarm.hysteresis.toInt

/-- Where a low alarm is given up. -/
def PveAlarm.lowBack (alarm : PveAlarm) : Int :=
  alarm.lowLimit.toInt + alarm.hysteresis.toInt

/-- An alarm that is enabled and whose bands end within 32 bits. -/
structure PveAlarm.Banded (alarm : PveAlarm) : Prop where
  enabled : alarm.enabled ≠ 0
  highFits : FitsInt32 alarm.highBack
  lowFits : FitsInt32 alarm.lowBack

variable {alarm : PveAlarm}

theorem PveAlarm.Banded.le_highBack_iff
    (banded : alarm.Banded) (value : Int32) :
    value ≤ alarm.highLimit - alarm.hysteresis ↔
    value.toInt ≤ alarm.highBack := by
  have fits := banded.highFits
  rw [Int32.le_iff_toInt_le, Int32.toInt_sub]
  rw [Int.bmod_eq_of_le]
  · rfl
  · exact fits.1
  · exact fits.2

theorem PveAlarm.Banded.ge_lowBack_iff
    (banded : alarm.Banded) (value : Int32) :
    value ≥ alarm.lowLimit + alarm.hysteresis ↔
    alarm.lowBack ≤ value.toInt := by
  have fits := banded.lowFits
  rw [ge_iff_le, Int32.le_iff_toInt_le, Int32.toInt_add]
  rw [Int.bmod_eq_of_le]
  · rfl
  · exact fits.1
  · exact fits.2

/-- What a change of the alarm state says of the value. -/
structure PveAlarm.Crossed (alarm : PveAlarm) (before after : AlarmState)
    (value : Int32) : Prop where
  high_entered :
    before ≠ .high → after = .high → alarm.highLimit.toInt ≤ value.toInt
  high_left : before = .high → after ≠ .high → value.toInt ≤ alarm.highBack
  low_entered :
    before ≠ .low → after = .low → value.toInt ≤ alarm.lowLimit.toInt
  low_left : before = .low → after ≠ .low → alarm.lowBack ≤ value.toInt

theorem nextAlarmState_crossed
    (banded : alarm.Banded) (state : AlarmState)
    (value : Int32) :
    alarm.Crossed state (nextAlarmState alarm state value) value := by
  have enabled := banded.enabled
  cases state with
  | high =>
      simp only [nextAlarmState, if_pos enabled, banded.le_highBack_iff, Int32.le_iff_toInt_le]
      split
      · next back =>
          split
          · next low => constructor <;> simp [back, low]
          · next above => constructor <;> simp [back]
      · next kept => constructor <;> simp
  | low =>
      simp only [nextAlarmState, if_pos enabled, banded.ge_lowBack_iff, ge_iff_le, Int32.le_iff_toInt_le]
      split
      · next back =>
          split
          · next high => constructor <;> simp [back, high]
          · next below => constructor <;> simp [back]
      · next kept => constructor <;> simp
  | ok =>
      simp only [nextAlarmState, if_pos enabled, ge_iff_le, Int32.le_iff_toInt_le]
      split
      · next high => constructor <;> simp [high]
      · next below =>
          split
          · next low => constructor <;> simp [low]
          · next above => constructor <;> simp

/-! ## Runs -/

/-- One call of `pve_update`: a variable and a raw value. -/
def pveStep (world : PveWorld) (sample : Fin maxPveVariables × Int32) :
    PveWorld × Unit :=
  (pveUpdate world sample.1 sample.2, ())

/-- The event of a variable that has changed its alarm state. -/
def alarmEvent (world : PveWorld) (id : Fin maxPveVariables)
    (after : PveVariable) : PveAlarmEvent where
  timestamp := world.seconds 0
  pveId := UInt16.ofNat id.val
  state := after.runtime.alarmState
  scaledValue := after.runtime.scaledValue

theorem pveUpdate_logged
    (world : PveWorld) (id : Fin maxPveVariables) (rawValue : Int32) :
    let before := world.pveVariables id
    let after := before.updated rawValue
    (pveUpdate world id rawValue).history.logged =
      if after.runtime.alarmState ≠ before.runtime.alarmState then
        latest (world.history.logged ++ [alarmEvent world id after])
      else world.history.logged := by
  intro before after
  rw [pveUpdate]
  split
  · exact logged_log _ _
  · rfl

/-- What an update does, seen from one variable. -/
structure Hysteresis (alarm : PveAlarm) (id : Fin maxPveVariables)
    (made : Run.Transition PveWorld (Fin maxPveVariables × Int32) Unit) :
    Prop where
  updated :
    made.action.1 = id →
    made.after.pveVariables id =
      (made.before.pveVariables id).updated made.action.2
  crossed :
    made.action.1 = id →
    alarm.Crossed (made.before.pveVariables id).runtime.alarmState
      (made.after.pveVariables id).runtime.alarmState
      (made.after.pveVariables id).runtime.scaledValue
  logged :
    made.action.1 = id →
    made.after.history.logged =
      if (made.after.pveVariables id).runtime.alarmState ≠
          (made.before.pveVariables id).runtime.alarmState then
        latest
          (made.before.history.logged ++
            [alarmEvent made.before id (made.after.pveVariables id)])
      else made.before.history.logged
  others :
    made.action.1 ≠ id →
    made.after.pveVariables id = made.before.pveVariables id

theorem pveStep_hysteresis
    {world : PveWorld} {id : Fin maxPveVariables}
    (banded : (world.pveVariables id).alarm.Banded)
    (sample : Fin maxPveVariables × Int32) :
    Hysteresis (world.pveVariables id).alarm id
      (Run.call pveStep world sample) := by
  rcases sample with ⟨var, rawValue⟩
  have after := pveUpdate_pveVariables world var rawValue
  constructor
  · rintro rfl
    exact (congrFun after _).trans (Function.update_self _ _ _)
  · rintro rfl
    rw [Run.call, pveStep]
    simp only
    rw [after, Function.update_self]
    exact nextAlarmState_crossed banded _ _
  · rintro rfl
    rw [Run.call, pveStep]
    simp only
    rw [after, Function.update_self]
    exact pveUpdate_logged world _ rawValue
  · intro other
    exact (congrFun after id).trans (Function.update_of_ne other.symm _ _)

theorem pveStep_alarm
    (world : PveWorld) (id : Fin maxPveVariables)
    (sample : Fin maxPveVariables × Int32) :
    ((pveStep world sample).1.pveVariables id).alarm =
      (world.pveVariables id).alarm := by
  rw [pveStep, pveUpdate_pveVariables]
  by_cases same : id = sample.1
  · subst same
    rw [Function.update_self]
    rfl
  · rw [Function.update_of_ne same]

/-- A sample puts a variable into an alarm state. -/
def Enters (id : Fin maxPveVariables) (state : AlarmState)
    (world : PveWorld) (sample : Fin maxPveVariables × Int32) : Prop :=
  (world.pveVariables id).runtime.alarmState ≠ state ∧
  ((pveStep world sample).1.pveVariables id).runtime.alarmState = state

/-- The value has come back from an alarm by the whole band. -/
def PveAlarm.Back (alarm : PveAlarm) (value : Int32) : AlarmState → Prop
  | .high => value.toInt ≤ alarm.highBack
  | .low => alarm.lowBack ≤ value.toInt
  | .ok => True

/--
In every run of updates, a variable with an enabled alarm enters and leaves
its alarm states at the limits and at the ends of the bands, an event with the
new state and the value is appended at each change and at no other time, and
between two entries into one alarm state the value has come back by the whole
band.
-/
theorem pveUpdate_hysteresis
    {start : PveWorld} {id : Fin maxPveVariables}
    (banded : (start.pveVariables id).alarm.Banded)
    (samples : List (Fin maxPveVariables × Int32)) :
    (∀ made ∈ Run.history pveStep start samples,
        Hysteresis (start.pveVariables id).alarm id made) ∧
      ∀ earlier first between second later state,
        samples = earlier ++ first :: (between ++ second :: later) →
        Enters id state (Run.final pveStep start earlier) first →
        Enters id state
          (Run.final pveStep start (earlier ++ first :: between))
          second →
        ∃ made ∈
          Run.history pveStep
            (Run.final pveStep start (earlier ++ [first])) between,
          made.action.1 = id ∧
          (start.pveVariables id).alarm.Back
            (made.after.pveVariables id).runtime.scaledValue state := by
  have all :
      ∀ made ∈ Run.history pveStep start samples,
        Hysteresis (start.pveVariables id).alarm id made := by
    intro made member
    rcases
      Run.history_invariant
        (fun world =>
          (world.pveVariables id).alarm = (start.pveVariables id).alarm)
        rfl
        (fun world sample same =>
          (pveStep_alarm world id sample).trans same)
        member with
      ⟨same, isCall⟩
    rw [← same] at banded ⊢
    rw [isCall]
    exact pveStep_hysteresis banded made.action
  refine ⟨all, ?_⟩
  intro earlier first between second later state isSamples enters again
  have isBetween :
      Run.final pveStep start (earlier ++ first :: between) =
        Run.final pveStep
          (Run.final pveStep start (earlier ++ [first])) between := by
    rw [← Run.final_append, List.append_assoc]
    rfl
  rw [isBetween] at again
  have entered :
      ((Run.final pveStep start (earlier ++ [first])).pveVariables
        id).runtime.alarmState = state := by
    rw [Run.final_snoc]
    exact enters.2
  rcases
    @Run.exists_leaving _ _ _ pveStep
      (fun world => (world.pveVariables id).runtime.alarmState = state)
      _ entered between again.1 with
    ⟨made, member, held, left⟩
  have inRun : made ∈ Run.history pveStep start samples := by
    have part :=
      Run.mem_history_of_part pveStep start (earlier ++ [first]) between
        (second :: later) member
    rw [isSamples]
    simpa only [List.append_assoc, List.cons_append, List.nil_append] using part
  have step := all made inRun
  have isId : made.action.1 = id := by
    by_contra other
    rw [step.others other] at left
    exact left held
  refine ⟨made, member, isId, ?_⟩
  have crossed := step.crossed isId
  cases state with
  | ok => exact trivial
  | high => exact crossed.high_left held left
  | low => exact crossed.low_left held left

def watchedWorld : PveWorld where
  pveVariables := fun id =>
    { pveInitVariables id with
      alarm := { (pveInitVariables id).alarm with enabled := 1 } }
  history := pveClearAlarmHistory
  bus := eventBusInit
  seconds := fun _ => 0

/-- Two high alarms with a value below the band between them. -/
theorem watched_hysteresis :
    (watchedWorld.pveVariables 0).alarm.Banded ∧
    ∀ made ∈ Run.history pveStep watchedWorld
      [(0, 4000), (0, 3000), (0, 4000)],
      Hysteresis (watchedWorld.pveVariables 0).alarm 0 made := by
  have banded : (watchedWorld.pveVariables 0).alarm.Banded :=
    ⟨by decide, by decide, by decide⟩
  exact ⟨banded, (pveUpdate_hysteresis banded _).1⟩

end Endap.Pve
