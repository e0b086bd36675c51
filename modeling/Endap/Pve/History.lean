import Endap.Library.Newest
import Endap.Pve.Variables

/-!
# The alarm history

The ring keeps the last 64 events.  Read from the oldest one on, it is a list
to which each new event is appended and from which, once it is full, the
oldest one falls out.
-/

namespace Endap.Pve

open Endap.Library

/-- The events in the ring, oldest first. -/
def AlarmHistory.logged (history : AlarmHistory) : List PveAlarmEvent :=
  (List.range history.count).map fun index =>
    history.events
      (((history.head + alarmHistoryMax - history.count) % alarmHistoryMax +
          index) %
        alarmHistoryMax)

/-- A list that keeps as many of its last elements as the ring has cells. -/
def latest {Event : Type*} (events : List Event) : List Event :=
  events.drop (events.length - alarmHistoryMax)

theorem latest_length {Event : Type*} (events : List Event) :
    (latest events).length = min events.length 64 :=
  Newest.newest_length alarmHistoryMax events

theorem AlarmHistory.logged_length (history : AlarmHistory) :
    history.logged.length = history.count := by
  rw [AlarmHistory.logged, List.length_map, List.length_range]

/-- `pve_get_alarm_history` copies the oldest events. -/
theorem pveGetAlarmHistory_eq (history : AlarmHistory) (maxLen : Nat) :
    pveGetAlarmHistory history maxLen = history.logged.take maxLen := by
  rw [pveGetAlarmHistory, AlarmHistory.logged, ← List.map_take, List.take_range]
  congr 2
  split <;> omega

theorem AlarmHistory.logged_getElem?
    (history : AlarmHistory) (index : Nat) :
    history.logged[index]? =
      if index < history.count then
        some
          (history.events
            ((history.head + alarmHistoryMax - history.count + index) %
              alarmHistoryMax))
      else none := by
  rw [AlarmHistory.logged, List.getElem?_map]
  split
  · next inside => simp [inside, Nat.mod_add_mod]
  · next outside => simp [Nat.le_of_not_lt outside]

theorem pveLogAlarmEvent_events
    (history : AlarmHistory) (event : PveAlarmEvent) {cell : Nat}
    (other : cell ≠ history.head) :
    (pveLogAlarmEvent history event).events cell = history.events cell :=
  Function.update_of_ne other _ _

theorem pveLogAlarmEvent_events_head
    (history : AlarmHistory) (event : PveAlarmEvent) :
    (pveLogAlarmEvent history event).events history.head = event :=
  Function.update_self _ _ _

theorem pveLogAlarmEvent_count
    (history : AlarmHistory) (event : PveAlarmEvent) :
    (pveLogAlarmEvent history event).count =
      min (history.count + 1) alarmHistoryMax := by
  have fits := history.countFits
  simp only [pveLogAlarmEvent]
  split <;> omega

theorem logged_log (history : AlarmHistory) (event : PveAlarmEvent) :
    (pveLogAlarmEvent history event).logged =
      latest (history.logged ++ [event]) := by
  have headFits := history.headFits
  have countFits := history.countFits
  have head :
      (pveLogAlarmEvent history event).head =
        (history.head + 1) % alarmHistoryMax :=
    rfl
  have count := pveLogAlarmEvent_count history event
  rw [alarmHistoryMax] at headFits countFits head count
  apply List.ext_getElem?
  intro index
  rw [latest, List.getElem?_drop, List.getElem?_append,
    AlarmHistory.logged_getElem?, AlarmHistory.logged_getElem?,
    List.length_append, AlarmHistory.logged_length, List.length_singleton,
    head, count, show alarmHistoryMax = 64 from rfl]
  by_cases inside : index < min (history.count + 1) 64
  · rw [if_pos inside]
    by_cases isLast : index + 1 = min (history.count + 1) 64
    · -- The last cell is the one that was just written.
      have cell :
          ((history.head + 1) % 64 + 64 - min (history.count + 1) 64 +
              index) %
              64 =
            history.head := by
        omega
      rw [cell, pveLogAlarmEvent_events_head, if_neg (by omega)]
      have first : history.count + 1 - 64 + index - history.count = 0 := by
        omega
      rw [first]
      rfl
    · have cell :
          ((history.head + 1) % 64 + 64 - min (history.count + 1) 64 +
              index) %
              64 =
            (history.head + 64 - history.count +
                (history.count + 1 - 64 + index)) %
              64 := by
        omega
      have other :
          (history.head + 64 - history.count +
                (history.count + 1 - 64 + index)) %
              64 ≠
            history.head := by
        omega
      rw [cell, pveLogAlarmEvent_events history event other,
        if_pos (by omega), if_pos (by omega)]
  · rw [if_neg inside, if_neg (by omega)]
    exact (List.getElem?_eq_none (by simp; omega)).symm

def AlarmHistory.states (history : AlarmHistory) : List AlarmState :=
  history.logged.map PveAlarmEvent.state

theorem states_log (history : AlarmHistory) (event : PveAlarmEvent) :
    (pveLogAlarmEvent history event).states =
      latest (history.states ++ [event.state]) := by
  rw [AlarmHistory.states, logged_log, AlarmHistory.states, latest, latest,
    List.map_drop, List.map_append, List.length_append,
    List.length_append, List.length_map]
  rfl

theorem states_length (history : AlarmHistory) :
    history.states.length = history.count := by
  rw [AlarmHistory.states, List.length_map, AlarmHistory.logged_length]

/-! ## Updates and the history -/

/-- The history of states after new ones are entered. -/
def entered (states new : List AlarmState) : List AlarmState :=
  new.foldl (fun states state => latest (states ++ [state])) states

/-- The new alarm states that a sequence of samples brings about. -/
def PveVariable.changes (var : PveVariable) :
    List Int32 → List AlarmState
  | [] => []
  | rawValue :: rest =>
      let next := var.updated rawValue
      if next.runtime.alarmState ≠ var.runtime.alarmState then
        next.runtime.alarmState :: next.changes rest
      else next.changes rest

/-- The samples of one variable, one after another. -/
def pveUpdates (world : PveWorld) (id : Fin maxPveVariables)
    (samples : List Int32) : PveWorld :=
  samples.foldl (fun current rawValue => pveUpdate current id rawValue) world

@[simp]
theorem pveUpdate_pveVariables
    (world : PveWorld) (id : Fin maxPveVariables) (rawValue : Int32) :
    (pveUpdate world id rawValue).pveVariables =
      Function.update world.pveVariables id
        ((world.pveVariables id).updated rawValue) := by
  rw [pveUpdate]
  simp only
  split <;> rfl

theorem pveUpdate_states
    (world : PveWorld) (id : Fin maxPveVariables) (rawValue : Int32) :
    (pveUpdate world id rawValue).history.states =
      entered world.history.states
        ((world.pveVariables id).changes [rawValue]) := by
  rw [pveUpdate]
  simp only [PveVariable.changes]
  split
  · exact states_log _ _
  · rfl

/-- What a sequence of samples leaves: the variable, the other variables and
the states in the history. -/
theorem pveUpdates_spec
    (samples : List Int32) (world : PveWorld) (id : Fin maxPveVariables) :
    (pveUpdates world id samples).pveVariables =
        Function.update world.pveVariables id
          (samples.foldl PveVariable.updated (world.pveVariables id)) ∧
    (pveUpdates world id samples).history.states =
      entered world.history.states
        ((world.pveVariables id).changes samples) := by
  induction samples generalizing world with
  | nil => exact ⟨(Function.update_eq_self id _).symm, rfl⟩
  | cons rawValue rest induction =>
      rcases induction (pveUpdate world id rawValue) with
        ⟨reached, states⟩
      have first := pveUpdate_states world id rawValue
      simp only [pveUpdates, List.foldl_cons] at reached states ⊢
      rw [pveUpdate_pveVariables, Function.update_self,
        Function.update_idem] at reached
      rw [pveUpdate_pveVariables, Function.update_self, first] at states
      refine ⟨reached, states.trans ?_⟩
      simp only [PveVariable.changes]
      split <;> rfl

end Endap.Pve
