import Endap.Library.Run
import Endap.Pve.History

/-!
# The alarm history in 32-bit words

The head and the count of the history are unsigned words, and the index of the
oldest event is their difference, which wraps below zero.  Through every
sequence of events and clearings the words tell what the history of numbers
tells: the latest 64 events since the last clearing.
-/

namespace Endap.Pve

open Endap.Library

/-! ## The calls -/

/-- `alarm_history`, `alarm_history_head` and `alarm_history_count`. -/
structure HistoryWords where
  alarmHistory : Nat → PveAlarmEvent
  alarmHistoryHead : UInt32
  alarmHistoryCount : UInt32

/-- The zeroed variables. -/
def HistoryWords.zeroed : HistoryWords where
  alarmHistory := fun _ => {}
  alarmHistoryHead := 0
  alarmHistoryCount := 0

/-- `pve_log_alarm_event`, with the event that it builds. -/
def HistoryWords.logAlarmEvent (words : HistoryWords)
    (event : PveAlarmEvent) : HistoryWords where
  alarmHistory :=
    Function.update words.alarmHistory words.alarmHistoryHead.toNat event
  alarmHistoryHead := (words.alarmHistoryHead + 1) % 64
  alarmHistoryCount :=
    if words.alarmHistoryCount < 64 then words.alarmHistoryCount + 1
    else words.alarmHistoryCount

/-- `pve_get_alarm_history`: the number returned, and the cells of the caller's
buffer afterwards, if there is one. -/
def HistoryWords.getAlarmHistory (words : HistoryWords)
    (outBuffer : Option (Nat → PveAlarmEvent)) (maxLen : UInt32) :
    UInt32 × Option (Nat → PveAlarmEvent) :=
  match outBuffer with
  | none => (0, none)
  | some cells =>
      if maxLen = 0 then (0, some cells)
      else
        let copyCount :=
          if words.alarmHistoryCount < maxLen then words.alarmHistoryCount
          else maxLen
        let startIdx :=
          (words.alarmHistoryHead - words.alarmHistoryCount + 64) % 64
        (copyCount,
          some fun index =>
            if index < copyCount.toNat then
              words.alarmHistory ((startIdx + UInt32.ofNat index) % 64).toNat
            else cells index)

/-- A call that changes the history. -/
inductive HistoryCall where
  | logAlarmEvent (event : PveAlarmEvent)
  | clearAlarmHistory

/-- One call; `pve_clear_alarm_history` zeroes the variables. -/
def HistoryWords.after (words : HistoryWords) :
    HistoryCall → HistoryWords × Unit
  | .logAlarmEvent event => (words.logAlarmEvent event, ())
  | .clearAlarmHistory => (.zeroed, ())

/-- The events since the last clearing, after one more call. -/
def sinceClear (events : List PveAlarmEvent) :
    HistoryCall → List PveAlarmEvent
  | .logAlarmEvent event => events ++ [event]
  | .clearAlarmHistory => []

/-! ## The words and the numbers -/

/-- The words stand for a history of numbers. -/
structure HistoryWords.Represent (words : HistoryWords)
    (history : AlarmHistory) : Prop where
  cells : words.alarmHistory = history.events
  head : words.alarmHistoryHead.toNat = history.head
  count : words.alarmHistoryCount.toNat = history.count

theorem zeroed_represent : HistoryWords.zeroed.Represent pveClearAlarmHistory :=
  ⟨rfl, rfl, rfl⟩

variable {words : HistoryWords} {history : AlarmHistory}

theorem HistoryWords.Represent.log
    (represents : words.Represent history) (event : PveAlarmEvent) :
    (words.logAlarmEvent event).Represent
      (pveLogAlarmEvent history event) := by
  have headFits : history.head < 64 := history.headFits
  have countFits : history.count ≤ 64 := history.countFits
  have head := represents.head
  have count := represents.count
  constructor
  · change Function.update _ _ _ = Function.update _ _ _
    rw [represents.cells, head]
  · change ((words.alarmHistoryHead + 1) % 64).toNat = (history.head + 1) % 64
    rw [UInt32.toNat_mod, UInt32.toNat_add, head]
    change (history.head + 1) % 2 ^ 32 % 64 = _
    omega
  · have below :
        words.alarmHistoryCount < 64 ↔ history.count < alarmHistoryMax := by
      rw [UInt32.lt_iff_toNat_lt, count]
      rfl
    simp only [HistoryWords.logAlarmEvent, pveLogAlarmEvent, below]
    split
    · rw [UInt32.toNat_add, count]
      change (history.count + 1) % 2 ^ 32 = _
      omega
    · exact count

theorem HistoryWords.Represent.startIdx
    (represents : words.Represent history) {index : Nat}
    (inside : index < history.count) :
    (((words.alarmHistoryHead - words.alarmHistoryCount + 64) % 64 +
          UInt32.ofNat index) %
        64).toNat =
      (history.head + alarmHistoryMax - history.count + index) %
        alarmHistoryMax := by
  have headFits : history.head < 64 := history.headFits
  have countFits : history.count ≤ 64 := history.countFits
  have starts :
      ((words.alarmHistoryHead - words.alarmHistoryCount + 64) % 64).toNat =
        (history.head + alarmHistoryMax - history.count) %
          alarmHistoryMax := by
    have raised : (words.alarmHistoryHead + 64).toNat = history.head + 64 := by
      rw [UInt32.toNat_add, represents.head]
      exact Nat.mod_eq_of_lt (by change history.head + 64 < 2 ^ 32; omega)
    -- Adding the size of the ring first, the difference does not wrap.
    have ordered : words.alarmHistoryCount ≤ words.alarmHistoryHead + 64 := by
      rw [UInt32.le_iff_toNat_le, raised, represents.count]
      omega
    have swapped :
        words.alarmHistoryHead - words.alarmHistoryCount + 64 =
          words.alarmHistoryHead + 64 - words.alarmHistoryCount := by
      rw [UInt32.sub_eq_add_neg, UInt32.sub_eq_add_neg, UInt32.add_assoc,
        UInt32.add_comm (-_), ← UInt32.add_assoc]
    rw [swapped, UInt32.toNat_mod, UInt32.toNat_sub_of_le _ _ ordered, raised,
      represents.count]
    rfl
  have small :
      (history.head + alarmHistoryMax - history.count) % alarmHistoryMax <
        64 :=
    Nat.mod_lt _ alarmHistoryMax_pos
  have narrow : (UInt32.ofNat index).toNat = index :=
    UInt32.toNat_ofNat_of_lt' (by change index < 2 ^ 32; omega)
  rw [UInt32.toNat_mod, UInt32.toNat_add, starts, narrow,
    Nat.mod_eq_of_lt (b := 2 ^ 32)]
  · exact Nat.mod_add_mod _ _ _
  · omega

theorem HistoryWords.Represent.get
    (represents : words.Represent history)
    (cells : Nat → PveAlarmEvent) {maxLen : UInt32}
    (positive : 1 ≤ maxLen) :
    ∃ copyCount written,
      words.getAlarmHistory (some cells) maxLen = (copyCount, some written) ∧
      copyCount.toNat = min history.count maxLen.toNat ∧
      (List.range copyCount.toNat).map written =
          history.logged.take maxLen.toNat ∧
      ∀ index, copyCount.toNat ≤ index → written index = cells index := by
  have notZero : maxLen ≠ 0 := by
    rintro rfl
    exact absurd positive (by decide)
  have fewer :
      words.alarmHistoryCount < maxLen ↔ history.count < maxLen.toNat := by
    rw [UInt32.lt_iff_toNat_lt, represents.count]
  have copies :
      (if words.alarmHistoryCount < maxLen then words.alarmHistoryCount
        else maxLen).toNat =
        if history.count < maxLen.toNat then history.count
        else maxLen.toNat := by
    simp only [fewer]
    split
    · exact represents.count
    · rfl
  simp only [HistoryWords.getAlarmHistory, if_neg notZero]
  refine ⟨_, _, rfl, ?_, ?_, ?_⟩
  · rw [copies]
    split <;> omega
  · rw [← pveGetAlarmHistory_eq, pveGetAlarmHistory, copies]
    apply List.map_congr_left
    intro index member
    have inside := List.mem_range.mp member
    have copied : index < history.count := by
      split at inside <;> omega
    rw [if_pos inside, represents.cells, represents.startIdx copied,
      Nat.mod_add_mod]
  · intro index outside
    exact if_neg (Nat.not_lt.mpr outside)

/-! ## Runs -/

/-- After every sequence of calls the words stand for a history of the latest
events since the last clearing. -/
theorem historyWords_run (calls : List HistoryCall) :
    ∃ history : AlarmHistory,
      (Run.final HistoryWords.after .zeroed calls).Represent history ∧
      history.logged = latest (calls.foldl sinceClear []) := by
  induction calls using List.reverseRecOn with
  | nil => exact ⟨pveClearAlarmHistory, zeroed_represent, rfl⟩
  | append_singleton earlier call induction =>
      rcases induction with ⟨history, represents, logged⟩
      rw [Run.final_snoc, List.foldl_concat]
      cases call with
      | logAlarmEvent event =>
          refine ⟨pveLogAlarmEvent history event, represents.log event, ?_⟩
          rw [logged_log, logged, sinceClear]
          exact Newest.newest_newest_append alarmHistoryMax _ [event]
      | clearAlarmHistory =>
          exact ⟨pveClearAlarmHistory, zeroed_represent, rfl⟩

/-- After every sequence of events and clearings the history gives out the
latest 64 events since the last clearing, oldest first and as many as asked
for. -/
theorem alarm_history_latest (calls : List HistoryCall)
    (cells : Nat → PveAlarmEvent) {maxLen : UInt32} (positive : 1 ≤ maxLen) :
    let events := calls.foldl sinceClear []
    ∃ copyCount written,
      (Run.final HistoryWords.after .zeroed calls).getAlarmHistory
            (some cells) maxLen =
          (copyCount, some written) ∧
      copyCount.toNat = min (min events.length 64) maxLen.toNat ∧
      (List.range copyCount.toNat).map written =
          (events.drop (events.length - min events.length 64)).take
            maxLen.toNat ∧
      ∀ index, copyCount.toNat ≤ index →
      written index = cells index := by
  rcases historyWords_run calls with ⟨history, represents, logged⟩
  rcases represents.get cells positive with
    ⟨copyCount, written, answers, returned, copied, kept⟩
  have count : history.count = min (calls.foldl sinceClear []).length 64 := by
    rw [← AlarmHistory.logged_length, logged, latest_length]
  refine ⟨copyCount, written, answers, ?_, ?_, kept⟩
  · rw [returned, count]
  · rw [copied, logged, latest, alarmHistoryMax]
    congr 2
    omega

/-- Two events after a clearing, into a buffer of one. -/
theorem alarm_history_latest_first :
    ((Run.final HistoryWords.after .zeroed
            [.logAlarmEvent { pveId := 1 }, .clearAlarmHistory,
              .logAlarmEvent { pveId := 2 },
              .logAlarmEvent { pveId := 3 }]).getAlarmHistory
          (some fun _ => {}) 1).1.toNat =
      1 := by
  rcases
      @alarm_history_latest
        [.logAlarmEvent { pveId := 1 }, .clearAlarmHistory,
          .logAlarmEvent { pveId := 2 }, .logAlarmEvent { pveId := 3 }]
        (fun _ => {}) 1 (by decide) with
    ⟨copyCount, written, answers, returned, _⟩
  rw [answers, returned]
  rfl

end Endap.Pve
