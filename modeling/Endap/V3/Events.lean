import Endap.Library.Newest
import Endap.Library.Run
import Mathlib.Data.UInt

/-!
# The event queue

Changes of resources are posted into a queue of 256 cells and polled in
batches.  A post never fails: when the queue is full it discards the oldest
event and counts it.
-/

namespace Endap.V3

open Endap.Library

/-! ## Events -/

def v3EventsQueueSize : Nat := 256

def v3EventsMask : Nat := v3EventsQueueSize - 1

inductive V3EventType where
  | created
  | online
  | offline
  | lost
  | removed

/-- The cast of an event type to a byte. -/
def V3EventType.toUInt8 : V3EventType → UInt8
  | .created => 0
  | .online => 1
  | .offline => 2
  | .lost => 3
  | .removed => 4

/-- `v3_event_t`; its padding is always zero. -/
structure V3Event where
  resourceId : UInt64
  timestampEpoch : UInt32
  type : UInt8

theorem masked (index : Nat) :
    index &&& v3EventsMask = index % v3EventsQueueSize :=
  Nat.and_two_pow_sub_one_eq_mod index 8

/-- The static state of `v3_events.c`.  The head is where the last event ends,
and no index leaves the array. -/
structure V3EventQueue where
  queue : Nat → V3Event
  head : Nat
  tail : Nat
  count : Nat
  dropCount : UInt32
  tailFits : tail < v3EventsQueueSize
  countFits : count ≤ v3EventsQueueSize
  isHead : head = (tail + count) % v3EventsQueueSize

/-- The state at the start of the program. -/
def V3EventQueue.zero : V3EventQueue where
  queue := fun _ => { resourceId := 0, timestampEpoch := 0, type := 0 }
  head := 0
  tail := 0
  count := 0
  dropCount := 0
  tailFits := by decide
  countFits := by decide
  isHead := by decide

def v3EventsPost (events : V3EventQueue) (id : UInt64) (type : V3EventType)
    (timestamp : UInt32) : V3EventQueue where
  queue :=
    Function.update events.queue events.head
      { resourceId := id
        timestampEpoch := timestamp
        type := type.toUInt8 }
  head := (events.head + 1) &&& v3EventsMask
  tail :=
    if events.count = v3EventsQueueSize then
      (events.tail + 1) &&& v3EventsMask
    else events.tail
  count :=
    if events.count = v3EventsQueueSize then events.count
    else events.count + 1
  dropCount :=
    if events.count = v3EventsQueueSize then events.dropCount + 1
    else events.dropCount
  tailFits := by
    split
    · rw [masked]
      exact Nat.mod_lt _ (by decide)
    · exact events.tailFits
  countFits := by
    have fits := events.countFits
    split
    · exact fits
    · next room => exact Nat.lt_of_le_of_ne fits room
  isHead := by
    rw [masked, events.isHead, Nat.mod_add_mod]
    split
    · rw [masked, Nat.mod_add_mod, Nat.add_right_comm]
    · rw [Nat.add_assoc]

/-- The loop of `v3_events_poll`: the events read and the tail. -/
def v3EventsRead (queue : Nat → V3Event) : Nat → Nat → List V3Event × Nat
  | 0, tail => ([], tail)
  | toRead + 1, tail =>
      let later := v3EventsRead queue toRead ((tail + 1) &&& v3EventsMask)
      (queue tail :: later.1, later.2)

theorem v3EventsRead_tail
    (queue : Nat → V3Event) (toRead : Nat) {tail : Nat}
    (fits : tail < v3EventsQueueSize) :
    (v3EventsRead queue toRead tail).2 =
      (tail + toRead) % v3EventsQueueSize := by
  induction toRead generalizing tail with
  | zero => exact (Nat.mod_eq_of_lt fits).symm
  | succ toRead induction =>
      rw [v3EventsRead, masked,
        induction (Nat.mod_lt _ (by decide)), Nat.mod_add_mod,
        Nat.add_right_comm, Nat.add_assoc]

/-- `v3_events_poll`; without a buffer, or with none of its cells, nothing is
read. -/
def v3EventsPoll (events : V3EventQueue) (outBatch : Bool)
    (maxCount : Nat) : V3EventQueue × List V3Event :=
  if !outBatch || maxCount = 0 then (events, [])
  else
    let toRead := if events.count < maxCount then events.count else maxCount
    let read := v3EventsRead events.queue toRead events.tail
    ({ events with
        tail := read.2
        count := events.count - toRead
        tailFits := by
          rw [v3EventsRead_tail _ _ events.tailFits]
          exact Nat.mod_lt _ (by decide)
        countFits := Nat.le_trans (Nat.sub_le _ _) events.countFits
        isHead := by
          have few : toRead ≤ events.count := by
            change (if _ then _ else _) ≤ _
            split <;> omega
          rw [v3EventsRead_tail _ _ events.tailFits, Nat.mod_add_mod,
            Nat.add_assoc, Nat.add_sub_cancel' few]
          exact events.isHead },
      read.1)

def v3EventsGetDropCount (events : V3EventQueue) : UInt32 := events.dropCount

/-! ## Runs -/

/-- A call; a post comes with the tick count that it reads. -/
inductive V3EventCall where
  | post (id : UInt64) (type : V3EventType) (timestamp : UInt32)
  | poll (outBatch : Bool) (maxCount : Nat)

/-- One call, and the batch that it returns. -/
def v3EventsStep (events : V3EventQueue) :
    V3EventCall → V3EventQueue × List V3Event
  | .post id type timestamp => (v3EventsPost events id type timestamp, [])
  | .poll outBatch maxCount => v3EventsPoll events outBatch maxCount

/-- The event that a call posts. -/
def V3EventCall.posted : V3EventCall → Option V3Event
  | .post id type timestamp => some ⟨id, timestamp, type.toUInt8⟩
  | .poll _ _ => none

/-- A transition of the queue. -/
abbrev V3Transition := Run.Transition V3EventQueue V3EventCall (List V3Event)

/-- The events posted in a run. -/
def posted (made : List V3Transition) : List V3Event :=
  made.filterMap fun transition => transition.action.posted

/-- The batches polled in a run, joined. -/
def polled (made : List V3Transition) : List V3Event :=
  made.flatMap fun transition => transition.output

/-- The events in the queue, oldest first. -/
def V3EventQueue.pending (events : V3EventQueue) : List V3Event :=
  Newest.ringed v3EventsQueueSize events.queue events.tail events.count

@[simp]
theorem pending_length (events : V3EventQueue) :
    events.pending.length = events.count :=
  Newest.ringed_length _ _ _ _

theorem post_pending
    (events : V3EventQueue) (id : UInt64) (type : V3EventType)
    (timestamp : UInt32) :
    (v3EventsPost events id type timestamp).pending =
      Newest.put v3EventsQueueSize events.pending
        ⟨id, timestamp, type.toUInt8⟩ := by
  rw [Newest.put, pending_length, V3EventQueue.pending]
  simp only [v3EventsPost, events.isHead]
  by_cases full : events.count = v3EventsQueueSize
  · rw [if_pos full, if_pos full, if_pos full, masked,
      V3EventQueue.pending, full, Nat.add_mod_right]
    exact Newest.ringed_overwrite (by decide) _ _ _
  · rw [if_neg full, if_neg full, if_neg full]
    exact Newest.ringed_push (Nat.lt_of_le_of_ne events.countFits full) _ _

theorem v3EventsRead_events
    (queue : Nat → V3Event) {toRead count : Nat} (few : toRead ≤ count)
    {tail : Nat} (fits : tail < v3EventsQueueSize) :
    (v3EventsRead queue toRead tail).1 =
      (Newest.ringed v3EventsQueueSize queue tail count).take toRead := by
  induction toRead generalizing tail count with
  | zero => rfl
  | succ toRead induction =>
      cases count with
      | zero => exact absurd few (Nat.not_succ_le_zero toRead)
      | succ count =>
          rw [v3EventsRead, masked,
            induction (Nat.le_of_succ_le_succ few) (Nat.mod_lt _ (by decide)),
            Newest.ringed_pop, List.take_succ_cons, Nat.mod_eq_of_lt fits]

/-- The events that a poll asks for. -/
def asked (outBatch : Bool) (maxCount : Nat) : Nat :=
  if outBatch then maxCount else 0

theorem asked_of_nothing {outBatch : Bool} {maxCount : Nat}
    (nothing : (!outBatch || maxCount = 0) = true) :
    asked outBatch maxCount = 0 := by
  rw [asked]
  cases outBatch with
  | false => rfl
  | true => simpa using nothing

theorem asked_of_something {outBatch : Bool} {maxCount : Nat}
    (something : ¬ (!outBatch || maxCount = 0) = true) :
    asked outBatch maxCount = maxCount := by
  rw [asked]
  cases outBatch with
  | false => exact absurd rfl something
  | true => rfl

theorem v3EventsRead_pending (events : V3EventQueue) {toRead : Nat}
    (few : toRead ≤ events.count) :
    (v3EventsRead events.queue toRead events.tail).1 =
        events.pending.take toRead ∧
    Newest.ringed v3EventsQueueSize events.queue
        (v3EventsRead events.queue toRead events.tail).2
        (events.count - toRead) =
      events.pending.drop toRead := by
  have fits := events.tailFits
  constructor
  · exact v3EventsRead_events events.queue few fits
  · rw [v3EventsRead_tail events.queue _ fits,
      ← Newest.ringed_drop v3EventsQueueSize events.queue fits few]
    rfl

theorem poll_pending
    (events : V3EventQueue) (outBatch : Bool) (maxCount : Nat) :
    (v3EventsPoll events outBatch maxCount).2 =
        events.pending.take (asked outBatch maxCount) ∧
    (v3EventsPoll events outBatch maxCount).1.pending =
      events.pending.drop (asked outBatch maxCount) ∧
    (v3EventsPoll events outBatch maxCount).1.dropCount =
      events.dropCount := by
  rw [v3EventsPoll]
  split
  · next nothing =>
      rw [asked_of_nothing nothing]
      exact ⟨rfl, rfl, rfl⟩
  · next something =>
      rw [asked_of_something something]
      have few :
          (if events.count < maxCount then events.count else maxCount) ≤
            events.count := by
        split <;> omega
      -- What there is not cannot be taken.
      have isMin :
          (if events.count < maxCount then events.count else maxCount) =
            min maxCount events.pending.length := by
        rw [pending_length]
        split <;> omega
      have reads := v3EventsRead_pending events few
      refine ⟨reads.1.trans ?_, reads.2.trans ?_, rfl⟩
      · rw [isMin, ← List.take_eq_take_min]
      · rw [isMin, ← List.drop_eq_drop_min]

/-! ## The history of the queue -/

theorem posted_snoc (made : List V3Transition) (last : V3Transition) :
    posted (made ++ [last]) = posted made ++ last.action.posted.toList := by
  rw [posted, List.filterMap_append]
  rfl

theorem polled_snoc (made : List V3Transition) (last : V3Transition) :
    polled (made ++ [last]) = polled made ++ last.output := by
  rw [polled, List.flatMap_append, List.flatMap_singleton]
  rfl

/-- What the queue makes of a run: it keeps the newest events, and counts the
discarded ones in a word of 32 bits. -/
def Accounts (made : List V3Transition) (events : V3EventQueue) : Prop :=
  ∃ discarded,
    Newest.Keeps v3EventsQueueSize (posted made) (polled made)
        events.pending discarded ∧
    v3EventsGetDropCount events = UInt32.ofNat discarded

theorem accounts_step
    {made : List V3Transition} {events : V3EventQueue}
    (accounts : Accounts made events) (call : V3EventCall) :
    Accounts (made ++ [Run.call v3EventsStep events call])
      (v3EventsStep events call).1 := by
  rcases accounts with ⟨discarded, keeps, dropped⟩
  rw [Accounts, posted_snoc, polled_snoc]
  cases call with
  | post id type timestamp =>
      have next :=
        keeps.put (by decide : 0 < v3EventsQueueSize)
          ⟨id, timestamp, type.toUInt8⟩
      rw [← post_pending] at next
      refine
        ⟨if events.pending.length = v3EventsQueueSize then discarded + 1
          else discarded, ?_, ?_⟩
      · rw [show (Run.call v3EventsStep events
          (.post id type timestamp)).output = [] from rfl, List.append_nil]
        exact next
      · change
          (if events.count = v3EventsQueueSize then events.dropCount + 1
            else events.dropCount) = _
        rw [pending_length]
        split
        · rw [UInt32.ofNat_add, ← dropped]
          rfl
        · exact dropped
  | poll outBatch maxCount =>
      rcases poll_pending events outBatch maxCount with
        ⟨batch, rest, same⟩
      have next := keeps.take (asked outBatch maxCount)
      rw [← batch, ← rest] at next
      refine ⟨discarded, ?_, same.trans dropped⟩
      rw [show (Run.call v3EventsStep events
        (.poll outBatch maxCount)).action.posted.toList = [] from rfl,
        List.append_nil]
      exact next

/-- What one call does to the events that wait. -/
def Serves (made : V3Transition) : Prop :=
  match made.action with
  | .post id type timestamp =>
      made.output = [] ∧
      if made.before.pending.length = v3EventsQueueSize then
        made.after.pending =
            made.before.pending.tail ++ [⟨id, timestamp, type.toUInt8⟩] ∧
        made.after.dropCount = made.before.dropCount + 1
      else
        made.after.pending =
            made.before.pending ++ [⟨id, timestamp, type.toUInt8⟩] ∧
        made.after.dropCount = made.before.dropCount
  | .poll outBatch maxCount =>
      made.output = made.before.pending.take (asked outBatch maxCount) ∧
      made.after.pending = made.before.pending.drop (asked outBatch maxCount) ∧
      made.after.dropCount = made.before.dropCount

theorem v3EventsStep_serves (events : V3EventQueue) (call : V3EventCall) :
    Serves (Run.call v3EventsStep events call) := by
  cases call with
  | post id type timestamp =>
      have pending := post_pending events id type timestamp
      rw [Newest.put] at pending
      refine ⟨rfl, ?_⟩
      change
        if events.pending.length = v3EventsQueueSize then
          (v3EventsPost events id type timestamp).pending = _ ∧
          (if events.count = v3EventsQueueSize then events.dropCount + 1
            else events.dropCount) = _
        else
          (v3EventsPost events id type timestamp).pending = _ ∧
          (if events.count = v3EventsQueueSize then events.dropCount + 1
            else events.dropCount) = _
      rw [← pending_length events]
      split
      · next full =>
          rw [if_pos full] at pending
          exact ⟨pending, rfl⟩
      · next room =>
          rw [if_neg room] at pending
          exact ⟨pending, rfl⟩
  | poll outBatch maxCount => exact poll_pending events outBatch maxCount

/--
In every run of posts and polls, the polled events are among the posted ones,
in their order and each at most once; the queue holds the newest 256 of those
that were posted after the last polled one; every posted event was polled, is
pending or was discarded, and the discarded ones are counted modulo 2^32; and
a post discards the oldest pending event exactly when the queue is full.
-/
theorem v3Events_keep_newest (calls : List V3EventCall) :
    let made := Run.history v3EventsStep .zero calls
    let events := Run.final v3EventsStep .zero calls
    (polled made).Sublist (posted made) ∧
    (∃ earlier since,
      posted made = earlier ++ since ∧
      (polled made).Sublist earlier ∧
      earlier.getLast? = (polled made).getLast? ∧
      events.pending = Newest.newest v3EventsQueueSize since) ∧
    (∃ discarded,
      (posted made).length =
          (polled made).length + events.pending.length + discarded ∧
      v3EventsGetDropCount events = UInt32.ofNat discarded) ∧
    ∀ transition ∈ made, Serves transition := by
  intro made events
  have accounts : Accounts made events :=
    Run.history_induction (motive := Accounts)
      ⟨0, Newest.keeps_nil _, rfl⟩
      (fun _ _ call accounts => accounts_step accounts call) calls
  rcases accounts with ⟨discarded, keeps, dropped⟩
  refine ⟨?_, keeps.parts, ⟨discarded, keeps.counts, dropped⟩, ?_⟩
  · rcases keeps.parts with ⟨earlier, since, isPosted, sublist, -, -⟩
    rw [isPosted]
    exact sublist.trans (List.sublist_append_left _ _)
  · intro transition member
    have isCall := Run.eq_call_of_mem_history member
    rw [isCall]
    exact v3EventsStep_serves transition.before transition.action

end Endap.V3
