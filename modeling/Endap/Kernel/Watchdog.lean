import Endap.Library.Run
import Mathlib.Data.UInt
import Mathlib.Logic.Function.Basic

/-!
# The watchdog

Tasks register with the watchdog and feed it; a check that finds a task late
for the third time in a row restarts the device.  The check looks at one entry
after the other under a lock and, before it restarts, takes the lock again and
confirms.  Other tasks may feed or register between any two of these sections.

The tick counter has 32 bits and wraps.  The model counts ticks without a
bound, and the entries keep what the counter shows of them.
-/

namespace Endap.Kernel

open Endap.Library

/-! ## The entries -/

abbrev maxWd : Nat := 16

def watchdogMaxMisses : UInt8 := 3

structure WdEntry where
  timeoutTicks : UInt32
  lastFeedTick : UInt32
  missCount : UInt8
  active : Bool

/-- `table`. -/
abbrev WatchdogTable := Fin maxWd → WdEntry

def watchdogInit : WatchdogTable := fun _ =>
  { timeoutTicks := 0
    lastFeedTick := 0
    missCount := 0
    active := false }

/-- The entry of an identifier; an identifier from `MAX_WD` on has none. -/
def wdIndex (id : UInt8) : Option (Fin maxWd) :=
  if inside : id.toNat < maxWd then some ⟨id.toNat, inside⟩ else none

/-- What the tick counter shows after some ticks. -/
def xTaskGetTickCount (ticks : Nat) : UInt32 := UInt32.ofNat ticks

/-- The timeout that `watchdog_register` takes, at least one tick. -/
def registeredTicks (pdMsToTicks : UInt32 → UInt32) (timeoutMs : UInt32) :
    UInt32 :=
  let timeoutTicks := pdMsToTicks timeoutMs
  if timeoutTicks = 0 then 1 else timeoutTicks

def watchdogRegister (pdMsToTicks : UInt32 → UInt32) (table : WatchdogTable)
    (id : UInt8) (timeoutMs nowTicks : UInt32) : WatchdogTable :=
  match wdIndex id with
  | none => table
  | some i =>
      Function.update table i
        { timeoutTicks := registeredTicks pdMsToTicks timeoutMs
          lastFeedTick := nowTicks
          missCount := 0
          active := true }

def watchdogFeed (table : WatchdogTable) (id : UInt8) (nowTicks : UInt32) :
    WatchdogTable :=
  match wdIndex id with
  | none => table
  | some i =>
      if (table i).active then
        Function.update table i
          { table i with lastFeedTick := nowTicks, missCount := 0 }
      else table

/-- The first section of `watchdog_check` for an entry, and `restart_needed`. -/
def watchdogLook (entry : WdEntry) (nowTicks : UInt32) : WdEntry × Bool :=
  if entry.active then
    if nowTicks - entry.lastFeedTick > entry.timeoutTicks then
      let missCount :=
        if entry.missCount < 255 then entry.missCount + 1
        else entry.missCount
      ({ entry with missCount := missCount }, missCount ≥ watchdogMaxMisses)
    else ({ entry with missCount := 0 }, false)
  else (entry, false)

/-- The second section, and `still_expired`. -/
def watchdogConfirm (entry : WdEntry) (nowTicks : UInt32) : Bool :=
  entry.active &&
    (nowTicks - entry.lastFeedTick > entry.timeoutTicks &&
      entry.missCount ≥ watchdogMaxMisses)

/-! ## The history of an entry -/

/-- What happens to an entry, with the tick it happens at. -/
inductive WatchEvent where
  | registered (ticks : Nat) (timeoutTicks : UInt32)
  | fed (ticks : Nat)
  | looked (ticks : Nat)

/-- The last feed of an active entry, and its timeout. -/
structure LastFeed where
  ticks : Nat
  timeoutTicks : UInt32

/-- A feed is late when more ticks than the timeout have passed. -/
def LastFeed.Late (feed : LastFeed) (ticks : Nat) : Prop :=
  feed.ticks + feed.timeoutTicks.toNat < ticks

instance (feed : LastFeed) (ticks : Nat) : Decidable (feed.Late ticks) :=
  inferInstanceAs (Decidable (_ < _))

/-- The last feed or registration, after one more event. -/
def noteFeed (last : Option LastFeed) : WatchEvent → Option LastFeed
  | .registered ticks timeoutTicks => some ⟨ticks, timeoutTicks⟩
  | .fed ticks => last.map fun feed => { feed with ticks := ticks }
  | .looked _ => last

/-- The last feed or registration; there is none before a registration. -/
def lastFeed (log : List WatchEvent) : Option LastFeed :=
  log.foldl noteFeed none

/-- The last events are so many looks, and each of them found the entry
active and its last feed late. -/
def LastLate (count : Nat) (log : List WatchEvent) : Prop :=
  ∃ (earlier : List WatchEvent) (looks : List Nat) (feed : LastFeed),
    log = earlier ++ looks.map .looked ∧
    looks.length = count ∧
    lastFeed earlier = some feed ∧ ∀ ticks ∈ looks, feed.Late ticks

theorem lastFeed_snoc (log : List WatchEvent) (event : WatchEvent) :
    lastFeed (log ++ [event]) = noteFeed (lastFeed log) event := by
  rw [lastFeed, List.foldl_append]
  rfl

theorem lastFeed_looks (log : List WatchEvent) (looks : List Nat) :
    lastFeed (log ++ looks.map .looked) = lastFeed log := by
  induction looks using List.reverseRecOn with
  | nil => rw [List.map_nil, List.append_nil]
  | append_singleton earlier ticks induction =>
      rw [List.map_append, ← List.append_assoc, List.map_singleton,
        lastFeed_snoc, induction]
      rfl

theorem LastLate.lastFeed_isSome
    {count : Nat} {log : List WatchEvent} (late : LastLate count log) :
    (lastFeed log).isSome := by
  rcases late with ⟨earlier, looks, feed, rfl, -, isFeed, -⟩
  rw [lastFeed_looks, isFeed]
  rfl

theorem lastLate_zero (log : List WatchEvent) :
    LastLate 0 log ↔ (lastFeed log).isSome := by
  constructor
  · exact LastLate.lastFeed_isSome
  · intro active
    rcases Option.isSome_iff_exists.mp active with ⟨feed, isFeed⟩
    exact
      ⟨log, [], feed, (List.append_nil _).symm, rfl, isFeed,
        fun _ member => absurd member (List.not_mem_nil)⟩

theorem lastLate_looked
    (count : Nat) (log : List WatchEvent) (ticks : Nat) :
    LastLate (count + 1) (log ++ [.looked ticks]) ↔
    LastLate count log ∧ ∃ feed, lastFeed log = some feed ∧
    feed.Late ticks := by
  constructor
  · rintro ⟨earlier, looks, feed, isLog, isCount, isFeed, late⟩
    cases looks using List.reverseRecOn with
    | nil => cases isCount
    | append_singleton before last =>
        rw [List.map_append, ← List.append_assoc] at isLog
        rcases List.append_inj' isLog rfl with ⟨isBefore, isLast⟩
        cases isLast
        rw [List.length_append] at isCount
        have lateBefore : ∀ other ∈ before, feed.Late other :=
          fun other member => late other (List.mem_append_left _ member)
        have lateLast : feed.Late ticks :=
          late ticks (List.mem_append_right _ (List.mem_singleton_self _))
        refine
          ⟨⟨earlier, before, feed, isBefore, Nat.succ.inj isCount, isFeed,
              lateBefore⟩, feed, ?_, lateLast⟩
        rw [isBefore, lastFeed_looks, isFeed]
  · rintro ⟨⟨earlier, looks, feed, rfl, rfl, isFeed, late⟩, other, isOther,
      lateLast⟩
    rw [lastFeed_looks, isFeed] at isOther
    cases isOther
    refine ⟨earlier, looks ++ [ticks], feed, ?_, ?_, isFeed, ?_⟩
    · rw [List.map_append, List.append_assoc]
      rfl
    · rw [List.length_append]
      rfl
    · intro other member
      rcases List.mem_append.mp member with before | last
      · exact late other before
      · rw [List.mem_singleton.mp last]
        exact lateLast

theorem not_lastLate_snoc
    {count : Nat} {log : List WatchEvent} {event : WatchEvent}
    (other : ∀ ticks, event ≠ .looked ticks) :
    ¬ LastLate (count + 1) (log ++ [event]) := by
  rintro ⟨earlier, looks, feed, isLog, isCount, -, -⟩
  cases looks using List.reverseRecOn with
  | nil => cases isCount
  | append_singleton before last =>
      rw [List.map_append, ← List.append_assoc] at isLog
      have isLast := (List.append_inj' isLog rfl).2
      exact other last (List.singleton_inj.mp isLast)

/-! ## Entries and histories -/

/-- An entry is what its history makes of it. -/
structure WdEntry.Tracks (entry : WdEntry) (log : List WatchEvent)
    (now : Nat) : Prop where
  active : entry.active = (lastFeed log).isSome
  feed :
    ∀ feed, lastFeed log = some feed →
    entry.lastFeedTick = xTaskGetTickCount feed.ticks ∧
    entry.timeoutTicks = feed.timeoutTicks ∧ feed.ticks ≤ now
  misses :
    ∀ count ≤ 255,
      count ≤ entry.missCount.toNat ∧ entry.active = true ↔ LastLate count log
  past : ∀ ticks, .looked ticks ∈ log → ticks ≤ now

/-- The difference of two readings of the counter, when less than a round of
it lies between them. -/
theorem elapsed_toNat
    {earlier now : Nat} (ordered : earlier ≤ now)
    (near : now - earlier < UInt32.size) :
    (xTaskGetTickCount now - xTaskGetTickCount earlier).toNat =
      now - earlier := by
  have isSum :
      xTaskGetTickCount now - xTaskGetTickCount earlier =
        UInt32.ofNat (now - earlier) := by
    rw [sub_eq_iff_eq_add]
    exact
      (congrArg UInt32.ofNat (Nat.sub_add_cancel ordered).symm).trans
        (UInt32.ofNat_add _ _)
  rw [isSum, UInt32.toNat_ofNat_of_lt' near]

theorem WdEntry.Tracks.late_iff
    {entry : WdEntry} {log : List WatchEvent} {now ticks : Nat}
    (tracks : entry.Tracks log now) (later : now ≤ ticks)
    {feed : LastFeed} (isFeed : lastFeed log = some feed)
    (near : ticks - feed.ticks < UInt32.size) :
    xTaskGetTickCount ticks - entry.lastFeedTick > entry.timeoutTicks ↔
    feed.Late ticks := by
  rcases tracks.feed feed isFeed with ⟨isTick, isTimeout, before⟩
  have ordered : feed.ticks ≤ ticks := Nat.le_trans before later
  rw [isTick, isTimeout, gt_iff_lt, UInt32.lt_iff_toNat_lt,
    elapsed_toNat ordered near, LastFeed.Late]
  omega

theorem tracks_init (i : Fin maxWd) : (watchdogInit i).Tracks [] 0 where
  active := rfl
  feed := fun _ isFeed => by cases isFeed
  misses := by
    intro count _
    constructor
    · exact fun both => absurd both.2 Bool.false_ne_true
    · exact fun late => absurd late.lastFeed_isSome Bool.false_ne_true
  past := fun _ member => absurd member (List.not_mem_nil)

theorem WdEntry.Tracks.wait
    {entry : WdEntry} {log : List WatchEvent} {now ticks : Nat}
    (tracks : entry.Tracks log now) (later : now ≤ ticks) :
    entry.Tracks log ticks where
  active := tracks.active
  feed := fun feed isFeed =>
    ⟨(tracks.feed feed isFeed).1, (tracks.feed feed isFeed).2.1,
      Nat.le_trans (tracks.feed feed isFeed).2.2 later⟩
  misses := tracks.misses
  past := fun other member => Nat.le_trans (tracks.past other member) later

theorem misses_restart
    {isActive : Bool} {log : List WatchEvent} {event : WatchEvent}
    (other : ∀ ticks, event ≠ .looked ticks)
    (active : isActive = (lastFeed (log ++ [event])).isSome) (count : Nat) :
    count ≤ (0 : UInt8).toNat ∧ isActive = true ↔
    LastLate count (log ++ [event]) := by
  rw [active]
  cases count with
  | zero =>
      rw [lastLate_zero]
      exact and_iff_right (Nat.zero_le _)
  | succ count =>
      constructor
      · exact fun both => absurd both.1 (Nat.not_succ_le_zero count)
      · exact fun late => absurd late (not_lastLate_snoc other)

theorem past_snoc
    {log : List WatchEvent} {now : Nat} {event : WatchEvent}
    (other : ∀ ticks, event ≠ .looked ticks)
    (past : ∀ ticks, .looked ticks ∈ log → ticks ≤ now) (ticks : Nat)
    (member : .looked ticks ∈ log ++ [event]) : ticks ≤ now := by
  rcases List.mem_append.mp member with earlier | last
  · exact past ticks earlier
  · exact absurd (List.mem_singleton.mp last).symm (other ticks)

theorem WdEntry.Tracks.register
    {entry : WdEntry} {log : List WatchEvent} {now read : Nat}
    (tracks : entry.Tracks log now) (known : read ≤ now)
    (timeoutTicks : UInt32) :
    ({ timeoutTicks := timeoutTicks
       lastFeedTick := xTaskGetTickCount read
       missCount := 0
       active := true } : WdEntry).Tracks
      (log ++ [.registered read timeoutTicks]) now := by
  have isLast := lastFeed_snoc log (.registered read timeoutTicks)
  have other :
      ∀ ticks,
        WatchEvent.registered read timeoutTicks ≠ .looked ticks := by
    intro ticks same
    cases same
  have active :
      true =
        (lastFeed (log ++ [.registered read timeoutTicks])).isSome := by
    rw [isLast]
    rfl
  refine ⟨active, ?_, ?_, past_snoc other tracks.past⟩
  · intro feed isFeed
    rw [isLast] at isFeed
    cases isFeed
    exact ⟨rfl, rfl, known⟩
  · exact fun count _ => misses_restart other active count

theorem WdEntry.Tracks.fed
    {entry : WdEntry} {log : List WatchEvent} {now read : Nat}
    (tracks : entry.Tracks log now) (known : read ≤ now) :
    ({ entry with
         lastFeedTick := xTaskGetTickCount read
         missCount := 0 } : WdEntry).Tracks
      (log ++ [.fed read]) now := by
  have isLast := lastFeed_snoc log (.fed read)
  have other : ∀ ticks, WatchEvent.fed read ≠ .looked ticks := by
    intro ticks same
    cases same
  have active : entry.active = (lastFeed (log ++ [.fed read])).isSome := by
    rw [isLast, noteFeed, Option.isSome_map]
    exact tracks.active
  refine ⟨active, ?_, ?_, past_snoc other tracks.past⟩
  · intro feed isFeed
    rw [isLast] at isFeed
    rcases Option.map_eq_some_iff.mp isFeed with ⟨before, isBefore, rfl⟩
    exact ⟨rfl, (tracks.feed before isBefore).2.1, known⟩
  · exact fun count _ => misses_restart other active count

theorem WdEntry.Tracks.fed_inactive
    {entry : WdEntry} {log : List WatchEvent} {now : Nat} (read : Nat)
    (tracks : entry.Tracks log now) (isIdle : entry.active = false) :
    entry.Tracks (log ++ [.fed read]) now := by
  have isLast := lastFeed_snoc log (.fed read)
  have other : ∀ ticks, WatchEvent.fed read ≠ .looked ticks := by
    intro ticks same
    cases same
  have active : entry.active = (lastFeed (log ++ [.fed read])).isSome := by
    rw [isLast, noteFeed, Option.isSome_map]
    exact tracks.active
  have none : lastFeed (log ++ [.fed read]) = none := by
    rw [← Option.not_isSome_iff_eq_none, ← active, isIdle]
    exact Bool.false_ne_true
  refine ⟨active, ?_, ?_, past_snoc other tracks.past⟩
  · intro feed isFeed
    rw [none] at isFeed
    cases isFeed
  · intro count _
    constructor
    · intro both
      rw [isIdle] at both
      exact absurd both.2 Bool.false_ne_true
    · intro late
      have isSome := late.lastFeed_isSome
      rw [none] at isSome
      exact absurd isSome Bool.false_ne_true

theorem misses_looked
    {entry : WdEntry} {log : List WatchEvent} {now ticks : Nat}
    (tracks : entry.Tracks log now) (later : now ≤ ticks)
    (near : ∀ feed, lastFeed log = some feed → ticks - feed.ticks < UInt32.size)
    {count : Nat} (small : count ≤ 255) :
    count ≤
          (watchdogLook entry (xTaskGetTickCount ticks)).1.missCount.toNat ∧
        entry.active = true ↔
      LastLate count (log ++ [.looked ticks]) := by
  have isLast : lastFeed (log ++ [.looked ticks]) = lastFeed log :=
    lastFeed_snoc log (.looked ticks)
  cases count with
  | zero =>
      rw [lastLate_zero, isLast, tracks.active]
      exact and_iff_right (Nat.zero_le _)
  | succ count =>
      rw [lastLate_looked, ← tracks.misses count (Nat.le_of_succ_le small),
        watchdogLook]
      by_cases isActive : entry.active = true
      · rw [if_pos isActive]
        have isSome := isActive
        rw [tracks.active] at isSome
        rcases Option.isSome_iff_exists.mp isSome with ⟨feed, isFeed⟩
        have isLate := tracks.late_iff later isFeed (near feed isFeed)
        have lateLog :
            (∃ other, lastFeed log = some other ∧ other.Late ticks) ↔
            feed.Late ticks := by
          simp only [isFeed, Option.some.injEq, exists_eq_left']
        rw [lateLog, ← isLate]
        split
        · next late =>
            simp only [isActive, and_true, late]
            split
            · next below =>
                have fits : entry.missCount.toNat < 255 :=
                  UInt8.lt_iff_toNat_lt.mp below
                have next :
                    (entry.missCount + 1).toNat =
                      entry.missCount.toNat + 1 := by
                  rw [UInt8.toNat_add]
                  exact Nat.mod_eq_of_lt (Nat.succ_lt_succ fits)
                rw [next, Nat.add_le_add_iff_right]
            · next full =>
                rw [UInt8.lt_iff_toNat_lt] at full
                have many : 255 ≤ entry.missCount.toNat := Nat.le_of_not_lt full
                omega
        · next early =>
            simp only [early, and_false, iff_false]
            exact fun both => absurd both.1 (Nat.not_succ_le_zero count)
      · rw [if_neg isActive]
        exact
          ⟨fun both => absurd both.2 isActive,
            fun both => absurd both.1.2 isActive⟩

theorem watchdogLook_kept (entry : WdEntry) (nowTicks : UInt32) :
    (watchdogLook entry nowTicks).1 =
      { entry with
        missCount := (watchdogLook entry nowTicks).1.missCount } := by
  rw [watchdogLook]
  split
  · split
    · rfl
    · rfl
  · rfl

theorem watchdogLook_restart (entry : WdEntry) (nowTicks : UInt32) :
    (watchdogLook entry nowTicks).2 = true ↔
    3 ≤ (watchdogLook entry nowTicks).1.missCount.toNat ∧
    entry.active = true := by
  rw [watchdogLook]
  split
  · next active =>
      rw [and_iff_left active]
      split
      · rw [decide_eq_true_iff]
        exact UInt8.le_iff_toNat_le
      · have few : ¬ 3 ≤ (0 : UInt8).toNat := by decide
        exact
          ⟨fun never => absurd never Bool.false_ne_true,
            fun many => absurd many few⟩
  · next idle =>
      exact
        ⟨fun never => absurd never Bool.false_ne_true,
          fun both => absurd both.2 idle⟩

/-- What the first section leaves of an entry, and whether a restart is
needed. -/
theorem WdEntry.Tracks.look
    {entry : WdEntry} {log : List WatchEvent} {now ticks : Nat}
    (tracks : entry.Tracks log now) (later : now ≤ ticks)
    (near :
      ∀ feed, lastFeed log = some feed → ticks - feed.ticks < UInt32.size) :
    (watchdogLook entry (xTaskGetTickCount ticks)).1.Tracks
        (log ++ [.looked ticks]) ticks ∧
    ((watchdogLook entry (xTaskGetTickCount ticks)).2 = true ↔
    LastLate 3 (log ++ [.looked ticks])) := by
  have isLast : lastFeed (log ++ [.looked ticks]) = lastFeed log :=
    lastFeed_snoc log (.looked ticks)
  have kept := watchdogLook_kept entry (xTaskGetTickCount ticks)
  have active :
      (watchdogLook entry (xTaskGetTickCount ticks)).1.active =
        entry.active := by
    rw [kept]
  constructor
  · refine ⟨?_, ?_, ?_, ?_⟩
    · rw [active, isLast]
      exact tracks.active
    · intro feed isFeed
      rw [isLast] at isFeed
      rw [kept]
      exact (tracks.wait later).feed feed isFeed
    · intro count small
      rw [active]
      exact misses_looked tracks later near small
    · intro other member
      rcases List.mem_append.mp member with before | last
      · exact Nat.le_trans (tracks.past other before) later
      · cases List.mem_singleton.mp last
        exact Nat.le_refl _
  · rw [watchdogLook_restart]
    exact misses_looked tracks later near (by decide)

/-- The second section confirms what the first one found, unless the entry
was fed or registered in between. -/
theorem WdEntry.Tracks.confirm
    {entry : WdEntry} {log : List WatchEvent} {now ticks : Nat}
    (tracks : entry.Tracks log now) (later : now ≤ ticks)
    (near :
      ∀ feed, lastFeed log = some feed → ticks - feed.ticks < UInt32.size) :
    watchdogConfirm entry (xTaskGetTickCount ticks) = true ↔
    LastLate 3 log := by
  have misses := tracks.misses 3 (by decide)
  have enough :
      entry.missCount ≥ watchdogMaxMisses ↔ 3 ≤ entry.missCount.toNat :=
    UInt8.le_iff_toNat_le
  rw [watchdogConfirm, Bool.and_eq_true, Bool.and_eq_true,
    decide_eq_true_iff, decide_eq_true_iff, enough]
  constructor
  · rintro ⟨active, -, many⟩
    exact misses.mp ⟨many, active⟩
  · intro late
    rcases misses.mpr late with ⟨many, active⟩
    refine ⟨active, ?_, many⟩
    rcases late with ⟨earlier, looks, feed, rfl, isCount, isFeed, late⟩
    rw [← lastFeed_looks earlier looks] at isFeed
    rw [tracks.late_iff later isFeed (near feed isFeed)]
    rcases List.exists_mem_of_length_pos
        (Nat.lt_of_lt_of_eq (by decide : 0 < 3) isCount.symm) with
      ⟨look, member⟩
    have before :=
      tracks.past look (List.mem_append_right _ (List.mem_map_of_mem member))
    exact Nat.lt_of_lt_of_le (late look member) (Nat.le_trans before later)

/-! ## Runs -/

/-- Where the check stands: before the first section of an entry, or before
the second.  After the last entry it stands before the first one again, where
the next call of `watchdog_check` begins. -/
inductive CheckPlace where
  | look (i : Fin maxWd)
  | confirm (i : Fin maxWd)
deriving DecidableEq

/-- What is done under the lock: a registration or a feed, with the tick that
was read before the lock was taken, or the next section of the check. -/
inductive WatchdogCall where
  | register (id : UInt8) (timeoutMs : UInt32) (read : Nat)
  | feed (id : UInt8) (read : Nat)
  | check
deriving DecidableEq

/-- The watchdog, with the ticks that have passed and the history of each
entry.  A restart ends the run. -/
structure WatchdogRun where
  table : WatchdogTable
  place : CheckPlace
  restarted : Bool
  now : Nat
  log : Fin maxWd → List WatchEvent

/-- After `watchdog_init`. -/
def WatchdogRun.init : WatchdogRun where
  table := watchdogInit
  place := .look 0
  restarted := false
  now := 0
  log := fun _ => []

/-- The histories after one more event. -/
def WatchdogRun.note (run : WatchdogRun) (id : UInt8) (event : WatchEvent) :
    Fin maxWd → List WatchEvent :=
  match wdIndex id with
  | none => run.log
  | some i => Function.update run.log i (run.log i ++ [event])

/-- One section, at some tick, and the entry on whose account the device
restarts. -/
def watchdogStep (pdMsToTicks : UInt32 → UInt32) (run : WatchdogRun)
    (event : Nat × WatchdogCall) : WatchdogRun × Option (Fin maxWd) :=
  if run.restarted then (run, none)
  else
    match event.2 with
    | .register id timeoutMs read =>
        ({ run with
            table :=
              watchdogRegister pdMsToTicks run.table id timeoutMs
                (xTaskGetTickCount read)
            now := event.1
            log :=
              run.note id
                (.registered read
                  (registeredTicks pdMsToTicks timeoutMs)) }, none)
    | .feed id read =>
        ({ run with
            table := watchdogFeed run.table id (xTaskGetTickCount read)
            now := event.1
            log := run.note id (.fed read) }, none)
    | .check =>
        match run.place with
        | .look i =>
            let looked := watchdogLook (run.table i) (xTaskGetTickCount event.1)
            ({ run with
                table := Function.update run.table i looked.1
                place := if looked.2 then .confirm i else .look (i + 1)
                now := event.1
                log :=
                  Function.update run.log i
                    (run.log i ++ [.looked event.1]) }, none)
        | .confirm i =>
            if watchdogConfirm (run.table i) (xTaskGetTickCount event.1)
            then ({ run with restarted := true, now := event.1 }, some i)
            else
              ({ run with place := .look (i + 1), now := event.1 }, none)

/-- The next section of the check is that at a place. -/
def WatchdogRun.Reaches (run : WatchdogRun) (event : Nat × WatchdogCall)
    (place : CheckPlace) : Prop :=
  run.restarted = false ∧ event.2 = .check ∧ run.place = place

/-- The entry that a section of the check is about. -/
def CheckPlace.entry : CheckPlace → Fin maxWd
  | .look i => i
  | .confirm i => i

/-- Time does not run backwards, no tick is read before it comes, and less
than a round of the counter passes between a feed and a check. -/
structure Clocked (run : WatchdogRun) (event : Nat × WatchdogCall) :
    Prop where
  later : run.now ≤ event.1
  registered :
    ∀ id timeoutMs read, event.2 = .register id timeoutMs read → read ≤ event.1
  fed : ∀ id read, event.2 = .feed id read → read ≤ event.1
  near :
    event.2 = .check →
    ∀ feed, lastFeed (run.log run.place.entry) = some feed →
    event.1 - feed.ticks < UInt32.size

/-- Every entry is what its history makes of it. -/
def WatchdogRun.Sound (run : WatchdogRun) : Prop :=
  ∀ i, (run.table i).Tracks (run.log i) run.now

theorem sound_watchdogInit : WatchdogRun.init.Sound := tracks_init

theorem watchdogStep_now
    (pdMsToTicks : UInt32 → UInt32) {run : WatchdogRun}
    (event : Nat × WatchdogCall) (running : ¬ run.restarted = true) :
    (watchdogStep pdMsToTicks run event).1.now = event.1 := by
  rw [watchdogStep, if_neg running]
  split
  · rfl
  · rfl
  · split
    · rfl
    · split
      · rfl
      · rfl

/-- What a section does to one entry and to its history. -/
inductive Treated (pdMsToTicks : UInt32 → UInt32) (run : WatchdogRun)
    (event : Nat × WatchdogCall) (i : Fin maxWd) :
    WdEntry → List WatchEvent → Prop where
  | alone : Treated pdMsToTicks run event i (run.table i) (run.log i)
  | registered {id : UInt8} {timeoutMs : UInt32} {read : Nat}
      (isCall : event.2 = .register id timeoutMs read) :
      Treated pdMsToTicks run event i
        { timeoutTicks := registeredTicks pdMsToTicks timeoutMs
          lastFeedTick := xTaskGetTickCount read
          missCount := 0
          active := true }
        (run.log i ++
          [.registered read (registeredTicks pdMsToTicks timeoutMs)])
  | fed {id : UInt8} {read : Nat} (isCall : event.2 = .feed id read) :
      Treated pdMsToTicks run event i
        { run.table i with
          lastFeedTick := xTaskGetTickCount read
          missCount := 0 }
        (run.log i ++ [.fed read])
  | fedIdle {id : UInt8} {read : Nat} (isCall : event.2 = .feed id read)
      (isIdle : (run.table i).active = false) :
      Treated pdMsToTicks run event i (run.table i) (run.log i ++ [.fed read])
  | looked (reaches : run.Reaches event (.look i)) :
      Treated pdMsToTicks run event i
        (watchdogLook (run.table i) (xTaskGetTickCount event.1)).1
        (run.log i ++ [.looked event.1])

theorem watchdogStep_treats
    (pdMsToTicks : UInt32 → UInt32) (run : WatchdogRun)
    (event : Nat × WatchdogCall) (i : Fin maxWd) :
    let after := (watchdogStep pdMsToTicks run event).1
    Treated pdMsToTicks run event i (after.table i) (after.log i) := by
  rcases event with ⟨now, call⟩
  rw [watchdogStep]
  split
  · exact .alone
  · next running =>
      cases call with
      | register id timeoutMs read =>
          simp only [watchdogRegister, WatchdogRun.note]
          cases wdIndex id with
          | none => exact .alone
          | some place =>
              dsimp only
              by_cases same : i = place
              · subst same
                rw [Function.update_self, Function.update_self]
                exact .registered rfl
              · rw [Function.update_of_ne same, Function.update_of_ne same]
                exact .alone
      | feed id read =>
          simp only [watchdogFeed, WatchdogRun.note]
          cases wdIndex id with
          | none => exact .alone
          | some place =>
              dsimp only
              by_cases same : i = place
              · subst same
                rw [Function.update_self]
                split
                · rw [Function.update_self]
                  exact .fed rfl
                · next isIdle =>
                    exact .fedIdle rfl (Bool.eq_false_of_not_eq_true isIdle)
              · rw [Function.update_of_ne same]
                split
                · rw [Function.update_of_ne same]
                  exact .alone
                · exact .alone
      | check =>
          cases isPlace : run.place with
          | look place =>
              by_cases same : i = place
              · subst same
                simp only [Function.update_self]
                exact
                  .looked ⟨Bool.eq_false_of_not_eq_true running, rfl, isPlace⟩
              · simp only [Function.update_of_ne same]
                exact .alone
          | confirm place =>
              simp only
              split
              · exact .alone
              · exact .alone

theorem Treated.tracks
    {pdMsToTicks : UInt32 → UInt32} {run : WatchdogRun}
    {event : Nat × WatchdogCall} {i : Fin maxWd} {entry : WdEntry}
    {log : List WatchEvent}
    (treated : Treated pdMsToTicks run event i entry log)
    (tracks : (run.table i).Tracks (run.log i) run.now)
    (clocked : Clocked run event) : entry.Tracks log event.1 := by
  have waited := tracks.wait clocked.later
  cases treated with
  | alone => exact waited
  | registered isCall =>
      exact waited.register (clocked.registered _ _ _ isCall) _
  | fed isCall => exact waited.fed (clocked.fed _ _ isCall)
  | fedIdle isCall isIdle => exact waited.fed_inactive _ isIdle
  | looked reaches =>
      have near := clocked.near reaches.2.1
      rw [reaches.2.2] at near
      exact (tracks.look clocked.later near).1

theorem watchdogStep_sound
    (pdMsToTicks : UInt32 → UInt32) {run : WatchdogRun} (sound : run.Sound)
    {event : Nat × WatchdogCall} (clocked : Clocked run event) :
    (watchdogStep pdMsToTicks run event).1.Sound := by
  intro i
  have tracks :=
    (watchdogStep_treats pdMsToTicks run event i).tracks (sound i) clocked
  by_cases restarted : run.restarted = true
  · rw [watchdogStep, if_pos restarted]
    exact sound i
  · rw [watchdogStep_now pdMsToTicks event restarted]
    exact tracks

/-- What the sections of the check decide. -/
structure Decides (made :
    Run.Transition WatchdogRun (Nat × WatchdogCall) (Option (Fin maxWd)))
    (i : Fin maxWd) : Prop where
  looked :
    made.before.Reaches made.action (.look i) →
    (made.after.place = .confirm i ↔ LastLate 3 (made.after.log i))
  restarted :
    made.output = some i ↔
    made.before.Reaches made.action (.confirm i) ∧
    LastLate 3 (made.before.log i)

theorem watchdogStep_decides
    (pdMsToTicks : UInt32 → UInt32) {run : WatchdogRun} (sound : run.Sound)
    {event : Nat × WatchdogCall} (clocked : Clocked run event)
    (i : Fin maxWd) :
    Decides (Run.call (watchdogStep pdMsToTicks) run event) i := by
  rcases event with ⟨now, call⟩
  have later : run.now ≤ now := clocked.later
  constructor
  · intro reaches
    have running : run.restarted = false := reaches.1
    have isPlace : run.place = .look i := reaches.2.2
    cases (show call = .check from reaches.2.1)
    have near := clocked.near rfl
    rw [isPlace] at near
    have decided := ((sound i).look later near).2
    simp only [Run.call, watchdogStep, running, isPlace, Bool.false_eq_true,
      if_false, Function.update_self]
    rw [← decided]
    split
    · next needed => exact iff_of_true rfl needed
    · next spared =>
        exact iff_of_false (fun other => by cases other) spared
  · constructor
    · intro restarts
      rw [Run.call, watchdogStep] at restarts
      split at restarts
      · cases restarts
      · next running =>
          cases call with
          | check =>
              have near := clocked.near rfl
              cases isPlace : run.place with
              | look other =>
                  rw [isPlace] at restarts
                  cases restarts
              | confirm other =>
                  rw [isPlace] at restarts near
                  simp only at restarts
                  split at restarts
                  · next confirmed =>
                      cases restarts
                      exact
                        ⟨⟨Bool.eq_false_of_not_eq_true running, rfl,
                            isPlace⟩,
                          ((sound i).confirm later near).mp confirmed⟩
                  · cases restarts
          | _ => cases restarts
    · rintro ⟨reaches, late⟩
      have running : run.restarted = false := reaches.1
      have isPlace : run.place = .confirm i := reaches.2.2
      cases (show call = .check from reaches.2.1)
      have near := clocked.near rfl
      rw [isPlace] at near
      have confirmed := ((sound i).confirm later near).mpr late
      simp only [Run.call, watchdogStep, running, isPlace,
        Bool.false_eq_true, if_false, confirmed, if_true]

theorem LastLate.one
    {count : Nat} {log : List WatchEvent}
    (late : LastLate (count + 1) log) : LastLate 1 log := by
  rcases late with ⟨earlier, looks, feed, rfl, isCount, isFeed, late⟩
  cases looks using List.reverseRecOn with
  | nil => cases isCount
  | append_singleton before last =>
      refine ⟨earlier ++ before.map .looked, [last], feed, ?_, rfl, ?_, ?_⟩
      · rw [List.map_append, List.append_assoc]
      · rw [lastFeed_looks, isFeed]
      · intro ticks member
        exact late ticks (List.mem_append_right _ member)

/-- The check finds an entry fed in time, if it looks at it. -/
def FedInTime (i : Fin maxWd) (run : WatchdogRun)
    (event : Nat × WatchdogCall) : Prop :=
  run.Reaches event (.look i) →
  ∀ feed, lastFeed (run.log i) = some feed → ¬ feed.Late event.1

theorem Treated.notLate
    {pdMsToTicks : UInt32 → UInt32} {run : WatchdogRun}
    {event : Nat × WatchdogCall} {i : Fin maxWd} {entry : WdEntry}
    {log : List WatchEvent}
    (treated : Treated pdMsToTicks run event i entry log)
    (fresh : ¬ LastLate 1 (run.log i)) (fed : FedInTime i run event) :
    ¬ LastLate 1 log := by
  cases treated with
  | alone => exact fresh
  | looked reaches =>
      rw [lastLate_looked]
      rintro ⟨-, feed, isFeed, late⟩
      exact fed reaches feed isFeed late
  | _ =>
      exact not_lastLate_snoc fun ticks same => by cases same

/--
In every run of the watchdog, with calls of other tasks between any two
sections of a check: a look at an entry asks for a restart exactly when it is
the third or a later one in a row, without a feed or a registration since, to
find the entry active and its last feed late; and the device restarts exactly
when that still stands at the confirmation.  An entry that is fed in time does
not restart the device.
-/
theorem watchdogCheck_restarts_iff
    (pdMsToTicks : UInt32 → UInt32) (events : List (Nat × WatchdogCall))
    (clocked :
      ∀ made ∈ Run.history (watchdogStep pdMsToTicks) .init events,
        Clocked made.before made.action) :
    (∀ made ∈ Run.history (watchdogStep pdMsToTicks) .init events,
        ∀ i, Decides made i) ∧
      ∀ i,
        (∀ made ∈ Run.history (watchdogStep pdMsToTicks) .init events,
            FedInTime i made.before made.action) →
          ∀ made ∈ Run.history (watchdogStep pdMsToTicks) .init events,
            made.output ≠ some i := by
  have decides :
      ∀ made ∈ Run.history (watchdogStep pdMsToTicks) .init events,
        ∀ i, Decides made i := by
    intro made member i
    have sound :=
      (Run.allowed_invariant WatchdogRun.Sound Clocked
        (fun _ _ sound clocked =>
          watchdogStep_sound pdMsToTicks sound clocked)
        sound_watchdogInit clocked).2 made member
    have isCall := Run.eq_call_of_mem_history member
    rw [isCall]
    exact watchdogStep_decides pdMsToTicks sound (clocked made member) i
  refine ⟨decides, ?_⟩
  intro i fed made member restarts
  have unregistered : ¬ LastLate 1 (WatchdogRun.init.log i) :=
    fun late => absurd late.lastFeed_isSome Bool.false_ne_true
  have fresh :=
    (Run.allowed_invariant (fun run => ¬ LastLate 1 (run.log i))
      (FedInTime i)
      (fun run event fresh fed =>
        (watchdogStep_treats pdMsToTicks run event i).notLate fresh fed)
      unregistered fed).2 made member
  exact fresh ((decides made member i).restarted.mp restarts).2.one

/-! ## A task that hangs -/

instance (run : WatchdogRun) (event : Nat × WatchdogCall)
    (place : CheckPlace) : Decidable (run.Reaches event place) :=
  inferInstanceAs (Decidable (_ ∧ _))

instance (i : Fin maxWd) (run : WatchdogRun) (event : Nat × WatchdogCall) :
    Decidable (FedInTime i run event) :=
  inferInstanceAs
    (Decidable (_ → ∀ feed ∈ lastFeed (run.log i), ¬ feed.Late event.1))

def ClockedCall (run : WatchdogRun) (ticks : Nat) : WatchdogCall → Prop
  | .register _ _ read => read ≤ ticks
  | .feed _ read => read ≤ ticks
  | .check =>
      ∀ feed ∈ lastFeed (run.log run.place.entry),
        ticks - feed.ticks < UInt32.size

instance (run : WatchdogRun) (ticks : Nat) (call : WatchdogCall) :
    Decidable (ClockedCall run ticks call) :=
  match call with
  | .register _ _ read => inferInstanceAs (Decidable (read ≤ ticks))
  | .feed _ read => inferInstanceAs (Decidable (read ≤ ticks))
  | .check =>
      inferInstanceAs
        (Decidable
          (∀ feed ∈ lastFeed (run.log run.place.entry),
            ticks - feed.ticks < UInt32.size))

theorem clocked_iff (run : WatchdogRun) (event : Nat × WatchdogCall) :
    run.now ≤ event.1 ∧ ClockedCall run event.1 event.2 ↔
    Clocked run event := by
  rcases event with ⟨ticks, call⟩
  constructor
  · rintro ⟨later, ofCall⟩
    refine ⟨later, ?_, ?_, ?_⟩
    · rintro _ _ _ rfl
      exact ofCall
    · rintro _ _ rfl
      exact ofCall
    · rintro rfl
      exact ofCall
  · intro clocked
    refine ⟨clocked.later, ?_⟩
    cases call with
    | register id timeoutMs read => exact clocked.registered _ _ _ rfl
    | feed id read => exact clocked.fed _ _ rfl
    | check => exact clocked.near rfl

instance (run : WatchdogRun) (event : Nat × WatchdogCall) :
    Decidable (Clocked run event) :=
  decidable_of_iff _ (clocked_iff run event)

def checkAll (ticks : Nat) : List (Nat × WatchdogCall) :=
  List.replicate maxWd (ticks, .check)

def hangingTask : List (Nat × WatchdogCall) :=
  [(0, .register 0 2 0), (0, .register 1 12 0)] ++ checkAll 10 ++
    [(15, .feed 1 15)] ++ checkAll 20 ++ [(30, .check), (30, .check)]

def hanging : Fin maxWd := ⟨0, by decide⟩

def fedTask : Fin maxWd := ⟨1, by decide⟩

/-- The third late look at task 0 asks for a restart, which comes on account of
that task, after three late looks; task 1 restarts nothing. -/
theorem hangingTask_restarts :
    ∃ made ∈ Run.history (watchdogStep id) .init hangingTask,
      made.output = some hanging ∧ LastLate 3 (made.before.log hanging) ∧
      ∀ other ∈ Run.history (watchdogStep id) .init hangingTask,
        other.output ≠ some fedTask := by
  have clocked :
      ∀ made ∈ Run.history (watchdogStep id) .init hangingTask,
        Clocked made.before made.action := by
    decide +kernel
  have fed :
      ∀ made ∈ Run.history (watchdogStep id) .init hangingTask,
        FedInTime fedTask made.before made.action := by
    decide +kernel
  have restarts :
      ∃ made ∈ Run.history (watchdogStep id) .init hangingTask,
        made.output = some hanging := by
    decide +kernel
  rcases restarts with ⟨made, member, output⟩
  rcases watchdogCheck_restarts_iff id hangingTask clocked with
    ⟨decides, spared⟩
  exact
    ⟨made, member, output,
      ((decides made member hanging).restarted.mp output).2,
      spared fedTask fed⟩

end Endap.Kernel
