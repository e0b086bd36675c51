import Endap.V3.Journal

/-!
# Restoring the catalog at boot

At boot the catalog is filled from the flash.  The restore opens the same
handle that the flush uses, but for reading only, and leaves it open.  A flush
opens the handle only when it is closed, so after a restore every flush writes
through a handle that refuses writes, and clears its marks all the same.

After a restore, a flush therefore accounts for the marked records only when
there are none.
-/

namespace Endap.V3

open Endap.Library

/-! ## The restore -/

/-- What the driver answers during a restore: whether the namespace opens,
the keys in the order of its iterator, and which of them can be read. -/
structure RestoreOutcome where
  opens : Bool
  entries : List (List Char)
  reads : List Char → Bool

/-- One iteration of the loop of `v3_persistence_restore_catalog`. -/
def restoreEntry
    (flash : List Char → Option ResourceRecord) (reads : List Char → Bool)
    (catalog : CatalogPool) (key : List Char) : CatalogPool :=
  match flash key with
  | none => catalog
  | some record =>
      if reads key then (catalog.insert record).1 else catalog

def v3PersistenceRestoreCatalog
    (persistence : V3Persistence) (catalog : CatalogPool)
    (outcome : RestoreOutcome) : (V3Persistence × CatalogPool) × Bool :=
  if outcome.opens then
    (({ persistence with handle := .readOnly },
        outcome.entries.foldl
          (restoreEntry persistence.flash outcome.reads) catalog),
      true)
  else ((persistence, catalog), false)

/-! ## Runs -/

/-- The catalog and its persistence. -/
structure PersistedCatalog where
  catalog : CatalogPool
  persistence : V3Persistence

/-- The state at power-up, over any flash. -/
def PersistedCatalog.boot
    (flash : List Char → Option ResourceRecord) : PersistedCatalog where
  catalog := .init
  persistence :=
    { dirtyMask := fun _ => 0
      handle := .closed
      flash := flash }

/-- A change of the catalog, or a call of `v3_persistence.c`. -/
inductive PersistenceCall where
  | insert (record : ResourceRecord)
  | updateDesired (id : UInt64) (desired : UInt32)
  | updateReported (id : UInt64) (reported : UInt32)
  | remove (id : UInt64)
  | markDirty (index : Nat)
  | flush (outcome : FlushOutcome)
  | restore (outcome : RestoreOutcome)

/-- What a call returns. -/
inductive PersistenceReply where
  | accepted (success : Bool)
  | marked
  | flushed (writeCount : Nat)
  | restored (success : Bool)
deriving DecidableEq

/-- The effect of one call. -/
def PersistedCatalog.call (world : PersistedCatalog) :
    PersistenceCall → PersistedCatalog × PersistenceReply
  | .insert record =>
      let result := world.catalog.insert record
      ({ world with catalog := result.1 }, .accepted result.2)
  | .updateDesired id desired =>
      let result := world.catalog.updateDesired id desired
      ({ world with catalog := result.1 }, .accepted result.2)
  | .updateReported id reported =>
      let result := world.catalog.updateReported id reported
      ({ world with catalog := result.1 }, .accepted result.2)
  | .remove id =>
      let result := world.catalog.removeRecord id
      ({ world with catalog := result.1 }, .accepted result.2)
  | .markDirty index =>
      ({ world with
          persistence :=
            { world.persistence with
              dirtyMask :=
                v3PersistenceMarkDirty world.persistence.dirtyMask index } },
        .marked)
  | .flush outcome =>
      let result :=
        v3PersistenceFlushDirtyRecords world.persistence world.catalog outcome
      ({ world with persistence := result.1 }, .flushed result.2)
  | .restore outcome =>
      let result :=
        v3PersistenceRestoreCatalog world.persistence world.catalog outcome
      ({ catalog := result.1.2, persistence := result.1.1 }, .restored result.2)

/-! ## What a flush owes -/

/-- The cells of the live records that are marked. -/
def PersistedCatalog.dirtyLive (world : PersistedCatalog) : List Nat :=
  (List.range world.catalog.count).filter fun index =>
    Marked world.persistence.dirtyMask index

/-- The flush stores every dirty live record or keeps it dirty, and returns
the number of those that it stored. -/
def PersistedCatalog.FlushAccounts
    (world : PersistedCatalog) (outcome : FlushOutcome) : Prop :=
  let after := (world.call (.flush outcome)).1
  (∀ index ∈ world.dirtyLive,
      after.persistence.flash (getNvsKey (world.catalog.pool index).id) =
          some (world.catalog.pool index) ∨
      index ∈ after.dirtyLive) ∧
    ∃ stored,
      (world.call (.flush outcome)).2 = .flushed stored ∧
      stored + after.dirtyLive.length = world.dirtyLive.length

namespace PersistedCatalog

variable {world : PersistedCatalog}

/-! ## The handle stays open for reading -/

theorem restoreEntry_wellKept
    {flash : List Char → Option ResourceRecord} {reads : List Char → Bool}
    {catalog : CatalogPool} (kept : catalog.WellKept) (key : List Char) :
    (restoreEntry flash reads catalog key).WellKept := by
  rw [restoreEntry]
  split
  · exact kept
  · split
    · exact (kept.insert _).1
    · exact kept

theorem restoreEntries_wellKept
    {flash : List Char → Option ResourceRecord} {reads : List Char → Bool}
    (entries : List (List Char)) {catalog : CatalogPool}
    (kept : catalog.WellKept) :
    (entries.foldl (restoreEntry flash reads) catalog).WellKept := by
  induction entries generalizing catalog with
  | nil => exact kept
  | cons key entries induction =>
      exact induction (restoreEntry_wellKept kept key)

theorem call_wellKept
    (kept : world.catalog.WellKept) (call : PersistenceCall) :
    (world.call call).1.catalog.WellKept := by
  cases call with
  | insert record => exact (kept.call (.insert record)).1
  | updateDesired id desired =>
      exact (kept.call (.updateDesired id desired)).1
  | updateReported id reported =>
      exact (kept.call (.updateReported id reported)).1
  | remove id => exact (kept.call (.remove id)).1
  | restore outcome =>
      simp only [PersistedCatalog.call, v3PersistenceRestoreCatalog]
      split
      · exact restoreEntries_wellKept outcome.entries kept
      · exact kept
  | _ => exact kept

theorem call_readOnly
    (readOnly : world.persistence.handle = .readOnly)
    (call : PersistenceCall) :
    (world.call call).1.persistence.handle = .readOnly := by
  cases call with
  | flush outcome =>
      simp [PersistedCatalog.call, v3PersistenceFlushDirtyRecords, readOnly]
  | restore outcome =>
      simp only [PersistedCatalog.call, v3PersistenceRestoreCatalog]
      split
      · rfl
      · exact readOnly
  | _ => exact readOnly

/-- The catalog is well kept, and the handle is open for reading only. -/
def ReadOnly (world : PersistedCatalog) : Prop :=
  world.catalog.WellKept ∧ world.persistence.handle = .readOnly

theorem final_wellKept
    (flash : List Char → Option ResourceRecord)
    (calls : List PersistenceCall) :
    (Run.final call (boot flash) calls).catalog.WellKept := by
  refine
    Run.final_invariant
      (fun world : PersistedCatalog => world.catalog.WellKept)
      CatalogPool.init_wellKept ?_ calls
  intro world action kept
  exact call_wellKept kept action

theorem final_readOnly
    (readOnly : world.ReadOnly) (calls : List PersistenceCall) :
    (Run.final call world calls).ReadOnly := by
  refine Run.final_invariant ReadOnly readOnly ?_ calls
  rintro world action ⟨kept, handle⟩
  exact ⟨call_wellKept kept action, call_readOnly handle action⟩

/-! ## A flush through a handle open for reading -/

theorem flush_refused
    {persistence : V3Persistence} (readOnly : persistence.handle = .readOnly)
    (catalog : CatalogPool) (outcome : FlushOutcome) :
    v3PersistenceFlushDirtyRecords persistence catalog outcome =
      let flushed := flushRows catalog (fun _ => false) 32 persistence.unwritten
      ({ dirtyMask := flushed.dirtyMask
         handle := .readOnly
         flash := flushed.flash },
        flushed.writeCount) := by
  simp [v3PersistenceFlushDirtyRecords, readOnly, V3Persistence.unwritten]

theorem flush_readOnly
    (readOnly : world.ReadOnly) (outcome : FlushOutcome) :
    (world.call (.flush outcome)).2 = .flushed 0 ∧
    (world.call (.flush outcome)).1.dirtyLive = [] := by
  rcases readOnly with ⟨kept, handle⟩
  rcases
    flushRows_spec (fun state => state.writeCount = 0)
      (fun _ _ _ unwritten flow =>
        (flushBody_refused (fun _ => rfl) flow).2.trans unwritten)
      (rfl : world.persistence.unwritten.writeCount = 0) 32 with
    ⟨unwritten, empty⟩
  constructor
  · simp only [PersistedCatalog.call, flush_refused handle]
    exact congrArg PersistenceReply.flushed unwritten
  · refine List.filter_eq_nil_iff.mpr ?_
    intro index member
    simp only [PersistedCatalog.call, flush_refused handle, decide_eq_true_eq]
    exact not_marked_of_empty kept empty (List.mem_range.mp member)

theorem flushAccounts_of_clean
    (readOnly : world.ReadOnly) (clean : world.dirtyLive = [])
    (outcome : FlushOutcome) : world.FlushAccounts outcome := by
  rcases flush_readOnly readOnly outcome with ⟨returned, nothing⟩
  refine ⟨?_, 0, returned, ?_⟩
  · intro index member
    rw [clean] at member
    cases member
  · rw [nothing, clean]
    rfl

end PersistedCatalog

/--
After a restore that returned true, in every state that later changes, marks,
flushes and restores lead to, a flush accounts for the dirty live records
exactly if there are none.
-/
theorem flush_after_restore_iff
    (flash : List Char → Option ResourceRecord)
    (earlier : List PersistenceCall) (restore : RestoreOutcome)
    (later : List PersistenceCall) (outcome : FlushOutcome)
    (returned :
      ((Run.final PersistedCatalog.call (.boot flash) earlier).call
          (.restore restore)).2 =
        .restored true) :
    let world :=
      Run.final PersistedCatalog.call (.boot flash)
        (earlier ++ .restore restore :: later)
    world.FlushAccounts outcome ↔
    ∀ index, index < world.catalog.count →
    ¬ Marked world.persistence.dirtyMask index := by
  intro world
  have readOnly : world.ReadOnly := by
    have kept := PersistedCatalog.final_wellKept flash earlier
    have opened : restore.opens = true := by
      simp only [PersistedCatalog.call, v3PersistenceRestoreCatalog] at returned
      split at returned
      · assumption
      · cases returned
    have restored :
        ((Run.final PersistedCatalog.call (.boot flash) earlier).call
          (.restore restore)).1.ReadOnly := by
      refine ⟨PersistedCatalog.call_wellKept kept _, ?_⟩
      simp [PersistedCatalog.call, v3PersistenceRestoreCatalog, opened]
    have reached := PersistedCatalog.final_readOnly restored later
    rwa [← Run.final, ← Run.final_append] at reached
  have clean :
      world.dirtyLive = [] ↔
      ∀ index, index < world.catalog.count →
      ¬ Marked world.persistence.dirtyMask index := by
    simp [PersistedCatalog.dirtyLive, List.filter_eq_nil_iff]
  rw [← clean]
  constructor
  · rintro ⟨_, stored, count, accounted⟩
    rcases PersistedCatalog.flush_readOnly readOnly outcome with
      ⟨nothing, noneDirty⟩
    rw [nothing] at count
    cases count
    rw [noneDirty] at accounted
    exact List.length_eq_zero_iff.mp accounted.symm
  · intro noneDirty
    exact PersistedCatalog.flushAccounts_of_clean readOnly noneDirty outcome

def storedOne : List Char → Option ResourceRecord :=
  Function.update (fun _ => none) (getNvsKey 1) (some (.plain 1))

def restoresOne : RestoreOutcome where
  opens := true
  entries := [getNvsKey 1]
  reads := fun _ => true

/-- Before any change there is nothing to store. -/
theorem flush_after_restoresOne :
    (Run.final PersistedCatalog.call (.boot storedOne)
        [.restore restoresOne]).FlushAccounts .succeeds :=
  (flush_after_restore_iff storedOne [] restoresOne [] .succeeds
      (by decide +kernel)).mpr
    (by decide +kernel)

/-- The restored record is changed and marked.  The flush, with a driver that
refuses nothing, returns zero, leaves the old record in the flash and the
changed one unmarked. -/
theorem change_after_restore_lost :
    let world :=
      Run.final PersistedCatalog.call (.boot storedOne)
        [.restore restoresOne, .updateDesired 1 7, .markDirty 0]
    let flushed := world.call (.flush .succeeds)
    ((PersistedCatalog.boot storedOne).call (.restore restoresOne)).2 =
        .restored true ∧
    world.dirtyLive = [0] ∧
    world.catalog.pool 0 = (ResourceRecord.plain 1).withDesired 7 ∧
    flushed.2 = .flushed 0 ∧
    flushed.1.persistence.flash (getNvsKey 1) = some (.plain 1) ∧
    flushed.1.dirtyLive = [] ∧
    ¬ world.FlushAccounts .succeeds := by
  refine ⟨by decide +kernel, by decide +kernel, by decide +kernel,
    by decide +kernel, by decide +kernel, by decide +kernel, ?_⟩
  rintro ⟨_, stored, count, accounted⟩
  have returned :
      (((Run.final PersistedCatalog.call (.boot storedOne)
              [.restore restoresOne, .updateDesired 1 7, .markDirty 0]).call
          (.flush .succeeds)).2 = .flushed 0) := by
    decide +kernel
  rw [returned] at count
  cases count
  revert accounted
  decide +kernel

end Endap.V3
