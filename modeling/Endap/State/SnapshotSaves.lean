import Endap.Library.Run
import Endap.State.Snapshot

/-!
# Saves of the snapshot

A write that changes a value of the state table marks a save as pending.
`snapshot_process` makes the save when nothing has changed for a while, and
`snapshot_force_save` makes one at once.  A save that could not open the
namespace or set the blob stays pending.  The result of the commit is not
looked at: when it fails, the change is no longer pending although the flash
may still hold the old record.
-/

namespace Endap.State

open Endap.Library

variable {Medium : Type}

/-! ## The runtime -/

def snapshotDebounceMs : Int := 5000

/-- `state_set_int`, with the time that `snapshot_mark_dirty` notes. -/
def SnapshotWorld.stateSetInt (world : SnapshotWorld Medium)
    (id : UInt16) (value : Int32) (now : Int) : SnapshotWorld Medium :=
  if StateValidId id ∧ world.store.intValues id ≠ value then
    { world with
      store := State.stateSetInt world.store id value
      lastChange := now }
  else world

/-- `snapshot_process` saves. -/
def SnapshotWorld.SaveDue (world : SnapshotWorld Medium) (now : Int) :
    Prop :=
  world.store.snapshotDirty = true ∧ snapshotDebounceMs ≤ now - world.lastChange

instance (world : SnapshotWorld Medium) (now : Int) :
    Decidable (world.SaveDue now) :=
  inferInstanceAs (Decidable (_ ∧ _))

def SnapshotWorld.snapshotProcess (world : SnapshotWorld Medium)
    (now : Int) (padding : UInt16 → UInt16) (outcome : NvsOutcome) :
    SnapshotWorld Medium :=
  if world.SaveDue now then world.snapshotSave padding outcome else world

/-- A change of the table, or a call of the snapshot with what storage does
to the save. -/
inductive SnapshotAction where
  | stateSetInt (id : UInt16) (value : Int32) (now : Int)
  | snapshotProcess (now : Int) (padding : UInt16 → UInt16)
      (outcome : NvsOutcome)
  | snapshotForceSave (padding : UInt16 → UInt16) (outcome : NvsOutcome)

/-- The state of a run, and whether a value has changed in it. -/
structure SnapshotRun (Medium : Type) where
  world : SnapshotWorld Medium
  changed : Bool

/-- One step of a run. -/
def snapshotStep (run : SnapshotRun Medium) :
    SnapshotAction → SnapshotRun Medium × Unit
  | .stateSetInt id value now =>
      ({ world := run.world.stateSetInt id value now
         changed :=
          run.changed ||
            decide
              (StateValidId id ∧ run.world.store.intValues id ≠ value) }, ())
  | .snapshotProcess now padding outcome =>
      ({ run with
          world := run.world.snapshotProcess now padding outcome }, ())
  | .snapshotForceSave padding outcome =>
      ({ run with world := run.world.snapshotForceSave padding outcome }, ())

/-- What happens to the save that an action makes, if it makes one. -/
def SnapshotAction.saving (world : SnapshotWorld Medium) :
    SnapshotAction → Option NvsOutcome
  | .stateSetInt _ _ _ => none
  | .snapshotProcess now _ outcome =>
      if world.SaveDue now then some outcome else none
  | .snapshotForceSave _ outcome => some outcome

/-! ## What the next boot reads -/

/-- The next `snapshot_init` reads an export of a table that has the present
values. -/
def SnapshotWorld.ReadsExport (world : SnapshotWorld Medium) : Prop :=
  ∃ (exporting : SnapshotWorld Medium) (padding : UInt16 → UInt16),
    (∀ id, StateValidId id →
    exporting.store.intValues id = world.store.intValues id) ∧
    world.snapshotBackendRead snapshotBufferSize.toNat =
      some
        ((exporting.snapshotExport padding snapshotBufferSize).written,
          (exporting.snapshotExport padding snapshotBufferSize).totalLen.toNat)

theorem snapshotBackendRead_nvs
    {world : SnapshotWorld Medium} (overNvs : world.OverNvs)
    (maxLen : Nat) :
    world.snapshotBackendRead maxLen =
      world.nvs.bind fun blob =>
        if blob.length = 0 ∨ maxLen < blob.length then none
        else some (blob, blob.length) := by
  simp only [SnapshotWorld.snapshotBackendRead, overNvs.1]
  cases world.nvs <;> rfl

theorem readsExport_iff
    {world : SnapshotWorld Medium} (overNvs : world.OverNvs) :
    world.ReadsExport ↔
    ∃ (store : StateStore) (padding : UInt16 → UInt16),
      (∀ id, StateValidId id →
      store.intValues id = world.store.intValues id) ∧
      world.nvs = some (snapshotRecord store padding) := by
  have read := snapshotBackendRead_nvs overNvs snapshotBufferSize.toNat
  constructor
  · rintro ⟨exporting, padding, agree, isRead⟩
    refine ⟨exporting.store, padding, agree, ?_⟩
    rw [snapshotExport_record padding exporting (UInt16.le_refl _),
      read] at isRead
    obtain ⟨blob, isBlob, isRead⟩ := Option.bind_eq_some_iff.mp isRead
    split at isRead
    · cases isRead
    · rw [isBlob, (Prod.mk.inj (Option.some.inj isRead)).1]
  · rintro ⟨store, padding, agree, stored⟩
    refine ⟨{ world with store := store }, padding, agree, ?_⟩
    have length := snapshotRecord_length store padding
    have readable := snapshotRecord_readable store padding
    rw [snapshotExport_record padding _ (UInt16.le_refl _), read, stored,
      Option.bind_some]
    refine (if_neg readable).trans ?_
    rw [length]

theorem readsExport_congr
    {world other : SnapshotWorld Medium} (overNvs : world.OverNvs)
    (storage : other.storage = world.storage)
    (nvs : other.nvs = world.nvs)
    (values : other.store.intValues = world.store.intValues) :
    other.ReadsExport ↔ world.ReadsExport := by
  have otherOverNvs : other.OverNvs := by
    rw [SnapshotWorld.OverNvs, storage]
    exact overNvs
  rw [readsExport_iff otherOverNvs, readsExport_iff overNvs, nvs, values]

theorem SnapshotWorld.ReadsExport.restored
    {world : SnapshotWorld Medium} (reads : world.ReadsExport)
    (overNvs : world.OverNvs) {id : UInt16} (valid : StateValidId id) :
    world.stateInit.snapshotInit.store.intValues id =
      world.store.intValues id := by
  rcases (readsExport_iff overNvs).mp reads with
    ⟨store, padding, agree, stored⟩
  exact
    ((snapshotInit_nvs overNvs stored).values id valid).trans (agree id valid)

/-! ## What a save does -/

/-- The blob of the transaction could be set. -/
def NvsOutcome.blobSet : NvsOutcome → Bool
  | .openFailed => false
  | .writeFailed => false
  | .commitFailed _ => true
  | .committed => true

/-- The effect of `snapshot_save` over non-volatile storage. -/
structure SaveEffect (before after : SnapshotWorld Medium)
    (padding : UInt16 → UInt16) (outcome : NvsOutcome) : Prop where
  storage : after.storage = before.storage
  values : after.store.intValues = before.store.intValues
  nvs :
    after.nvs =
      nvsWrite outcome before.nvs (some (snapshotRecord before.store padding))
  pending :
    after.store.snapshotDirty = (before.store.snapshotDirty && !outcome.blobSet)

theorem stateClearDirty_values (store : StateStore) (id : UInt16) :
    (stateClearDirty store id).intValues = store.intValues := by
  rw [stateClearDirty]
  split
  · rfl
  · rfl

theorem clearDirty_values (entries : List StateEntry) (store : StateStore) :
    (entries.foldl (fun store entry => stateClearDirty store entry.id)
      store).intValues = store.intValues := by
  induction entries generalizing store with
  | nil => rfl
  | cons entry entries induction =>
      exact
        (induction (stateClearDirty store entry.id)).trans
          (stateClearDirty_values store entry.id)

theorem snapshotSave_effect
    {world : SnapshotWorld Medium} (overNvs : world.OverNvs)
    (padding : UInt16 → UInt16) (outcome : NvsOutcome) :
    SaveEffect world (world.snapshotSave padding outcome) padding
      outcome := by
  have exported :=
    snapshotExport_record padding world (UInt16.le_refl snapshotBufferSize)
  have nonempty := snapshotRecordLen_ne_zero world.store padding
  simp only [SnapshotWorld.snapshotSave, exported, if_neg nonempty,
    SnapshotWorld.snapshotBackendWrite, overNvs.2]
  cases outcome with
  | commitFailed stored =>
      exact ⟨rfl, clearDirty_values _ _, rfl, (Bool.and_false _).symm⟩
  | committed =>
      exact ⟨rfl, clearDirty_values _ _, rfl, (Bool.and_false _).symm⟩
  | _ => exact ⟨rfl, rfl, rfl, (Bool.and_true _).symm⟩

/-! ## Runs -/

/-- A change that is no longer pending is in what the next boot reads. -/
def SnapshotRun.Saved (run : SnapshotRun Medium) : Prop :=
  run.changed = true → run.world.store.snapshotDirty = false →
  run.world.ReadsExport

/-- What holds between the calls of a run. -/
structure SnapshotRun.Sound (run : SnapshotRun Medium) : Prop where
  overNvs : run.world.OverNvs
  pending : run.world.store.snapshotDirty = true → run.changed = true
  saved : run.Saved

/-- The action makes a save whose commit fails and leaves the flash as it
was, while a change is pending that the flash does not hold. -/
def LosesChange (world : SnapshotWorld Medium) (action : SnapshotAction) :
    Prop :=
  action.saving world = some (.commitFailed false) ∧
  world.store.snapshotDirty = true ∧ ¬ world.ReadsExport

variable {padding : UInt16 → UInt16} {outcome : NvsOutcome}

theorem SaveEffect.reads_of_lands
    {before after : SnapshotWorld Medium}
    (effect : SaveEffect before after padding outcome)
    (overNvs : before.OverNvs) (lands : outcome.lands = true) :
    after.ReadsExport := by
  have afterOverNvs : after.OverNvs := by
    rw [SnapshotWorld.OverNvs, effect.storage]
    exact overNvs
  have stored := effect.nvs
  rw [nvsWrite, if_pos lands] at stored
  exact
    (readsExport_iff afterOverNvs).mpr
      ⟨before.store, padding, fun id _ => by rw [effect.values], stored⟩

theorem SaveEffect.reads_iff
    {before after : SnapshotWorld Medium}
    (effect : SaveEffect before after padding outcome)
    (overNvs : before.OverNvs) (missed : ¬ outcome.lands = true) :
    after.ReadsExport ↔ before.ReadsExport := by
  have stored := effect.nvs
  rw [nvsWrite, if_neg missed] at stored
  exact readsExport_congr overNvs effect.storage stored effect.values

theorem NvsOutcome.eq_commitFailed
    (missed : ¬ outcome.lands = true)
    (isSet : outcome.blobSet = true) : outcome = .commitFailed false := by
  cases outcome with
  | commitFailed landed =>
      exact
        congrArg NvsOutcome.commitFailed (Bool.eq_false_of_not_eq_true missed)
  | committed => exact absurd rfl missed
  | _ => cases isSet

theorem SaveEffect.saved_iff
    {run : SnapshotRun Medium} (sound : run.Sound)
    {after : SnapshotWorld Medium}
    (effect : SaveEffect run.world after padding outcome) :
    SnapshotRun.Saved { run with world := after } ↔
    ¬ (outcome = .commitFailed false ∧
    run.world.store.snapshotDirty = true ∧
    ¬ run.world.ReadsExport) := by
  by_cases lands : outcome.lands = true
  · refine
      iff_of_true (fun _ _ => effect.reads_of_lands sound.overNvs lands) ?_
    rintro ⟨rfl, -⟩
    cases lands
  · have same := effect.reads_iff sound.overNvs lands
    by_cases isSet : outcome.blobSet = true
    · -- only a failed commit is left, and it is not reported
      have settled : after.store.snapshotDirty = false := by
        rw [effect.pending, isSet, Bool.not_true, Bool.and_false]
      constructor
      · rintro saved ⟨-, pending, missing⟩
        exact missing (same.mp (saved (sound.pending pending) settled))
      · intro kept changed _
        refine same.mpr ?_
        by_cases pending : run.world.store.snapshotDirty = true
        · by_contra missing
          exact kept ⟨NvsOutcome.eq_commitFailed lands isSet, pending, missing⟩
        · exact sound.saved changed (Bool.eq_false_of_not_eq_true pending)
    · have still :
          after.store.snapshotDirty = run.world.store.snapshotDirty := by
        rw [effect.pending, Bool.eq_false_of_not_eq_true isSet,
          Bool.not_false, Bool.and_true]
      refine iff_of_true ?_ ?_
      · intro changed settled
        exact same.mpr (sound.saved changed (still.symm.trans settled))
      · rintro ⟨rfl, -⟩
        exact isSet rfl

theorem not_losesChange_of_saving
    {world : SnapshotWorld Medium} {action : SnapshotAction}
    (none : action.saving world = none) :
    ¬ LosesChange world action := by
  rintro ⟨saving, -⟩
  rw [none] at saving
  cases saving

/-- The state after an action: a value changed, a save was made, or
nothing happened to the world. -/
theorem snapshotStep_cases (run : SnapshotRun Medium)
    (overNvs : run.world.OverNvs) (action : SnapshotAction) :
    (action.saving run.world = none ∧ (snapshotStep run action).1 = run) ∨
    (action.saving run.world = none ∧
    (snapshotStep run action).1.changed = true ∧
    (snapshotStep run action).1.world.store.snapshotDirty = true ∧
    (snapshotStep run action).1.world.storage = run.world.storage) ∨
    ∃ outcome padding after,
      action.saving run.world = some outcome ∧
      SaveEffect run.world after padding outcome ∧
      (snapshotStep run action).1 = { run with world := after } := by
  cases action with
  | stateSetInt id value now =>
      by_cases changes : StateValidId id ∧ run.world.store.intValues id ≠ value
      · refine Or.inr (Or.inl ⟨rfl, ?_, ?_, ?_⟩)
        · simp only [snapshotStep, decide_eq_true changes, Bool.or_true]
        · rw [snapshotStep, SnapshotWorld.stateSetInt, if_pos changes]
          show (State.stateSetInt _ id value).snapshotDirty = true
          rw [State.stateSetInt, if_pos changes.1, if_pos changes.2]
        · rw [snapshotStep, SnapshotWorld.stateSetInt, if_pos changes]
      · refine Or.inl ⟨rfl, ?_⟩
        simp only [snapshotStep, SnapshotWorld.stateSetInt,
          if_neg changes, decide_eq_false changes, Bool.or_false]
  | snapshotProcess now padding outcome =>
      by_cases due : run.world.SaveDue now
      · refine
          Or.inr
            (Or.inr
              ⟨outcome, padding, _, if_pos due,
                snapshotSave_effect overNvs padding outcome, ?_⟩)
        rw [snapshotStep, SnapshotWorld.snapshotProcess, if_pos due]
      · refine Or.inl ⟨if_neg due, ?_⟩
        rw [snapshotStep, SnapshotWorld.snapshotProcess, if_neg due]
  | snapshotForceSave padding outcome =>
      exact
        Or.inr
          (Or.inr
            ⟨outcome, padding, _, rfl,
              snapshotSave_effect overNvs padding outcome, rfl⟩)

theorem snapshotStep_saved_iff
    {run : SnapshotRun Medium} (sound : run.Sound)
    (action : SnapshotAction) :
    (snapshotStep run action).1.Saved ↔
    ¬ LosesChange run.world action := by
  rcases snapshotStep_cases run sound.overNvs action with
    ⟨idle, same⟩ | ⟨idle, -, pending, -⟩ |
      ⟨outcome, padding, after, saving, effect, next⟩
  · rw [same]
    exact iff_of_true sound.saved (not_losesChange_of_saving idle)
  · refine iff_of_true ?_ (not_losesChange_of_saving idle)
    intro _ settled
    rw [pending] at settled
    cases settled
  · rw [next, effect.saved_iff sound, LosesChange, saving, Option.some.injEq]

theorem snapshotStep_sound
    {run : SnapshotRun Medium} (sound : run.Sound)
    {action : SnapshotAction}
    (saved : (snapshotStep run action).1.Saved) :
    (snapshotStep run action).1.Sound := by
  rcases snapshotStep_cases run sound.overNvs action with
    ⟨-, same⟩ | ⟨-, changed, -, storage⟩ |
      ⟨outcome, padding, after, -, effect, next⟩
  · rw [same]
    exact sound
  · refine ⟨?_, fun _ => changed, saved⟩
    rw [SnapshotWorld.OverNvs, storage]
    exact sound.overNvs
  · refine ⟨?_, ?_, saved⟩
    · rw [next, SnapshotWorld.OverNvs, effect.storage]
      exact sound.overNvs
    · rw [next]
      intro pending
      have before := effect.pending.symm.trans pending
      exact sound.pending (Bool.and_elim_left before)

/--
In a run of changes, `snapshot_process` and `snapshot_force_save` that starts
with nothing pending, a change that is no longer pending is always in what the
next boot reads, exactly when no commit fails with the flash left as it was
while a change is pending that the flash does not hold.
-/
theorem changes_saved_iff
    {world : SnapshotWorld Medium} (overNvs : world.OverNvs)
    (settled : world.store.snapshotDirty = false)
    (actions : List SnapshotAction) :
    (∀ made ∈
        Run.history snapshotStep { world := world, changed := false } actions,
        made.after.Saved) ↔
      ∀ made ∈
        Run.history snapshotStep { world := world, changed := false } actions,
        ¬ LosesChange made.before.world made.action := by
  refine
    Run.history_good_iff SnapshotRun.Sound
      (fun made => made.after.Saved)
      (fun run action => ¬ LosesChange run.world action)
      (fun run action sound => snapshotStep_saved_iff sound action)
      (fun run action sound saved => snapshotStep_sound sound saved)
      ?_ actions
  refine ⟨overNvs, ?_, ?_⟩
  · intro pending
    rw [settled] at pending
    cases pending
  · intro changed
    cases changed

/-- A change, and a save that commits. -/
theorem committed_change_saved :
    (nvsWorld (fun _ => 0) none).OverNvs ∧
    ∀ made ∈
      Run.history snapshotStep
        { world := nvsWorld (fun _ => 0) none, changed := false }
        [.stateSetInt 3 7 0, .snapshotProcess 5000 (fun _ => 0) .committed],
      made.after.Saved := by
  refine ⟨⟨rfl, rfl⟩, (changes_saved_iff ⟨rfl, rfl⟩ rfl _).mpr ?_⟩
  intro made member
  rcases List.mem_cons.mp member with rfl | later
  · exact not_losesChange_of_saving rfl
  · rw [List.mem_singleton.mp later]
    rintro ⟨saving, -⟩
    revert saving
    decide +kernel

/-- A change whose commit fails is forgotten, and the flash is still empty. -/
theorem failed_commit_forgotten :
    ¬ ∀ (world : SnapshotWorld Unit) (actions : List SnapshotAction),
      world.OverNvs → world.store.snapshotDirty = false →
      ∀ made ∈
        Run.history snapshotStep { world := world, changed := false } actions,
        made.after.Saved := by
  intro saved
  have after :=
    saved (nvsWorld (fun _ => 0) none)
      [.stateSetInt 3 7 0,
        .snapshotProcess 5000 (fun _ => 0) (.commitFailed false)]
      ⟨rfl, rfl⟩ rfl _
      (List.mem_cons_of_mem _ (List.mem_singleton_self _))
      (by decide +kernel) (by decide +kernel)
  rcases after with ⟨exporting, padding, -, isRead⟩
  have empty :
      (Run.final snapshotStep
          { world := nvsWorld (fun _ => 0) none, changed := false }
          [.stateSetInt 3 7 0,
            .snapshotProcess 5000 (fun _ => 0)
              (.commitFailed false)]).world.snapshotBackendRead
        snapshotBufferSize.toNat = none := by
    decide +kernel
  cases empty.symm.trans isRead

end Endap.State
