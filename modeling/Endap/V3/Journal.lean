import Endap.Library.BitMask
import Endap.V3.Catalog
import Mathlib.Tactic.NormNum
import Mathlib.Tactic.Ring

/-!
# The dirty journal of the catalog

A change of the catalog is written to flash later, by a flush.  What is still
to be written is noted in a journal with one bit for each cell of the pool; a
flush writes the record that stands in each marked cell and clears the bit.

The bits name cells and not records.  An insertion or a removal moves the
records behind it by one cell while the bits stay, so a changed record may
leave its mark behind and miss the next flush.  No change is lost as long as
every changed record that moves arrives in a cell that is marked as well.
-/

namespace Endap.V3

open Endap.Library

/-! ## Storage keys -/

/-- The character of a digit in base 36. -/
def nvsKeyDigit (rem : Nat) : Char :=
  if rem < 10 then Char.ofNat ('0'.toNat + rem)
  else Char.ofNat ('A'.toNat + (rem - 10))

/-- The loop of `get_nvs_key`: digits are put in front while there is room. -/
def nvsKeyDigits : Nat → Nat → List Char → List Char
  | 0, _, key => key
  | room + 1, val, key =>
      if val = 0 then key
      else nvsKeyDigits room (val / 36) (nvsKeyDigit (val % 36) :: key)

/-- `get_nvs_key`, the characters before the terminator. -/
def getNvsKey (id : UInt64) : List Char :=
  if id = 0 then ['0'] else nvsKeyDigits 15 id.toNat []

/-- The digit that a character stands for. -/
def nvsKeyDigitValue (character : Char) : Nat :=
  if character.toNat < 'A'.toNat then character.toNat - '0'.toNat
  else character.toNat - 'A'.toNat + 10

/-- The number that a key stands for. -/
def nvsKeyValue (key : List Char) : Nat :=
  key.foldl (fun value character => value * 36 + nvsKeyDigitValue character) 0

theorem nvsKeyDigitValue_digit {rem : Nat} (digit : rem < 36) :
    nvsKeyDigitValue (nvsKeyDigit rem) = rem := by
  have all :
      ((List.range 36).all fun rem =>
        nvsKeyDigitValue (nvsKeyDigit rem) = rem) = true := by
    decide
  exact of_decide_eq_true
    (List.all_eq_true.mp all rem (List.mem_range.mpr digit))

theorem nvsKeyValue_foldl (start : Nat) (key : List Char) :
    key.foldl
        (fun value character => value * 36 + nvsKeyDigitValue character)
        start =
      start * 36 ^ key.length + nvsKeyValue key := by
  induction key generalizing start with
  | nil => simp [nvsKeyValue]
  | cons character key induction =>
      have whole :
          nvsKeyValue (character :: key) =
            (0 * 36 + nvsKeyDigitValue character) * 36 ^ key.length +
              nvsKeyValue key :=
        induction _
      rw [List.foldl_cons, induction, whole, List.length_cons, Nat.pow_succ]
      ring

theorem nvsKeyValue_digits
    {room val : Nat} (fits : val < 36 ^ room) (key : List Char) :
    nvsKeyValue (nvsKeyDigits room val key) =
      val * 36 ^ key.length + nvsKeyValue key := by
  induction room generalizing val key with
  | zero =>
      have isZero : val = 0 := by simpa using fits
      simp [nvsKeyDigits, isZero]
  | succ room induction =>
      rw [nvsKeyDigits]
      split
      · next isZero => simp [isZero]
      · have smaller : val / 36 < 36 ^ room := by
          rw [Nat.pow_succ] at fits
          exact Nat.div_lt_of_lt_mul (by rwa [Nat.mul_comm])
        have digit :=
          nvsKeyDigitValue_digit (Nat.mod_lt val (by decide : 0 < 36))
        have split := Nat.div_add_mod val 36
        rw [induction smaller, nvsKeyValue, List.foldl_cons,
          nvsKeyValue_foldl, digit, List.length_cons, Nat.pow_succ]
        calc
          val / 36 * (36 ^ key.length * 36) +
              ((0 * 36 + val % 36) * 36 ^ key.length + nvsKeyValue key) =
              (36 * (val / 36) + val % 36) * 36 ^ key.length +
                nvsKeyValue key := by ring
          _ = val * 36 ^ key.length + nvsKeyValue key := by rw [split]

theorem nvsKeyValue_getNvsKey (id : UInt64) :
    nvsKeyValue (getNvsKey id) = id.toNat := by
  rw [getNvsKey]
  split
  · next isZero =>
      rw [isZero]
      rfl
  · have fits : id.toNat < 36 ^ 15 :=
      Nat.lt_of_lt_of_le id.toNat_lt (by norm_num)
    rw [nvsKeyValue_digits fits]
    simp [nvsKeyValue]

theorem getNvsKey_injective : Function.Injective getNvsKey := by
  intro first second same
  apply UInt64.toNat_inj.mp
  rw [← nvsKeyValue_getNvsKey, same, nvsKeyValue_getNvsKey]

/-! ## The journal -/

/-- How `s_nvs_handle` was opened. -/
inductive NvsHandle where
  | closed
  | readOnly
  | readWrite
deriving DecidableEq

/-- The static state of `v3_persistence.c`, and the flash behind it. -/
structure V3Persistence where
  dirtyMask : Nat → BitVec 32
  handle : NvsHandle
  flash : List Char → Option ResourceRecord

/-- The bit of a cell is set. -/
def Marked (dirtyMask : Nat → BitVec 32) (index : Nat) : Prop :=
  (dirtyMask (index / 32)).getLsbD (index % 32) = true

instance (dirtyMask : Nat → BitVec 32) (index : Nat) :
    Decidable (Marked dirtyMask index) :=
  inferInstanceAs (Decidable (_ = _))

/-- `v3_persistence_mark_dirty`, on the mask. -/
def v3PersistenceMarkDirty (dirtyMask : Nat → BitVec 32) (index : Nat) :
    Nat → BitVec 32 :=
  if index ≥ v3CatalogMaxResources then dirtyMask
  else
    Function.update dirtyMask (index / 32)
      (BitMask.set (dirtyMask (index / 32)) (index % 32))

/-- The variables of the flush loops. -/
structure FlushState where
  dirtyMask : Nat → BitVec 32
  flash : List Char → Option ResourceRecord
  writeCount : Nat

/-- One iteration of the inner loop of the flush.  A write that fails clears
the bit as well. -/
def flushBody (catalog : CatalogPool) (accepts : List Char → Bool)
    (row : Nat) (state : FlushState) : Loop.Flow FlushState :=
  if state.dirtyMask row = 0 then .stop state
  else
    let bit := BitMask.lowest (state.dirtyMask row)
    let dirtyMask :=
      Function.update state.dirtyMask row
        (BitMask.clear (state.dirtyMask row) bit)
    match catalog.getByIndex (row * 32 + bit) with
    | none => .next { state with dirtyMask := dirtyMask }
    | some record =>
        if accepts (getNvsKey record.id) then
          .next
            { dirtyMask := dirtyMask
              flash :=
                Function.update state.flash (getNvsKey record.id) (some record)
              writeCount := state.writeCount + 1 }
        else .next { state with dirtyMask := dirtyMask }

/-- The inner loop of the flush. -/
def flushRow (catalog : CatalogPool) (accepts : List Char → Bool)
    (state : FlushState) (row : Nat) : FlushState :=
  Loop.run (fun state => (state.dirtyMask row).toNat)
    (flushBody catalog accepts row) state

/-- Both loops of the flush. -/
def flushRows (catalog : CatalogPool) (accepts : List Char → Bool)
    (rows : Nat) (state : FlushState) : FlushState :=
  (List.range rows).foldl (flushRow catalog accepts) state

/-- What the driver answers during a flush: whether the namespace opens, and
which keys it accepts. -/
structure FlushOutcome where
  opens : Bool
  accepts : List Char → Bool

def FlushOutcome.succeeds : FlushOutcome where
  opens := true
  accepts := fun _ => true

/-- `v3_persistence_flush_dirty_records`, with the count it returns.  A handle
that was opened for reading refuses every write. -/
def v3PersistenceFlushDirtyRecords
    (persistence : V3Persistence) (catalog : CatalogPool)
    (outcome : FlushOutcome) : V3Persistence × Nat :=
  if persistence.handle = .closed ∧ outcome.opens = false then
    (persistence, 0)
  else
    let handle :=
      if persistence.handle = .closed then .readWrite
      else persistence.handle
    let flushed :=
      flushRows catalog
        (fun key => handle = .readWrite ∧ outcome.accepts key = true) 32
        { dirtyMask := persistence.dirtyMask
          flash := persistence.flash
          writeCount := 0 }
    ({ dirtyMask := flushed.dirtyMask
       handle := handle
       flash := flushed.flash },
      flushed.writeCount)

/-! ## Changes and flushes -/

/-- The catalog with its journal.  The identifiers changed since the last
flush are not in the source, and nothing of the model reads them. -/
structure JournaledCatalog where
  catalog : CatalogPool
  persistence : V3Persistence
  changed : UInt64 → Bool

/-- The catalog before the first change, over any flash. -/
def JournaledCatalog.start (flash : List Char → Option ResourceRecord) :
    JournaledCatalog where
  catalog := .init
  persistence :=
    { dirtyMask := fun _ => 0
      handle := .closed
      flash := flash }
  changed := fun _ => false

/-- A change of the catalog, or a flush. -/
inductive JournalCall where
  | insert (record : ResourceRecord)
  | updateDesired (id : UInt64) (desired : UInt32)
  | updateReported (id : UInt64) (reported : UInt32)
  | remove (id : UInt64)
  | flush

/-- A change that succeeded is followed by a mark of the record's cell. -/
def JournaledCatalog.mark (world : JournaledCatalog) (id : UInt64)
    (result : CatalogPool × Bool) : JournaledCatalog :=
  if result.2 then
    { catalog := result.1
      persistence :=
        { world.persistence with
          dirtyMask :=
            v3PersistenceMarkDirty world.persistence.dirtyMask
              (result.1.findIndex id).toNat }
      changed := Function.update world.changed id true }
  else { world with catalog := result.1 }

/-- The effect of one call; the driver refuses nothing. -/
def JournaledCatalog.call (world : JournaledCatalog) :
    JournalCall → JournaledCatalog × Unit
  | .insert record =>
      (world.mark record.id (world.catalog.insert record), ())
  | .updateDesired id desired =>
      (world.mark id (world.catalog.updateDesired id desired), ())
  | .updateReported id reported =>
      (world.mark id (world.catalog.updateReported id reported), ())
  | .remove id =>
      ({ world with catalog := (world.catalog.removeRecord id).1 }, ())
  | .flush =>
      ({ world with
          persistence :=
            (v3PersistenceFlushDirtyRecords world.persistence
              world.catalog .succeeds).1
          changed := fun _ => false },
        ())

/--
Every changed record that the call moves arrives in a marked cell: an
insertion of a new record moves the greater ones up, a removal moves them
down.
-/
def JournaledCatalog.Shielded (world : JournaledCatalog) :
    JournalCall → Prop
  | .insert record =>
      world.catalog.count < v3CatalogMaxResources →
      (∀ index, index < world.catalog.count →
      (world.catalog.pool index).id ≠ record.id) →
      ∀ index, index < world.catalog.count →
      record.id < (world.catalog.pool index).id →
      world.changed (world.catalog.pool index).id = true →
      Marked world.persistence.dirtyMask (index + 1)
  | .remove id =>
      (∃ index, index < world.catalog.count ∧
          (world.catalog.pool index).id = id) →
        ∀ index, index < world.catalog.count →
        id < (world.catalog.pool index).id →
        world.changed (world.catalog.pool index).id = true →
        Marked world.persistence.dirtyMask (index - 1)
  | _ => True

instance (world : JournaledCatalog) (call : JournalCall) :
    Decidable (world.Shielded call) :=
  match call with
  | .insert _ => inferInstanceAs (Decidable (_ → _ → _))
  | .updateDesired _ _ => inferInstanceAs (Decidable True)
  | .updateReported _ _ => inferInstanceAs (Decidable True)
  | .remove _ => inferInstanceAs (Decidable (_ → _))
  | .flush => inferInstanceAs (Decidable True)

/-! ## Marks -/

theorem marked_markDirty
    (dirtyMask : Nat → BitVec 32) {index : Nat}
    (inside : index < v3CatalogMaxResources) (other : Nat) :
    Marked (v3PersistenceMarkDirty dirtyMask index) other ↔
    Marked dirtyMask other ∨ other = index := by
  have bitInside : index % 32 < 32 := Nat.mod_lt _ (by decide)
  rw [v3PersistenceMarkDirty, if_neg (Nat.not_le_of_lt inside), Marked, Marked]
  by_cases sameRow : other / 32 = index / 32
  · have sameBit : other % 32 = index % 32 ↔ other = index := by omega
    rw [sameRow, Function.update_self, BitMask.getLsbD_set _ bitInside,
      Bool.or_eq_true, decide_eq_true_iff, sameBit]
  · have different : other ≠ index := by
      rintro rfl
      exact sameRow rfl
    rw [Function.update_of_ne sameRow]
    simp [different]

theorem marked_clear
    (dirtyMask : Nat → BitVec 32) (row : Nat) {bit : Nat}
    (inside : bit < 32) {other : Nat} (different : other ≠ row * 32 + bit) :
    Marked
        (Function.update dirtyMask row (BitMask.clear (dirtyMask row) bit))
        other ↔
    Marked dirtyMask other := by
  rw [Marked, Marked]
  by_cases sameRow : other / 32 = row
  · have otherBit : other % 32 ≠ bit := by omega
    subst sameRow
    rw [Function.update_self, BitMask.getLsbD_clear _ inside]
    simp [otherBit]
  · rw [Function.update_of_ne sameRow]

/-! ## What a flush does -/

section

variable {catalog : CatalogPool} {accepts : List Char → Bool} {row : Nat}
variable {state after : FlushState}

/-- What an iteration does: it clears the bit that it looks at, whatever the
driver answers, and a record that the driver takes is in the flash. -/
theorem flushBody_next
    (flow : flushBody catalog accepts row state = .next after) :
    let bit := BitMask.lowest (state.dirtyMask row)
    state.dirtyMask row ≠ 0 ∧
    after.dirtyMask =
        Function.update state.dirtyMask row
          (BitMask.clear (state.dirtyMask row) bit) ∧
    ((∃ record,
        catalog.getByIndex (row * 32 + bit) = some record ∧
        accepts (getNvsKey record.id) = true ∧
        after.flash =
          Function.update state.flash (getNvsKey record.id) (some record)) ∨
      (∀ record,
        catalog.getByIndex (row * 32 + bit) = some record →
        accepts (getNvsKey record.id) = false) ∧
        after.flash = state.flash ∧
        after.writeCount = state.writeCount) := by
  rw [flushBody] at flow
  split at flow
  · cases flow
  · next notZero =>
      simp only at flow
      split at flow
      · next missing =>
          cases flow
          refine ⟨notZero, rfl, .inr ⟨?_, rfl, rfl⟩⟩
          intro record found
          cases missing.symm.trans found
      · next record found =>
          by_cases accepted : accepts (getNvsKey record.id) = true
          · rw [if_pos accepted] at flow
            cases flow
            exact ⟨notZero, rfl, .inl ⟨record, found, accepted, rfl⟩⟩
          · rw [if_neg accepted] at flow
            cases flow
            refine ⟨notZero, rfl, .inr ⟨?_, rfl, rfl⟩⟩
            intro other otherFound
            cases found.symm.trans otherFound
            exact Bool.eq_false_of_not_eq_true accepted

theorem flushBody_clears
    (flow : flushBody catalog accepts row state = .next after) :
    state.dirtyMask row ≠ 0 ∧
    after.dirtyMask =
      Function.update state.dirtyMask row
        (BitMask.clear (state.dirtyMask row)
          (BitMask.lowest (state.dirtyMask row))) :=
  ⟨(flushBody_next flow).1, (flushBody_next flow).2.1⟩

theorem flushBody_stops
    {last : FlushState}
    (flow : flushBody catalog accepts row state = .stop last) :
    last = state ∧ state.dirtyMask row = 0 := by
  rw [flushBody] at flow
  split at flow
  · next empty =>
      cases flow
      exact ⟨rfl, empty⟩
  · simp only at flow
    split at flow
    · cases flow
    · split at flow <;> cases flow

theorem flushBody_decreasing :
    Loop.Decreasing (fun state => (state.dirtyMask row).toNat)
      (flushBody catalog accepts row) := by
  intro state after flow
  rcases flushBody_clears flow with ⟨notZero, cleared⟩
  simp only [cleared, Function.update_self]
  exact BitMask.clear_lt (BitMask.getLsbD_lowest notZero).2

theorem flushBody_writes
    (accepting : ∀ key, accepts key = true)
    (flow : flushBody catalog accepts row state = .next after) :
    after.flash =
      match
        catalog.getByIndex (row * 32 + BitMask.lowest (state.dirtyMask row))
      with
      | none => state.flash
      | some record =>
          Function.update state.flash (getNvsKey record.id)
            (some record) := by
  rcases (flushBody_next flow).2.2 with
    ⟨record, found, _, stored⟩ | ⟨refused, same, _⟩
  · rw [found, stored]
  · rw [same]
    split
    · rfl
    · next record found =>
        cases (accepting _).symm.trans (refused record found)

theorem flushBody_refused
    (refusing : ∀ key, accepts key = false)
    (flow : flushBody catalog accepts row state = .next after) :
    after.flash = state.flash ∧ after.writeCount = state.writeCount := by
  rcases (flushBody_next flow).2.2 with
    ⟨record, _, accepted, _⟩ | ⟨_, same⟩
  · cases (refusing _).symm.trans accepted
  · exact same

/-- The inner loop empties its row and leaves the others; what its iterations
keep, it keeps. -/
theorem flushRow_spec
    (invariant : FlushState → Prop)
    (goesOn :
      ∀ current after,
        invariant current →
        flushBody catalog accepts row current = .next after → invariant after)
    (holds : invariant state) :
    invariant (flushRow catalog accepts state row) ∧
    (flushRow catalog accepts state row).dirtyMask row = 0 ∧
    ∀ other, other ≠ row →
    (flushRow catalog accepts state row).dirtyMask other =
      state.dirtyMask other := by
  apply
    Loop.run_invariant flushBody_decreasing
      (fun current =>
        invariant current ∧
        ∀ other, other ≠ row →
        current.dirtyMask other = state.dirtyMask other)
      (fun last =>
        invariant last ∧ last.dirtyMask row = 0 ∧
        ∀ other, other ≠ row → last.dirtyMask other = state.dirtyMask other)
  · rintro current after ⟨currentHolds, same⟩ flow
    refine ⟨goesOn current after currentHolds flow, ?_⟩
    intro other different
    rw [(flushBody_clears flow).2, Function.update_of_ne different]
    exact same other different
  · rintro current last ⟨currentHolds, same⟩ flow
    rcases flushBody_stops flow with ⟨rfl, empty⟩
    exact ⟨currentHolds, empty, same⟩
  · exact ⟨holds, fun _ _ => rfl⟩

/-- The rows that the flush has visited are empty; what the iterations keep,
it keeps. -/
theorem flushRows_spec
    (invariant : FlushState → Prop)
    (goesOn :
      ∀ row current after,
        invariant current →
        flushBody catalog accepts row current = .next after → invariant after)
    (holds : invariant state) (rows : Nat) :
    invariant (flushRows catalog accepts rows state) ∧
    ∀ row, row < rows →
    (flushRows catalog accepts rows state).dirtyMask row = 0 := by
  induction rows with
  | zero => exact ⟨holds, fun _ impossible => by omega⟩
  | succ rows induction =>
      rcases induction with ⟨earlierHolds, earlierEmpty⟩
      have unfolded :
          flushRows catalog accepts (rows + 1) state =
            flushRow catalog accepts
              (flushRows catalog accepts rows state) rows := by
        rw [flushRows, List.range_succ, List.foldl_append]
        rfl
      rcases flushRow_spec invariant (goesOn rows) earlierHolds with
        ⟨laterHolds, empty, same⟩
      rw [unfolded]
      refine ⟨laterHolds, ?_⟩
      intro row inside
      rcases Nat.lt_succ_iff_lt_or_eq.mp inside with earlier | rfl
      · rw [same row (Nat.ne_of_lt earlier)]
        exact earlierEmpty row earlier
      · exact empty

theorem not_marked_of_empty
    (kept : catalog.WellKept) {dirtyMask : Nat → BitVec 32}
    (empty : ∀ row, row < 32 → dirtyMask row = 0)
    {index : Nat} (inside : index < catalog.count) :
    ¬ Marked dirtyMask index := by
  have row : index / 32 < 32 := by
    have fits := kept.fits
    rw [v3CatalogMaxResources] at fits
    omega
  rw [Marked, empty _ row]
  simp

/-- Every cell in use that was noted is still marked, or its record is in the
flash. -/
def Keeps (catalog : CatalogPool) (noted : Nat → Prop)
    (state : FlushState) : Prop :=
  ∀ index, index < catalog.count → noted index →
  Marked state.dirtyMask index ∨
  state.flash (getNvsKey (catalog.pool index).id) = some (catalog.pool index)

theorem Keeps.body
    (kept : catalog.WellKept) (accepting : ∀ key, accepts key = true)
    {noted : Nat → Prop} (keeps : Keeps catalog noted state)
    (flow : flushBody catalog accepts row state = .next after) :
    Keeps catalog noted after := by
  rcases flushBody_clears flow with ⟨notZero, cleared⟩
  have written := flushBody_writes accepting flow
  have bitInside := (BitMask.getLsbD_lowest notZero).1
  generalize BitMask.lowest (state.dirtyMask row) = bit at *
  intro index inside isNoted
  by_cases here : index = row * 32 + bit
  · refine Or.inr ?_
    have found :
        catalog.getByIndex (row * 32 + bit) = some (catalog.pool index) := by
      rw [← here]
      exact CatalogPool.getByIndex_eq_some_iff.mpr ⟨inside, rfl⟩
    rw [written, found]
    exact Function.update_self _ _ _
  · rw [cleared, marked_clear state.dirtyMask row bitInside here]
    refine (keeps index inside isNoted).imp_right ?_
    intro stored
    rw [written]
    cases found : catalog.getByIndex (row * 32 + bit) with
    | none => exact stored
    | some record =>
        rcases CatalogPool.getByIndex_eq_some_iff.mp found with
          ⟨otherInside, rfl⟩
        have otherKey :
            getNvsKey (catalog.pool index).id ≠
              getNvsKey (catalog.pool (row * 32 + bit)).id :=
          fun same =>
            kept.id_ne inside otherInside here (getNvsKey_injective same)
        exact (Function.update_of_ne otherKey _ _).trans stored

end

/-- The variables of the loops before the first iteration. -/
def V3Persistence.unwritten (persistence : V3Persistence) : FlushState where
  dirtyMask := persistence.dirtyMask
  flash := persistence.flash
  writeCount := 0

theorem flush_writable
    {persistence : V3Persistence} (writable : persistence.handle ≠ .readOnly)
    (catalog : CatalogPool) :
    (v3PersistenceFlushDirtyRecords persistence catalog .succeeds).1 =
      let flushed := flushRows catalog (fun _ => true) 32 persistence.unwritten
      { dirtyMask := flushed.dirtyMask
        handle := .readWrite
        flash := flushed.flash } := by
  rw [v3PersistenceFlushDirtyRecords, if_neg (fun closed => nomatch closed.2)]
  cases handle : persistence.handle with
  | readOnly => exact (writable handle).elim
  | _ => rfl

/-! ## Changed records are marked -/

/-- Every changed record stands in a marked cell. -/
structure JournaledCatalog.Covered (world : JournaledCatalog) : Prop where
  kept : world.catalog.WellKept
  writable : world.persistence.handle ≠ .readOnly
  covered :
    ∀ index, index < world.catalog.count →
    world.changed (world.catalog.pool index).id = true →
    Marked world.persistence.dirtyMask index

namespace JournaledCatalog

variable {world : JournaledCatalog}

theorem start_covered (flash : List Char → Option ResourceRecord) :
    (start flash).Covered where
  kept := CatalogPool.init_wellKept
  writable := nofun
  covered := fun _ impossible => by cases impossible

/-- A change marks its record; the other changed records have to be marked
already. -/
theorem Covered.mark
    (covered : world.Covered) {after : CatalogPool} (kept : after.WellKept)
    {index : Nat} (inside : index < after.count)
    (others :
      ∀ other, other < after.count → other ≠ index →
      world.changed (after.pool other).id = true →
      Marked world.persistence.dirtyMask other) :
    (world.mark (after.pool index).id (after, true)).Covered := by
  have fits : index < v3CatalogMaxResources :=
    Nat.lt_of_lt_of_le inside kept.fits
  refine ⟨kept, covered.writable, ?_⟩
  intro other otherInside changed
  simp only [JournaledCatalog.mark, if_true, kept.findIndex_at inside,
    Int.toNat_natCast] at changed otherInside ⊢
  rw [marked_markDirty _ fits]
  by_cases here : other = index
  · exact Or.inr here
  · refine Or.inl (others other otherInside here ?_)
    rwa [Function.update_of_ne (kept.id_ne otherInside inside here)] at changed

theorem Covered.rewrite
    (covered : world.Covered) {index : Nat}
    (inside : index < world.catalog.count) {record : ResourceRecord}
    (sameId : record.id = (world.catalog.pool index).id) :
    (world.mark record.id
      ({ world.catalog with
          pool := Function.update world.catalog.pool index record },
        true)).Covered := by
  have keptAfter := (covered.kept.update_at inside sameId).1
  have marked :=
    covered.mark keptAfter inside fun other otherInside different changed => by
      simp only [Function.update_of_ne different] at changed
      exact covered.covered other otherInside changed
  simpa only [Function.update_self] using marked

theorem Covered.insert
    (covered : world.Covered) (record : ResourceRecord)
    (shielded : world.Shielded (.insert record)) :
    (world.mark record.id (world.catalog.insert record)).Covered := by
  have keptAfter := (covered.kept.insert record).1
  have possible := covered.kept.inserted record
  generalize world.catalog.insert record = result at possible keptAfter ⊢
  cases possible with
  | replaced index inside isId => exact covered.rewrite inside isId.symm
  | refused _ _ _ => exact covered
  | added index belongs room =>
      have shield := shielded room fun other inside => belongs.missing inside
      have marked :=
        covered.mark keptAfter (Nat.lt_succ_of_le belongs.inside) ?_
      · simpa only [Function.update_self] using marked
      · intro other inside different changed
        simp only [Function.update_of_ne different, ArrayList.moveCells]
          at changed
        rcases Nat.lt_or_gt_of_ne different with before | after
        · rw [if_neg (by omega)] at changed
          exact covered.covered other
            (Nat.lt_of_lt_of_le before belongs.inside) changed
        · have isNext : index + (other - (index + 1)) + 1 = other := by
            omega
          have moved : index + (other - (index + 1)) < world.catalog.count := by
            simp only at inside
            omega
          rw [if_pos (by simp only at inside; omega)] at changed
          have arrived :=
            shield _ moved (belongs.above _ (Nat.le_add_right _ _) moved)
              changed
          rwa [isNext] at arrived

theorem Covered.update
    (covered : world.Covered) (id : UInt64)
    {change : ResourceRecord → ResourceRecord}
    (sameId : ∀ record, (change record).id = record.id) :
    (world.mark id (world.catalog.update id change)).Covered := by
  have possible := covered.kept.updated id change
  generalize world.catalog.update id change = result at possible ⊢
  cases possible with
  | changed index inside isId =>
      rw [← isId, ← sameId (world.catalog.pool index)]
      exact covered.rewrite inside (sameId _)
  | refused _ _ => exact covered

theorem Covered.removeRecord
    (covered : world.Covered) (id : UInt64)
    (shielded : world.Shielded (.remove id)) :
    Covered
      { world with catalog := (world.catalog.removeRecord id).1 } := by
  have keptAfter := (covered.kept.removeRecord id).1
  have possible := covered.kept.removed id
  generalize world.catalog.removeRecord id = result at possible keptAfter ⊢
  cases possible with
  | removed index inside isId =>
      refine ⟨keptAfter, covered.writable, ?_⟩
      intro other otherInside changed
      simp only at otherInside
      simp only [ArrayList.moveCells] at changed
      by_cases before : other < index
      · rw [if_neg (by omega)] at changed
        exact covered.covered other (by omega) changed
      · have isNext : index + 1 + (other - index) = other + 1 := by omega
        have nextInside : other + 1 < world.catalog.count := by omega
        rw [if_pos (by omega), isNext] at changed
        have greater : id < (world.catalog.pool (other + 1)).id := by
          rw [← isId]
          exact
            covered.kept.keys_increase index (other + 1) (by omega) nextInside
        exact
          shielded ⟨index, inside, isId⟩ (other + 1) nextInside greater changed
  | refused _ _ => exact covered

theorem Covered.flush (covered : world.Covered) :
    (world.call .flush).1.Covered ∧
    ∀ record ∈ world.catalog.records,
      world.changed record.id = true →
      (world.call .flush).1.persistence.flash (getNvsKey record.id) =
        some record := by
  have flushed := flush_writable covered.writable world.catalog
  have noted :
      Keeps world.catalog
        (fun index => world.changed (world.catalog.pool index).id = true)
        world.persistence.unwritten :=
    fun index inside changed =>
      Or.inl (covered.covered index inside changed)
  have accepting : ∀ key : List Char, (fun _ => true) key = true := fun _ => rfl
  rcases
    flushRows_spec (Keeps world.catalog _)
      (fun _ _ _ keeps flow => keeps.body covered.kept accepting flow)
      noted 32 with
    ⟨keeps, empty⟩
  constructor
  · refine ⟨covered.kept, ?_, fun _ _ changed => by cases changed⟩
    rw [JournaledCatalog.call, flushed]
    exact nofun
  · intro record member changed
    rcases ArrayList.mem_listed.mp member with ⟨index, inside, rfl⟩
    simp only [JournaledCatalog.call, flushed]
    exact
      (keeps index inside changed).resolve_left
        (not_marked_of_empty covered.kept empty inside)

theorem Covered.call
    (covered : world.Covered) {call : JournalCall}
    (shielded : world.Shielded call) : (world.call call).1.Covered := by
  cases call with
  | insert record => exact covered.insert record shielded
  | updateDesired id desired => exact covered.update id fun _ => rfl
  | updateReported id reported => exact covered.update id fun _ => rfl
  | remove id => exact covered.removeRecord id shielded
  | flush => exact covered.flush.1

end JournaledCatalog

/-! ## Runs -/

/--
In every run in which the changed records that move arrive in marked cells,
each flush stores every live record that was changed since the flush before.
-/
theorem flush_stores_changes
    (flash : List Char → Option ResourceRecord) (calls : List JournalCall)
    (shielded :
      ∀ transition ∈
          Run.history JournaledCatalog.call (.start flash) calls,
        transition.before.Shielded transition.action) :
    ∀ transition ∈ Run.history JournaledCatalog.call (.start flash) calls,
      transition.action = .flush →
      ∀ record ∈ transition.after.catalog.records,
        transition.before.changed record.id = true →
        transition.after.persistence.flash (getNvsKey record.id) =
          some record := by
  intro transition member isFlush record live changed
  have covered :=
    (Run.allowed_invariant JournaledCatalog.Covered
      JournaledCatalog.Shielded (fun _ _ kept allowed => kept.call allowed)
      (JournaledCatalog.start_covered flash) shielded).2 transition member
  have isCall := Run.eq_call_of_mem_history member
  rw [isFlush] at isCall
  rw [isCall] at live ⊢
  exact covered.flush.2 record live changed

def ResourceRecord.plain (id : UInt64) : ResourceRecord :=
  { ResourceRecord.zero with id := id }

def storedThenMoved : List JournalCall :=
  [.insert (.plain 2), .flush, .insert (.plain 1), .updateDesired 2 1]

/-- The new record is stored, and so is the change of the one that moved. -/
theorem storedThenMoved_stored :
    let flush :=
      Run.call JournaledCatalog.call
        (Run.final JournaledCatalog.call (.start fun _ => none) storedThenMoved)
        .flush
    flush.before.catalog.records ≠ [.plain 1, .plain 2] ∧
    flush.before.catalog.records.map ResourceRecord.id = [1, 2] ∧
    ∀ record ∈ flush.before.catalog.records,
      flush.after.persistence.flash (getNvsKey record.id) =
        some record := by
  intro flush
  refine ⟨by decide +kernel, by decide +kernel, ?_⟩
  intro record member
  have live : record ∈ flush.after.catalog.records := member
  have changed : flush.before.changed record.id = true := by
    revert record
    decide +kernel
  exact
    flush_stores_changes (fun _ => none) (storedThenMoved ++ [.flush])
      (by decide +kernel) flush
      (Run.call_mem_history JournaledCatalog.call (.start fun _ => none)
        storedThenMoved .flush [])
      rfl record live changed

def insertedBefore : List JournalCall :=
  [.insert (.plain 2), .insert (.plain 1)]

/-- The record that was moved is not stored. -/
theorem insertedBefore_not_stored :
    let world :=
      Run.final JournaledCatalog.call (.start fun _ => none) insertedBefore
    (.plain 2 : ResourceRecord) ∈ (world.call .flush).1.catalog.records ∧
    world.changed 2 = true ∧
    (world.call .flush).1.persistence.flash (getNvsKey 2) = none := by
  decide +kernel

end Endap.V3
