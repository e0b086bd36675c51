import Endap.Library.CText
import Endap.Registry.Reload

/-!
# Requests that fail

A request that cannot be carried out, or whose table cannot be written, is to
leave the registry as it was.  Adopting, configuring, activating and revoking
a node do: they put back the entry they changed, in the slot where the node is
still found.

A replacement does not.  It frees the slot of the old node before it writes
the table, so nothing is found by the id of the old node when the write fails
and the change stays.  And the new node takes a free slot as it is, with the
address and the transport of the node that left it.
-/

namespace Endap.Registry

open Endap.Cluster
open Endap.Library
open Endap.State

/-! ## Requests on one node -/

/-- Known nodes keep their slot and all that it holds; a node that was not
known is still unknown, or merely discovered. -/
structure AdmissionKept (before after : List RegistryEntry) : Prop where
  known :
    ∀ nodeId, nodeId ≠ 0 → ∀ slot,
      findLocked before nodeId = some slot → findLocked after nodeId = some slot
  unknown :
    ∀ nodeId, nodeId ≠ 0 → findLocked before nodeId = none →
    ∀ index entry,
      findLocked after nodeId = some (index, entry) →
      entry.registryState = stateDiscovered ∧
      entry.profile.chars = [] ∧ entry.templateName.chars = []

theorem AdmissionKept.refl (entries : List RegistryEntry) :
    AdmissionKept entries entries where
  known := fun _ _ _ found => found
  unknown := by
    intro nodeId _ missing index entry found
    rw [missing] at found
    cases found

theorem chars_zero : RegistryText.chars (fun _ => 0) = [] := by
  rw [RegistryText.chars, textChars, List.ofFn_const]
  rfl

variable {nodeId : UInt32}

theorem findOrCreate_admissionKept
    {entries : List RegistryEntry} (known : nodeId ≠ 0)
    (missing : findLocked entries nodeId = none)
    {index : Nat} {entry : RegistryEntry}
    (created : findOrCreate entries nodeId = some (index, entry))
    (target : TrackedNode) :
    AdmissionKept entries (entries.set index (seeded entry target)) := by
  rw [findOrCreate, missing] at created
  cases free : allocateLocked entries with
  | none =>
      rw [free] at created
      cases created
  | some slot =>
      rw [free] at created
      cases created
      rcases Slots.find?_some free with ⟨holds, isFree⟩
      have inside := (List.getElem?_eq_some_iff.mp holds).1
      have other :
          ∀ wanted, wanted ≠ 0 → wanted ≠ nodeId →
          findLocked
              (entries.set slot.1
                (seeded
                  { RegistryEntry.zero with
                    nodeId := nodeId
                    registryState := stateDiscovered }
                  target))
              wanted =
            findLocked entries wanted := by
        intro wanted isKnown different
        refine Slots.find?_set_other holds ?_ different.symm
        rw [isFree]
        exact isKnown.symm
      constructor
      · intro wanted isKnown found isFound
        have different : wanted ≠ nodeId := by
          rintro rfl
          rw [missing] at isFound
          cases isFound
        rw [other wanted isKnown different]
        exact isFound
      · intro wanted isKnown wasMissing position found isFound
        by_cases same : wanted = nodeId
        · subst same
          rw [findLocked, Slots.find?_set_fresh inside missing rfl] at isFound
          cases isFound
          exact ⟨rfl, chars_zero, chars_zero⟩
        · rw [other wanted isKnown same, wasMissing] at isFound
          cases isFound

variable {world : RegistryWorld}

theorem located_admissionKept
    {located : RegistryWorld} {snapshot : List TrackedNode}
    (isLocated : world.located snapshot nodeId = some located) :
    AdmissionKept world.entries located.entries := by
  rw [RegistryWorld.located] at isLocated
  split at isLocated
  · cases isLocated
    exact AdmissionKept.refl _
  · next missing =>
      rw [RegistryWorld.seedEntryFromCluster] at isLocated
      split at isLocated
      · cases isLocated
      · next known =>
          split at isLocated
          · cases isLocated
          · next target _ =>
              split at isLocated
              · cases isLocated
              · next index entry created =>
                  cases isLocated
                  exact findOrCreate_admissionKept known missing created target

variable {outcome : NvsOutcome}

/-- A change of the entry of a node that cannot be written is taken back
entirely. -/
theorem commitChange_failed
    (known : nodeId ≠ 0)
    {index : Nat} {entry new : RegistryEntry}
    (found : findLocked world.entries nodeId = some (index, entry))
    (sameNode : new.nodeId = entry.nodeId)
    (failed :
      ((world.setEntry index new).commitChange nodeId entry outcome).1 =
        false) :
    ((world.setEntry index new).commitChange nodeId entry outcome).2.entries =
      world.entries := by
  rcases Slots.find?_some found with ⟨holds, isNode⟩
  rw [RegistryWorld.commitChange] at failed ⊢
  split at failed
  · cases failed
  · next notSaved =>
      have again :
          findLocked ((world.setEntry index new).save outcome).entries nodeId =
            some (index, new) :=
        Slots.find?_set_own found (sameNode.trans isNode)
      rw [if_neg notSaved, RegistryWorld.restoreEntry, if_neg known, again]
      refine (List.set_set ..).trans ?_
      rcases List.getElem?_eq_some_iff.mp holds with ⟨inside, rfl⟩
      exact List.set_getElem_self inside

theorem changeNode_failed
    {snapshot : List TrackedNode}
    {allowed : RegistryEntry → Bool}
    {change : RegistryEntry → RegistryEntry}
    (keepsNode : ∀ entry, (change entry).nodeId = entry.nodeId)
    (failed :
      (world.changeNode snapshot nodeId allowed change outcome).1 = false) :
    AdmissionKept world.entries
      (world.changeNode snapshot nodeId allowed change
        outcome).2.entries := by
  rcases changeNode_cases world snapshot nodeId allowed change outcome with
    refused | ⟨known, located, isLocated, refused |
      ⟨index, entry, found, -, isResult⟩⟩
  · rw [refused]
    exact AdmissionKept.refl _
  · rw [refused]
    exact located_admissionKept isLocated
  · rw [isResult] at failed ⊢
    rw [commitChange_failed known found (keepsNode entry) failed]
    exact located_admissionKept isLocated

theorem revoke_failed
    (failed : (world.revoke nodeId outcome).1 = false) :
    AdmissionKept world.entries
      (world.revoke nodeId outcome).2.entries := by
  rcases revoke_cases world nodeId outcome with
    refused | ⟨known, index, entry, found, isResult⟩
  · rw [refused]
    exact AdmissionKept.refl _
  · have keepsNode : (revoked entry).nodeId = entry.nodeId := rfl
    rw [isResult] at failed ⊢
    rw [commitChange_failed known found keepsNode failed]
    exact AdmissionKept.refl _

/--
Whatever the table holds and the cluster manager knows, a request to adopt,
configure, activate or revoke a node that returns false, for any reason,
leaves every known node as it is in full and admits no other.
-/
theorem failed_requests_keep_admission
    (world : RegistryWorld) (snapshot : List TrackedNode)
    (nodeId : UInt32) (profile templateName : List UInt8)
    (outcome : NvsOutcome) :
    ((world.adopt snapshot nodeId outcome).1 = false →
        AdmissionKept world.entries
          (world.adopt snapshot nodeId outcome).2.entries) ∧
      ((world.configure snapshot nodeId profile templateName outcome).1 =
          false →
        AdmissionKept world.entries
          (world.configure snapshot nodeId profile templateName
            outcome).2.entries) ∧
      ((world.activate snapshot nodeId outcome).1 = false →
      AdmissionKept world.entries
        (world.activate snapshot nodeId outcome).2.entries) ∧
      ((world.revoke nodeId outcome).1 = false →
      AdmissionKept world.entries
        (world.revoke nodeId outcome).2.entries) := by
  have adoptKeeps : ∀ entry, (adopted entry).nodeId = entry.nodeId :=
    fun _ => rfl
  have configureKeeps :
      ∀ entry, (configured profile templateName entry).nodeId = entry.nodeId :=
    fun _ => rfl
  have activateKeeps :
      ∀ entry : RegistryEntry,
        ({ entry with registryState := stateActive } : RegistryEntry).nodeId =
          entry.nodeId :=
    fun _ => rfl
  refine ⟨changeNode_failed adoptKeeps, ?_,
    changeNode_failed activateKeeps, revoke_failed⟩
  intro failed
  rw [RegistryWorld.configure] at failed ⊢
  split at failed
  · next invalid =>
      rw [if_pos invalid]
      exact AdmissionKept.refl _
  · next valid =>
      rw [if_neg valid]
      exact changeNode_failed configureKeeps failed

/-! ## Replacements -/

/-- The new node has the admission of the old one, the old one is gone, every
other node is as it was, and a new node that was unknown carries nothing of
another. -/
structure Succession (before after : List RegistryEntry)
    (oldId newId : UInt32) : Prop where
  identity :
    ∃ oldIndex was newIndex now,
      findLocked before oldId = some (oldIndex, was) ∧
      findLocked after newId = some (newIndex, now) ∧
      now.registryState = was.registryState ∧
      now.profile.chars = was.profile.chars ∧
      now.templateName.chars = was.templateName.chars
  gone : findLocked after oldId = none
  others :
    ∀ other, other ≠ 0 → other ≠ oldId → other ≠ newId →
    findLocked after other = findLocked before other
  clean :
    findLocked before newId = none →
    ∀ index now,
      findLocked after newId = some (index, now) →
      now.lastIpAddr = 0 ∧ now.lastTransport = transportNone

/-- A replacement happens, or the registry is as it was. -/
def AllOrNothing (before : List RegistryEntry) (oldId newId : UInt32)
    (result : Bool × RegistryWorld) : Prop :=
  (result.1 = true → Succession before result.2.entries oldId newId) ∧
  (result.1 = false → result.2.entries = before)

/-- A replacement that is refused before anything is changed: an id is zero,
both are the same, the old node is unknown, or there is no slot. -/
def ReplacementRefused (entries : List RegistryEntry)
    (oldId newId : UInt32) : Prop :=
  (oldId = 0 ∨ newId = 0 ∨ oldId = newId) ∨
  findLocked entries oldId = none ∨ replacementSlot entries newId = none

/-- The old node has one slot, its texts end inside their arrays, and the new
node is known or the free slot it gets holds no address and no transport. -/
structure CleanReplacement (entries : List RegistryEntry)
    (oldId newId : UInt32) : Prop where
  single : (Slots.holding RegistryEntry.nodeId oldId entries).length = 1
  texts :
    ∀ index was,
      findLocked entries oldId = some (index, was) →
      was.profile.Terminated ∧ was.templateName.Terminated
  slot :
    findLocked entries newId = none →
    ∀ index free,
      allocateLocked entries = some (index, free) →
      free.lastIpAddr = 0 ∧ free.lastTransport = transportNone

theorem chars_registryCopyText_iff (text : RegistryText) :
    (registryCopyText (List.ofFn text)).chars = text.chars ↔
    text.Terminated := by
  refine ⟨fun same => ?_, chars_registryCopyText⟩
  have copyEnds : (registryCopyText (List.ofFn text)).Terminated :=
    ⟨Fin.last 23, rfl⟩
  have short : text.chars.length < registryTextLen := by
    rw [← same]
    exact CText.text_length_lt copyEnds
  by_contra unterminated
  have whole : text.chars = List.ofFn text := by
    refine List.takeWhile_eq_self_iff.mpr ?_
    intro byte member
    rcases List.mem_ofFn.mp member with ⟨index, rfl⟩
    exact decide_eq_true fun isZero => unterminated ⟨index, isZero⟩
  rw [whole, List.length_ofFn] at short
  exact Nat.lt_irrefl _ short

/-- The table that a replacement makes. -/
def replacedEntries (entries : List RegistryEntry) (newId : UInt32)
    (oldIndex : Nat) (old : RegistryEntry) (newIndex : Nat)
    (entry : RegistryEntry) : List RegistryEntry :=
  (entries.set newIndex (replacing newId old entry)).set oldIndex
    { old with nodeId := 0 }

section

variable {entries : List RegistryEntry} {oldId newId : UInt32}
  {oldIndex newIndex : Nat} {old entry : RegistryEntry}

theorem replacementSlot_cases
    (isSlot : replacementSlot entries newId = some (newIndex, entry)) :
    findLocked entries newId = some (newIndex, entry) ∨
    findLocked entries newId = none ∧
    allocateLocked entries = some (newIndex, entry) := by
  rw [replacementSlot] at isSlot
  cases found : findLocked entries newId with
  | some slot =>
      rw [found] at isSlot
      exact Or.inl isSlot
  | none =>
      rw [found] at isSlot
      exact Or.inr ⟨rfl, isSlot⟩

theorem replacementSlot_holds
    (isSlot : replacementSlot entries newId = some (newIndex, entry)) :
    entries[newIndex]? = some entry ∧
    (entry.nodeId = newId ∨ entry.nodeId = 0) := by
  rcases replacementSlot_cases isSlot with found | ⟨-, free⟩
  · rcases Slots.find?_some found with ⟨holds, isNew⟩
    exact ⟨holds, Or.inl isNew⟩
  · rcases Slots.find?_some free with ⟨holds, isFree⟩
    exact ⟨holds, Or.inr isFree⟩

variable (oldKnown : oldId ≠ 0) (newKnown : newId ≠ 0)
  (different : oldId ≠ newId)
  (found : findLocked entries oldId = some (oldIndex, old))
  (isSlot : replacementSlot entries newId = some (newIndex, entry))

include oldKnown different found isSlot

/-- After the entry of the new node is written, the old node is where it
was. -/
theorem find_old_replacing :
    findLocked (entries.set newIndex (replacing newId old entry)) oldId =
      some (oldIndex, old) := by
  rcases replacementSlot_holds isSlot with ⟨holds, isEntry⟩
  refine (Slots.find?_set_other holds ?_ different.symm).trans found
  rcases isEntry with isNew | isFree
  · rw [isNew]
    exact different.symm
  · rw [isFree]
    exact oldKnown.symm

theorem find_old_replaced_iff :
    findLocked (replacedEntries entries newId oldIndex old newIndex entry)
        oldId =
      none ↔
    (Slots.holding RegistryEntry.nodeId oldId entries).length = 1 := by
  rcases replacementSlot_holds isSlot with ⟨holds, isEntry⟩
  have notOld : entry.nodeId ≠ oldId := by
    rcases isEntry with isNew | isFree
    · rw [isNew]
      exact different.symm
    · rw [isFree]
      exact oldKnown.symm
  rw [replacedEntries, findLocked,
    Slots.find?_set_removed_iff
      (find_old_replacing oldKnown different found isSlot) oldKnown.symm,
    Slots.holding_set_other holds notOld different.symm]

include newKnown

theorem find_new_replaced :
    findLocked (replacedEntries entries newId oldIndex old newIndex entry)
        newId =
      some (newIndex, replacing newId old entry) := by
  have oldHolds :=
    (Slots.find?_some (find_old_replacing oldKnown different found isSlot)).1
  have isOld := (Slots.find?_some found).2
  rw [replacedEntries, findLocked,
    Slots.find?_set_other oldHolds (isOld.trans_ne different) newKnown.symm]
  rcases replacementSlot_cases isSlot with own | ⟨missing, free⟩
  · exact Slots.find?_set_own own rfl
  · rcases Slots.find?_some free with ⟨holds, -⟩
    exact
      Slots.find?_set_fresh (List.getElem?_eq_some_iff.mp holds).1 missing rfl

omit newKnown in
theorem find_other_replaced
    {other : UInt32} (known : other ≠ 0) (notOld : other ≠ oldId)
    (notNew : other ≠ newId) :
    findLocked (replacedEntries entries newId oldIndex old newIndex entry)
        other =
      findLocked entries other := by
  have oldHolds :=
    (Slots.find?_some (find_old_replacing oldKnown different found isSlot)).1
  have isOld := (Slots.find?_some found).2
  rcases replacementSlot_holds isSlot with ⟨holds, isEntry⟩
  rw [replacedEntries, findLocked,
    Slots.find?_set_other oldHolds (isOld.trans_ne notOld.symm) known.symm,
    findLocked]
  refine Slots.find?_set_other holds ?_ notNew.symm
  rcases isEntry with isNew | isFree
  · rw [isNew]
    exact notNew.symm
  · rw [isFree]
    exact known.symm

theorem succession_iff :
    Succession entries
        (replacedEntries entries newId oldIndex old newIndex entry) oldId
        newId ↔
    CleanReplacement entries oldId newId := by
  have gone := find_old_replaced_iff oldKnown different found isSlot
  have now := find_new_replaced oldKnown newKnown different found isSlot
  constructor
  · intro succession
    refine ⟨gone.mp succession.gone, ?_, ?_⟩
    · intro index was isWas
      rw [found] at isWas
      cases isWas
      rcases succession.identity with
        ⟨_, was, _, new, isWas, isNew, -, profile, templateName⟩
      rw [found] at isWas
      cases isWas
      rw [now] at isNew
      cases isNew
      exact
        ⟨(chars_registryCopyText_iff _).mp profile,
          (chars_registryCopyText_iff _).mp templateName⟩
    · intro missing index free isFree
      rw [replacementSlot, missing] at isSlot
      cases isFree.symm.trans isSlot
      have blank :=
        succession.clean missing newIndex (replacing newId old entry) now
      exact blank
  · intro clean
    rcases clean.texts _ _ found with ⟨profile, templateName⟩
    refine
      { identity :=
          ⟨oldIndex, old, newIndex, _, found, now, rfl,
            chars_registryCopyText profile,
            chars_registryCopyText templateName⟩
        gone := gone.mpr clean.single
        others := fun other known notOld notNew =>
          find_other_replaced oldKnown different found isSlot known notOld
            notNew
        clean := ?_ }
    intro missing index new isNew
    rw [now] at isNew
    cases isNew
    rcases replacementSlot_cases isSlot with own | ⟨-, free⟩
    · rw [missing] at own
      cases own
    · have blank := clean.slot missing newIndex entry free
      exact blank

omit newKnown

theorem replaced_not_restored
    (world : RegistryWorld) (isTable : world.entries = entries)
    {outcome : NvsOutcome} (fails : ¬ outcome.succeeds = true) :
    (((world.setEntry newIndex (replacing newId old entry)).setEntry
        oldIndex { old with nodeId := 0 }).commitChange oldId old
        outcome).2.entries ≠
      entries := by
  subst isTable
  have oldHolds :=
    (Slots.find?_some (find_old_replacing oldKnown different found isSlot)).1
  rcases Slots.find?_some found with ⟨wasHeld, isOld⟩
  have freed :
      (replacedEntries world.entries newId oldIndex old newIndex
          entry)[oldIndex]? =
        some { old with nodeId := 0 } :=
    List.getElem?_set_self (List.getElem?_eq_some_iff.mp oldHolds).1
  rw [RegistryWorld.commitChange, if_neg fails, RegistryWorld.restoreEntry,
    if_neg oldKnown]
  intro same
  have back :
      (replacedEntries world.entries newId oldIndex old newIndex
          entry)[oldIndex]? =
        some old := by
    split at same
    · rw [← wasHeld]
      exact congrArg (·[oldIndex]?) same
    · next index slot again =>
        -- An entry that is still found by the old id stands elsewhere.
        have elsewhere : index ≠ oldIndex := by
          rintro rfl
          rcases Slots.find?_some again with ⟨holds, isNode⟩
          cases freed.symm.trans holds
          exact oldKnown isNode.symm
        rw [← wasHeld]
        refine Eq.trans ?_ (congrArg (·[oldIndex]?) same)
        exact (List.getElem?_set_ne elsewhere).symm
  have sameEntry := Option.some.inj (freed.symm.trans back)
  have isZero : 0 = old.nodeId := congrArg RegistryEntry.nodeId sameEntry
  exact oldKnown (isOld.symm.trans isZero.symm)

end

theorem replace_refused
    {oldId newId : UInt32}
    (refused : ReplacementRefused world.entries oldId newId)
    (outcome : NvsOutcome) :
    world.replace oldId newId outcome = (false, world) := by
  rcases replace_cases world oldId newId outcome with
    same | ⟨⟨oldKnown, newKnown, different⟩, oldIndex, old, newIndex,
      entry, found, isSlot, -⟩
  · exact same
  · rcases refused with (isZero | isZero | same) | missing | noSlot
    · exact absurd isZero oldKnown
    · exact absurd isZero newKnown
    · exact absurd same different
    · cases found.symm.trans missing
    · cases isSlot.symm.trans noSlot

/-- A replacement that is not refused finds the old node and a slot for the
new one, and writes both. -/
theorem replace_made
    {oldId newId : UInt32}
    (made : ¬ ReplacementRefused world.entries oldId newId)
    (outcome : NvsOutcome) :
    (oldId ≠ 0 ∧ newId ≠ 0 ∧ oldId ≠ newId) ∧
    ∃ oldIndex old newIndex entry,
      findLocked world.entries oldId = some (oldIndex, old) ∧
      replacementSlot world.entries newId = some (newIndex, entry) ∧
      world.replace oldId newId outcome =
        ((world.setEntry newIndex
          (replacing newId old entry)).setEntry oldIndex
          { old with nodeId := 0 }).commitChange oldId old
          outcome := by
  rw [ReplacementRefused, not_or, not_or, not_or, not_or] at made
  rcases made with ⟨valid, isFound, isRoom⟩
  rcases Option.ne_none_iff_exists'.mp isFound with
    ⟨⟨oldIndex, old⟩, found⟩
  rcases Option.ne_none_iff_exists'.mp isRoom with
    ⟨⟨newIndex, entry⟩, isSlot⟩
  refine ⟨valid, oldIndex, old, newIndex, entry, found, isSlot, ?_⟩
  have invalid : ¬ (oldId = 0 ∨ newId = 0 ∨ oldId = newId) := by
    rw [not_or, not_or]
    exact valid
  rw [replacementSlot] at isSlot
  rw [RegistryWorld.replace, if_neg invalid, found]
  simp only [isSlot]

/--
Replacing a node is all or nothing exactly if it is refused before anything is
changed, or the table is written and the replacement is clean.  When the table
cannot be written the change stays; when the new node was unknown it inherits
what the free slot holds of the node that left it.
-/
theorem replace_all_or_nothing_iff
    (world : RegistryWorld) (oldId newId : UInt32) (outcome : NvsOutcome) :
    AllOrNothing world.entries oldId newId (world.replace oldId newId outcome) ↔
    ReplacementRefused world.entries oldId newId ∨
    outcome.succeeds = true ∧
    CleanReplacement world.entries oldId newId := by
  by_cases refused : ReplacementRefused world.entries oldId newId
  · rw [replace_refused refused outcome]
    constructor
    · exact fun _ => Or.inl refused
    · refine fun _ => ⟨fun success => ?_, fun _ => rfl⟩
      cases success
  · rcases replace_made refused outcome with
      ⟨⟨oldKnown, newKnown, different⟩, oldIndex, old, newIndex, entry,
        found, isSlot, isResult⟩
    rw [isResult]
    by_cases succeeds : outcome.succeeds = true
    · have succession :=
        succession_iff oldKnown newKnown different found isSlot
      rw [RegistryWorld.commitChange, if_pos succeeds]
      constructor
      · intro atomic
        exact Or.inr ⟨succeeds, succession.mp (atomic.1 rfl)⟩
      · rintro (isRefused | ⟨-, clean⟩)
        · exact absurd isRefused refused
        · refine ⟨fun _ => succession.mpr clean, fun failed => ?_⟩
          cases failed
    · have changed :=
        replaced_not_restored oldKnown different found isSlot world rfl succeeds
      constructor
      · intro atomic
        refine absurd (atomic.2 ?_) changed
        rw [RegistryWorld.commitChange, if_neg succeeds]
      · rintro (isRefused | ⟨success, -⟩)
        · exact absurd isRefused refused
        · exact absurd success succeeds

def twoHeard : RegistryWorld :=
  ((nodeRegistryInit none).noteTransport 2 1 5).2.noteTransport 3 1 0 |>.2

/-- Node 3 stands for node 2 although the table could not be written and the
replacement was answered with false; and node 4, which was unknown, takes over
the address of node 2 when it replaces node 3 in turn. -/
theorem twoHeard_not_all_or_nothing :
    ¬ AllOrNothing twoHeard.entries 2 3 (twoHeard.replace 2 3 .openFailed) ∧
    ¬ AllOrNothing (twoHeard.replace 2 3 .committed).2.entries 3 4
      ((twoHeard.replace 2 3 .committed).2.replace 3 4 .committed) := by
  constructor
  · intro atomic
    have same :=
      congrArg (List.map RegistryEntry.nodeId) (atomic.2 (by decide +kernel))
    exact absurd same (by decide +kernel)
  · intro atomic
    have succession := atomic.1 (by decide +kernel)
    have unknown :
        findLocked (twoHeard.replace 2 3 .committed).2.entries 4 = none :=
      Option.isNone_iff_eq_none.mp (by decide +kernel)
    have address :
        (findLocked
            ((twoHeard.replace 2 3 .committed).2.replace 3 4
              .committed).2.entries
            4).map (fun slot => slot.2.lastIpAddr) =
          some 5 := by
      decide +kernel
    rcases Option.map_eq_some_iff.mp address with ⟨⟨index, now⟩, found, isFive⟩
    have isZero := (succession.clean unknown index now found).1
    exact absurd (isFive.symm.trans isZero) (by decide)

end Endap.Registry
