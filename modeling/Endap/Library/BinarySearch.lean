import Endap.Library.Loop
import Mathlib.Order.Lattice

/-!
# Binary search

A search in an array whose keys increase.  The bounds are signed and both
inclusive, so that the upper one is `-1` in an empty array and passes below
the lower one when the key is missing.  The search ends at the index of the
key or at the place where the key would have to stand.
-/

namespace Endap.Library.BinarySearch

variable {Key : Type*} [LinearOrder Key]

/-- The bounds of a search, and the index once the key is found. -/
structure Search where
  low : Int
  high : Int
  found : Option Nat

/-- The middle of the bounds. -/
def Search.mid (search : Search) : Int :=
  search.low + (search.high - search.low) / 2

/-- One iteration. -/
def body (keyAt : Nat → Key) (wanted : Key) (search : Search) :
    Loop.Flow Search :=
  if search.high < search.low then .stop search
  else if keyAt search.mid.toNat = wanted then
    .stop { search with found := some search.mid.toNat }
  else if keyAt search.mid.toNat < wanted then
    .next { search with low := search.mid + 1 }
  else .next { search with high := search.mid - 1 }

/-- How many indices are left. -/
def left (search : Search) : Nat := (search.high - search.low + 1).toNat

/-- The search in the first cells of an array. -/
def run (keyAt : Nat → Key) (count : Nat) (wanted : Key) : Search :=
  Loop.run left (body keyAt wanted)
    { low := 0, high := count - 1, found := none }

/-- The keys of the first cells increase. -/
def Increasing (keyAt : Nat → Key) (count : Nat) : Prop :=
  ∀ first second, first < second → second < count → keyAt first < keyAt second

/-- The key belongs at this place: below it stand the smaller keys, from it on
the greater ones. -/
structure BelongsAt (keyAt : Nat → Key) (count : Nat) (wanted : Key)
    (position : Nat) : Prop where
  inside : position ≤ count
  below : ∀ index, index < position → keyAt index < wanted
  above : ∀ index, position ≤ index → index < count → wanted < keyAt index

theorem BelongsAt.missing
    {keyAt : Nat → Key} {count position : Nat} {wanted : Key}
    (belongs : BelongsAt keyAt count wanted position)
    {index : Nat} (used : index < count) : keyAt index ≠ wanted := by
  by_cases before : index < position
  · exact ne_of_lt (belongs.below index before)
  · exact ne_of_gt (belongs.above index (Nat.le_of_not_lt before) used)

theorem body_decreasing (keyAt : Nat → Key) (wanted : Key) :
    Loop.Decreasing left (body keyAt wanted) := by
  intro search after flow
  rw [body] at flow
  split at flow
  · cases flow
  · next ordered =>
      split at flow
      · cases flow
      · split at flow
        · cases flow
          simp only [left, Search.mid]
          omega
        · cases flow
          simp only [left, Search.mid]
          omega

/-- Outside the bounds everything has been compared with the key. -/
structure Narrowed (keyAt : Nat → Key) (count : Nat) (wanted : Key)
    (search : Search) : Prop where
  unfound : search.found = none
  nonneg : 0 ≤ search.low
  ordered : search.low ≤ search.high + 1
  inside : search.high < count
  below : ∀ index : Nat, (index : Int) < search.low → keyAt index < wanted
  above :
    ∀ index : Nat, search.high < index → index < count → wanted < keyAt index

/-- How a search may end. -/
inductive Outcome (keyAt : Nat → Key) (count : Nat) (wanted : Key)
    (search : Search) : Prop where
  | found (index : Nat) (inside : index < count)
      (isKey : keyAt index = wanted) (result : search.found = some index)
  | missing (position : Nat)
      (belongs : BelongsAt keyAt count wanted position)
      (result : search.found = none) (place : search.low = position)

section

variable {keyAt : Nat → Key} {count : Nat} {wanted : Key}
variable {search : Search}

theorem Narrowed.mid_inside
    (narrowed : Narrowed keyAt count wanted search)
    (ordered : ¬ search.high < search.low) :
    search.low ≤ search.mid ∧ search.mid ≤ search.high ∧
    (search.mid.toNat : Int) = search.mid ∧ search.mid.toNat < count := by
  have nonneg := narrowed.nonneg
  have inside := narrowed.inside
  rw [Search.mid]
  omega

theorem Narrowed.body_next
    (increasing : Increasing keyAt count)
    (narrowed : Narrowed keyAt count wanted search) {after : Search}
    (flow : body keyAt wanted search = .next after) :
    Narrowed keyAt count wanted after := by
  rw [body] at flow
  split at flow
  · cases flow
  · next ordered =>
      rcases narrowed.mid_inside ordered with ⟨lower, upper, isMid, inside⟩
      have insideHigh := narrowed.inside
      split at flow
      · cases flow
      · next different =>
          split at flow
          · next smaller =>
              cases flow
              refine
                { unfound := narrowed.unfound
                  nonneg := ?_
                  ordered := ?_
                  inside := narrowed.inside
                  below := ?_
                  above := narrowed.above }
              · have := narrowed.nonneg
                simp only
                omega
              · simp only
                omega
              · intro index before
                rcases Nat.lt_or_ge index search.mid.toNat with less | same
                · exact lt_trans (increasing _ _ less inside) smaller
                · have isIndex : index = search.mid.toNat := by
                    simp only at before
                    omega
                  rw [isIndex]
                  exact smaller
          · next notSmaller =>
              have greater : wanted < keyAt search.mid.toNat :=
                lt_of_le_of_ne (not_lt.mp notSmaller) (Ne.symm different)
              cases flow
              refine
                { unfound := narrowed.unfound
                  nonneg := narrowed.nonneg
                  ordered := ?_
                  inside := ?_
                  below := narrowed.below
                  above := ?_ }
              · simp only
                omega
              · simp only
                omega
              · intro index after used
                rcases Nat.lt_or_ge search.mid.toNat index with more | same
                · exact lt_trans greater (increasing _ _ more used)
                · have isIndex : index = search.mid.toNat := by
                    simp only at after
                    omega
                  rw [isIndex]
                  exact greater

theorem Narrowed.body_stop
    (narrowed : Narrowed keyAt count wanted search) {last : Search}
    (flow : body keyAt wanted search = .stop last) :
    Outcome keyAt count wanted last := by
  rw [body] at flow
  split at flow
  · next crossed =>
      cases flow
      have nonneg := narrowed.nonneg
      have ordered := narrowed.ordered
      have inside := narrowed.inside
      refine .missing search.low.toNat ⟨?_, ?_, ?_⟩ narrowed.unfound ?_
      · omega
      · intro index before
        exact narrowed.below index (by omega)
      · intro index after used
        exact narrowed.above index (by omega) used
      · omega
  · next ordered =>
      split at flow
      · next isKey =>
          cases flow
          rcases narrowed.mid_inside ordered with ⟨_, _, _, inside⟩
          exact .found _ inside isKey rfl
      · split at flow
        · cases flow
        · cases flow

end

/-- The search finds the key, or the place where it belongs. -/
theorem run_outcome
    {keyAt : Nat → Key} {count : Nat}
    (increasing : Increasing keyAt count) (wanted : Key) :
    Outcome keyAt count wanted (run keyAt count wanted) := by
  apply
    Loop.run_invariant (body_decreasing keyAt wanted)
      (Narrowed keyAt count wanted) (Outcome keyAt count wanted)
  · intro search after narrowed flow
    exact narrowed.body_next increasing flow
  · intro search last narrowed flow
    exact narrowed.body_stop flow
  · refine
      { unfound := rfl
        nonneg := Int.le_refl _
        ordered := ?_
        inside := ?_
        below := ?_
        above := ?_ }
    · simp only
      omega
    · simp only
      omega
    · intro index before
      simp only at before
      omega
    · intro index after used
      simp only at after
      omega

end Endap.Library.BinarySearch
