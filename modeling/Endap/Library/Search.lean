import Mathlib.Data.List.Basic
import Mathlib.Data.List.Infix

/-!
# Searching a text

The place where a needle first occurs in a text.  The place depends only on
the text up to the end of that occurrence, so that it is found as soon as that
much of the text is there and not before.
-/

namespace Endap.Library.Search

variable {Character : Type*} {needle text : List Character}

variable {place : Nat}

/-- What begins at a place of the beginning of a text begins there in the
text. -/
theorem occurs_extends
    {front : List Character} (begins : front <+: text)
    (occurs : needle <+: front.drop place) :
    needle <+: text.drop place :=
  occurs.trans (begins.drop place)

/-- What begins at a place of a text and ends within its beginning begins there
in the beginning. -/
theorem occurs_within
    {front : List Character} (begins : front <+: text)
    (ends : place + needle.length ≤ front.length)
    (occurs : needle <+: text.drop place) :
    needle <+: front.drop place := by
  refine List.prefix_of_prefix_length_le occurs (begins.drop place) ?_
  rw [List.length_drop]
  omega

variable [DecidableEq Character]

/-- The place where the needle first occurs. -/
def find (needle : List Character) : List Character → Option Nat
  | [] => if needle = [] then some 0 else none
  | character :: rest =>
      if needle <+: character :: rest then some 0
      else (find needle rest).map Nat.succ

theorem find_zero (begins : needle <+: text) : find needle text = some 0 := by
  cases text with
  | nil => rw [find, if_pos (List.prefix_nil.mp begins)]
  | cons character rest => rw [find, if_pos begins]

theorem find_cons
    {character : Character} {rest : List Character}
    (later : ¬ needle <+: character :: rest) :
    find needle (character :: rest) = (find needle rest).map Nat.succ := by
  rw [find, if_neg later]

theorem find_cons_zero
    {character : Character} {rest : List Character}
    (later : ¬ needle <+: character :: rest) :
    find needle (character :: rest) ≠ some 0 := by
  rw [find_cons later]
  cases find needle rest <;> simp

theorem find_cons_succ
    {character : Character} {rest : List Character}
    (later : ¬ needle <+: character :: rest) (place : Nat) :
    find needle (character :: rest) = some (place + 1) ↔
    find needle rest = some place := by
  rw [find_cons later, Option.map_eq_some_iff]
  simp

/-- The needle is found where it occurs and not before. -/
theorem find_eq_some_iff (place : Nat) :
    find needle text = some place ↔
    needle <+: text.drop place ∧ place ≤ text.length ∧
    ∀ earlier < place, ¬ needle <+: text.drop earlier := by
  induction text generalizing place with
  | nil =>
      rw [find]
      constructor
      · intro found
        split at found
        · next empty =>
            cases found
            exact ⟨by simp [empty], le_rfl, fun _ before => by cases before⟩
        · cases found
      · rintro ⟨occurs, inside, _⟩
        rw [List.drop_nil] at occurs
        rw [if_pos (List.prefix_nil.mp occurs), Nat.le_zero.mp inside]
  | cons character rest induction =>
      by_cases begins : needle <+: character :: rest
      · rw [find_zero begins]
        constructor
        · intro found
          cases found
          exact ⟨begins, Nat.zero_le _, fun _ before => by cases before⟩
        · rintro ⟨_, _, first⟩
          cases place with
          | zero => rfl
          | succ place => exact absurd begins (first 0 place.succ_pos)
      · cases place with
        | zero =>
            exact
              iff_of_false (find_cons_zero begins) fun occurs =>
                begins occurs.1
        | succ place =>
            -- The first place does not count; the others are those of the
            -- rest.
            have earlier :
                (∀ earlier < place + 1,
                    ¬ needle <+: (character :: rest).drop earlier) ↔
                  ∀ earlier < place, ¬ needle <+: rest.drop earlier := by
              rw [Nat.forall_lt_succ_left]
              exact and_iff_right begins
            rw [find_cons_succ begins, induction, earlier, List.length_cons,
              Nat.add_le_add_iff_right]
            rfl

theorem find_length_le
    (found : find needle text = some place) :
    place + needle.length ≤ text.length := by
  rcases (find_eq_some_iff place).mp found with ⟨occurs, inside, _⟩
  have long := occurs.length_le
  rw [List.length_drop] at long
  omega

/-- Before the end of the first occurrence nothing is found. -/
theorem find_prefix_eq_none
    {front : List Character} (begins : front <+: text)
    (found : find needle text = some place)
    (short : front.length < place + needle.length) :
    find needle front = none := by
  rcases (find_eq_some_iff place).mp found with ⟨_, _, first⟩
  cases early : find needle front with
  | none => rfl
  | some earlier =>
      have ends := find_length_le early
      rcases (find_eq_some_iff earlier).mp early with ⟨occurs, _, _⟩
      exact absurd (occurs_extends begins occurs) (first earlier (by omega))

/-- What is found in the beginning of a text is found in the text. -/
theorem find_of_prefix
    {front : List Character} (begins : front <+: text)
    (found : find needle front = some place) :
    find needle text = some place := by
  have ends := find_length_le found
  rcases (find_eq_some_iff place).mp found with ⟨occurs, inside, first⟩
  refine (find_eq_some_iff place).mpr
    ⟨occurs_extends begins occurs, inside.trans begins.length_le, ?_⟩
  intro earlier before there
  exact first earlier before (occurs_within begins (by omega) there)

/-- A part of the text that begins not behind the first occurrence has it
first, too. -/
theorem find_drop_eq_some
    {start : Nat} (found : find needle text = some place)
    (before : start ≤ place) :
    find needle (text.drop start) = some (place - start) := by
  rcases (find_eq_some_iff place).mp found with ⟨occurs, inside, first⟩
  refine (find_eq_some_iff (place - start)).mpr ⟨?_, ?_, ?_⟩
  · rw [List.drop_drop, Nat.add_sub_cancel' before]
    exact occurs
  · rw [List.length_drop]
    omega
  · intro earlier left there
    rw [List.drop_drop] at there
    exact first (start + earlier) (by omega) there

end Endap.Library.Search
