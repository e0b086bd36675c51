import Endap.Library.Slots

/-!
# Tables addressed by a key

A table is searched from the front for a key that is computed from its
slots.  Slots whose key is blank cannot be searched for.  A search for the
key of a slot finds that slot, and not another one, exactly when no two slots
share a key that is not blank.

The module says which changes of a table keep its keys distinct: removing a
slot always does, overwriting or appending one does exactly when the new key
is blank or held by no other slot.
-/

namespace Endap.Library.Addressing

variable {Slot Key : Type*} (key : Slot → Key) (blank : Key)

/-- No two slots share a key, blank ones apart. -/
def Distinct (slots : List Slot) : Prop :=
  slots.Pairwise fun first second =>
    key first ≠ blank → key first ≠ key second

variable {key blank} {slots : List Slot}

theorem distinct_iff_positions :
    Distinct key blank slots ↔
    ∀ (first second : Nat) (firstSlot secondSlot : Slot),
      slots[first]? = some firstSlot →
      slots[second]? = some secondSlot →
      key firstSlot ≠ blank →
      key firstSlot = key secondSlot → first = second := by
  rw [Distinct, List.pairwise_iff_getElem]
  constructor
  · intro pairwise first second firstSlot secondSlot atFirst atSecond solid
      same
    rcases List.getElem?_eq_some_iff.mp atFirst with ⟨firstIn, isFirst⟩
    rcases List.getElem?_eq_some_iff.mp atSecond with ⟨secondIn, isSecond⟩
    rcases Nat.lt_trichotomy first second with before | equal | after
    · have apart := pairwise first second firstIn secondIn before
      rw [isFirst, isSecond] at apart
      exact absurd same (apart solid)
    · exact equal
    · have apart := pairwise second first secondIn firstIn after
      rw [isFirst, isSecond] at apart
      exact absurd same.symm (apart (same ▸ solid))
  · intro positions first second firstIn secondIn before solid same
    have equal :=
      positions first second slots[first] slots[second]
        (List.getElem?_eq_getElem firstIn)
        (List.getElem?_eq_getElem secondIn) solid same
    omega

/-- Keys are distinct exactly when a search for the key of a slot finds the
slot. -/
theorem distinct_iff_found [DecidableEq Key] :
    Distinct key blank slots ↔
    ∀ (index : Nat) (slot : Slot),
      slots[index]? = some slot →
      key slot ≠ blank →
      Slots.find? key (key slot) slots = some (index, slot) := by
  rw [distinct_iff_positions]
  constructor
  · intro positions index slot holds solid
    cases search : Slots.find? key (key slot) slots with
    | none =>
        have missing := Slots.find?_none search
        have present : slot ∈ Slots.holding key (key slot) slots :=
          Slots.mem_holding.mpr ⟨List.mem_of_getElem? holds, rfl⟩
        rw [missing] at present
        cases present
    | some found =>
        rcases found with ⟨position, first⟩
        rcases Slots.find?_some search with ⟨atPosition, hasKey⟩
        have same :=
          positions index position slot first holds atPosition solid hasKey.symm
        subst same
        rw [holds] at atPosition
        cases atPosition
        rfl
  · intro found first second firstSlot secondSlot atFirst atSecond solid
      same
    have searchFirst := found first firstSlot atFirst solid
    have searchSecond := found second secondSlot atSecond (same ▸ solid)
    rw [same, searchSecond] at searchFirst
    exact (congrArg Prod.fst (Option.some.inj searchFirst)).symm

theorem Distinct.sublist
    {fewer : List Slot} (distinct : Distinct key blank slots)
    (inside : fewer.Sublist slots) : Distinct key blank fewer :=
  List.Pairwise.sublist inside distinct

/-- A change of the slots that keeps their keys. -/
theorem distinct_map_iff
    {change : Slot → Slot} (kept : ∀ slot, key (change slot) = key slot) :
    Distinct key blank (slots.map change) ↔ Distinct key blank slots := by
  simp only [Distinct, List.pairwise_map, kept]

/-- Slots put behind a table with distinct keys. -/
theorem Distinct.append_iff
    (distinct : Distinct key blank slots) (more : List Slot) :
    Distinct key blank (slots ++ more) ↔
    Distinct key blank more ∧
    ∀ added ∈ more,
      key added ≠ blank → ∀ slot ∈ slots, key slot ≠ key added := by
  rw [Distinct, List.pairwise_append]
  constructor
  · rintro ⟨_, inside, across⟩
    refine ⟨inside, fun added member solid slot present same => ?_⟩
    exact across slot present added member (same ▸ solid) same
  · rintro ⟨inside, across⟩
    refine ⟨distinct, inside, fun slot present added member solid same => ?_⟩
    exact across added member (same ▸ solid) slot present same

variable {index : Nat}

/-- A slot overwritten in a table with distinct keys. -/
theorem Distinct.set_iff
    (distinct : Distinct key blank slots) {old : Slot}
    (holds : slots[index]? = some old) (new : Slot) :
    Distinct key blank (slots.set index new) ↔
    (key new ≠ blank →
    ∀ (other : Nat) (slot : Slot),
      slots[other]? = some slot → other ≠ index →
      key slot ≠ key new) := by
  have inside : index < slots.length := (List.getElem?_eq_some_iff.mp holds).1
  rw [distinct_iff_positions] at distinct ⊢
  constructor
  · intro positions solid other slot atOther different same
    refine different (positions other index slot new ?_ ?_ ?_ same)
    · rw [List.getElem?_set_ne (Ne.symm different)]
      exact atOther
    · exact List.getElem?_set_self inside
    · exact same ▸ solid
  · intro apart first second firstSlot secondSlot atFirst atSecond solid
      same
    by_cases isFirst : first = index
    · subst isFirst
      rw [List.getElem?_set_self inside] at atFirst
      cases atFirst
      by_contra different
      have other : second ≠ first := Ne.symm different
      rw [List.getElem?_set_ne different] at atSecond
      exact apart solid second secondSlot atSecond other same.symm
    · rw [List.getElem?_set_ne (Ne.symm isFirst)] at atFirst
      by_cases isSecond : second = index
      · subst isSecond
        rw [List.getElem?_set_self inside] at atSecond
        cases atSecond
        exact absurd same (apart (same ▸ solid) first firstSlot atFirst isFirst)
      · rw [List.getElem?_set_ne (Ne.symm isSecond)] at atSecond
        exact
          distinct first second firstSlot secondSlot atFirst atSecond solid same

/-! ## One slot among others -/

theorem eraseIdx_around
    {old : Slot} (holds : slots[index]? = some old) :
    ∃ before after,
      slots = before ++ old :: after ∧
      slots.eraseIdx index = before ++ after := by
  rcases List.getElem?_eq_some_iff.mp holds with ⟨inside, isOld⟩
  refine ⟨slots.take index, slots.drop (index + 1), ?_, ?_⟩
  · rw [← isOld, List.getElem_cons_drop, List.take_append_drop]
  · exact List.eraseIdx_eq_take_drop_succ ..

theorem filter_around_iff
    (chosen : Slot → Bool) (before after : List Slot) (slot : Slot) :
    (before ++ after).filter chosen = (before ++ slot :: after).filter chosen ↔
    chosen slot = false := by
  rw [List.filter_append, List.filter_append]
  cases isChosen : chosen slot with
  | false => simp [isChosen]
  | true =>
      refine iff_of_false ?_ nofun
      intro same
      have lengths := congrArg List.length same
      simp [isChosen] at lengths

/-- Removing a slot leaves the chosen ones exactly if it is not one. -/
theorem filter_eraseIdx_iff
    (chosen : Slot → Bool) {old : Slot}
    (holds : slots[index]? = some old) :
    (slots.eraseIdx index).filter chosen = slots.filter chosen ↔
    chosen old = false := by
  rcases eraseIdx_around holds with ⟨before, after, around, erased⟩
  rw [erased, around]
  exact filter_around_iff chosen before after old

/-- Overwriting a slot with one that is not chosen leaves the chosen ones
exactly if the slot was none. -/
theorem filter_set_iff
    (chosen : Slot → Bool) {old new : Slot}
    (holds : slots[index]? = some old) (notNew : chosen new = false) :
    (slots.set index new).filter chosen = slots.filter chosen ↔
    chosen old = false := by
  rcases Slots.set_around holds new with ⟨before, after, around, overwritten⟩
  have without := (filter_around_iff chosen before after new).mpr notNew
  rw [overwritten, around, ← without]
  exact filter_around_iff chosen before after old

end Endap.Library.Addressing
