import Mathlib.Data.List.Induction

/-!
# Debouncing

A debouncer takes one sample after the other, counts how many equal ones came
last, and adopts a level when enough of them did.  The count stops at the
number that is required.

After any samples the adopted level is that of the last block of so many equal
samples, and a level is never adopted more often than the samples change.
-/

namespace Endap.Library.Debounce

variable {Level : Type*}

/-! ## Blocks of equal samples -/

/-- The level of the last block of `count` equal samples. -/
def LastSteady (count : Nat) (samples : List Level) (level : Level) : Prop :=
  ∃ earlier later,
    samples = earlier ++ List.replicate count level ++ later ∧
    ∀ other before after,
      samples = before ++ List.replicate count other ++ after →
      before.length ≤ earlier.length

/-- The samples end in exactly `length` equal ones. -/
def EndsIn (length : Nat) (samples : List Level) (level : Level) : Prop :=
  ∃ front,
    samples = front ++ List.replicate length level ∧ front.getLast? ≠ some level

variable {count : Nat}

theorem LastSteady.unique
    (positive : 0 < count) {samples : List Level}
    {first second : Level} (isFirst : LastSteady count samples first)
    (isSecond : LastSteady count samples second) : first = second := by
  rcases isFirst with ⟨earlier, later, isSamples, last⟩
  rcases isSecond with ⟨earlier', later', isSamples', last'⟩
  have sameLength : earlier.length = earlier'.length :=
    Nat.le_antisymm (last' first earlier later isSamples)
      (last second earlier' later' isSamples')
  have same := isSamples.symm.trans isSamples'
  rw [List.append_assoc, List.append_assoc] at same
  have tails := (List.append_inj same sameLength).2
  have blocks :=
    (List.append_inj tails (by simp only [List.length_replicate])).1
  exact (List.replicate_inj.mp blocks).2.resolve_left (Nat.ne_of_gt positive)

variable {length : Nat}

theorem EndsIn.lastSteady
    (enough : count ≤ length)
    {samples : List Level} {level : Level}
    (ends : EndsIn length samples level) :
    LastSteady count samples level := by
  rcases ends with ⟨front, rfl, -⟩
  refine ⟨front ++ List.replicate (length - count) level, [], ?_, ?_⟩
  · rw [List.append_nil, List.append_assoc, List.replicate_append_replicate,
      Nat.sub_add_cancel enough]
  · intro other before after same
    have lengths := congrArg List.length same
    simp only [List.length_append, List.length_replicate] at lengths ⊢
    omega

theorem EndsIn.block_le
    (nonempty : 0 < length)
    {samples : List Level} {level : Level}
    (ends : EndsIn length samples level) {other : Level}
    {before : List Level}
    (block : samples = before ++ List.replicate count other) :
    count ≤ length := by
  by_contra more
  rw [Nat.not_le] at more
  rcases ends with ⟨front, isSamples, apart⟩
  have same := isSamples.symm.trans block
  have split :
      List.replicate count other =
        List.replicate (count - length) other ++
          List.replicate length other := by
    rw [List.replicate_append_replicate, Nat.sub_add_cancel (Nat.le_of_lt more)]
  rw [split, ← List.append_assoc] at same
  have parts := List.append_inj' same (by simp only [List.length_replicate])
  have isLevel : level = other :=
    (List.replicate_inj.mp parts.2).2.resolve_left (Nat.ne_of_gt nonempty)
  refine apart ?_
  rw [parts.1, isLevel, List.getLast?_append, List.getLast?_replicate,
    if_neg (Nat.sub_ne_zero_of_lt more), Option.some_or]

/-- A sample that completes no block leaves the last one. -/
theorem LastSteady.snoc
    (nonempty : 0 < length) (short : length < count)
    {samples : List Level} {sample level : Level}
    (ends : EndsIn length (samples ++ [sample]) sample)
    (steady : LastSteady count samples level) :
    LastSteady count (samples ++ [sample]) level := by
  rcases steady with ⟨earlier, later, isSamples, last⟩
  refine ⟨earlier, later ++ [sample], ?_, ?_⟩
  · rw [isSamples]
    simp only [List.append_assoc]
  · intro other before after same
    cases after using List.reverseRecOn with
    | nil =>
        rw [List.append_nil] at same
        exact absurd (ends.block_le nonempty same) (Nat.not_le_of_lt short)
    | append_singleton inner final =>
        rw [← List.append_assoc] at same
        exact last other before inner (List.append_inj' same rfl).1

theorem EndsIn.snoc_same
    {samples : List Level} {level : Level}
    (ends : EndsIn length samples level) :
    EndsIn (length + 1) (samples ++ [level]) level := by
  rcases ends with ⟨front, rfl, apart⟩
  refine ⟨front, ?_, apart⟩
  rw [List.append_assoc, List.replicate_succ']

theorem EndsIn.snoc_other
    (nonempty : 0 < length) {samples : List Level}
    {level sample : Level} (ends : EndsIn length samples level)
    (different : sample ≠ level) : EndsIn 1 (samples ++ [sample]) sample := by
  refine ⟨samples, rfl, ?_⟩
  rcases ends with ⟨front, rfl, -⟩
  rw [List.getLast?_append, List.getLast?_replicate,
    if_neg (Nat.ne_of_gt nonempty), Option.some_or]
  exact fun same => different (Option.some.inj same).symm

/-! ## Changes of level -/

/-- How often the level changes, from the given one on. -/
def edges [DecidableEq Level] : Level → List Level → Nat
  | _, [] => 0
  | level, next :: rest =>
      (if next = level then 0 else 1) + edges next rest

/-! ## The debouncer -/

/-- The last sample, how many equal ones came last, and the adopted level. -/
structure Debouncer (Level : Type*) where
  last : Level
  count : Nat
  stable : Level

/-- A debouncer that has adopted a level. -/
def settled (count : Nat) (level : Level) : Debouncer Level where
  last := level
  count := count
  stable := level

/-- What a debouncer knows of the samples it was given. -/
structure Debouncer.Tracks (required : Nat) (debouncer : Debouncer Level)
    (history : List Level) : Prop where
  counted :
    ∃ length,
      0 < length ∧ EndsIn length history debouncer.last ∧
      debouncer.count = min length required
  steady : LastSteady required history debouncer.stable

theorem tracks_settled
    {required : Nat} (positive : 0 < required) (level : Level) :
    (settled required level).Tracks required
      (List.replicate required level) := by
  have ends : EndsIn required (List.replicate required level) level :=
    ⟨[], rfl, by simp⟩
  exact
    ⟨⟨required, positive, ends, (Nat.min_self _).symm⟩,
      ends.lastSteady (Nat.le_refl _)⟩

/-- The adopted level is that of the last block. -/
theorem Debouncer.Tracks.stable_iff
    {required : Nat} (positive : 0 < required) {debouncer : Debouncer Level}
    {history : List Level} (tracks : debouncer.Tracks required history)
    (level : Level) :
    debouncer.stable = level ↔ LastSteady required history level := by
  constructor
  · rintro rfl
    exact tracks.steady
  · intro steady
    exact tracks.steady.unique positive steady

section

variable [DecidableEq Level]

def Debouncer.sample (required : Nat) (debouncer : Debouncer Level)
    (level : Level) : Debouncer Level :=
  let count :=
    if level ≠ debouncer.last then 1
    else if debouncer.count < required then debouncer.count + 1
    else debouncer.count
  { last := level
    count := count
    stable := if required ≤ count then level else debouncer.stable }

/-- Some samples, oldest first. -/
def Debouncer.samples (required : Nat) (debouncer : Debouncer Level)
    (levels : List Level) : Debouncer Level :=
  levels.foldl (Debouncer.sample required) debouncer

/-- The levels adopted after each of some samples. -/
def Debouncer.adopted (required : Nat) :
    Debouncer Level → List Level → List Level
  | _, [] => []
  | debouncer, level :: rest =>
      (debouncer.sample required level).stable ::
        Debouncer.adopted required (debouncer.sample required level) rest

variable {required : Nat}

theorem Debouncer.Tracks.sample
    (positive : 0 < required) {debouncer : Debouncer Level}
    {history : List Level} (tracks : debouncer.Tracks required history)
    (level : Level) :
    (debouncer.sample required level).Tracks required
      (history ++ [level]) := by
  rcases tracks.counted with ⟨length, nonempty, ends, counted⟩
  have next :
      ∃ longer,
        0 < longer ∧ EndsIn longer (history ++ [level]) level ∧
        (debouncer.sample required level).count = min longer required := by
    by_cases same : level = debouncer.last
    · refine
        ⟨length + 1, Nat.succ_pos _, by rw [same]; exact ends.snoc_same, ?_⟩
      simp only [Debouncer.sample, same, ne_eq, not_true, if_false]
      split <;> omega
    · refine ⟨1, Nat.one_pos, ends.snoc_other nonempty same, ?_⟩
      simp only [Debouncer.sample, ne_eq, same, not_false_eq_true, if_true]
      omega
  refine ⟨next, ?_⟩
  rcases next with ⟨longer, positive', ends', counted'⟩
  change
    LastSteady required _
      (if required ≤ (debouncer.sample required level).count then level
        else debouncer.stable)
  split
  · next enough => exact ends'.lastSteady (by omega)
  · next few => exact tracks.steady.snoc positive' (by omega) ends'

/-- Every debouncer knows what it was given. -/
theorem Debouncer.Tracks.samples
    (positive : 0 < required) {debouncer : Debouncer Level}
    {history : List Level} (tracks : debouncer.Tracks required history)
    (levels : List Level) :
    (debouncer.samples required levels).Tracks required
      (history ++ levels) := by
  induction levels generalizing debouncer history with
  | nil => rwa [List.append_nil]
  | cons level rest induction =>
      have later := induction (tracks.sample positive level)
      rwa [List.append_assoc] at later

theorem Debouncer.samples_same
    {length : Nat} {debouncer : Debouncer Level}
    (short : debouncer.count + length < required) :
    (debouncer.samples required (List.replicate length debouncer.last)).stable =
      debouncer.stable := by
  induction length generalizing debouncer with
  | zero => rfl
  | succ length induction =>
      have counting : debouncer.count < required := by omega
      have next :
          debouncer.sample required debouncer.last =
            { debouncer with count := debouncer.count + 1 } := by
        simp only [Debouncer.sample, ne_eq, not_true, if_false, counting,
          if_true]
        rw [if_neg (by omega)]
      have later :=
        @induction { debouncer with count := debouncer.count + 1 }
          (by simp only; omega)
      rw [List.replicate_succ, Debouncer.samples, List.foldl_cons, next]
      exact later

/-- While fewer equal samples than required come, nothing is adopted. -/
theorem Debouncer.short_pulse
    {length : Nat} {debouncer : Debouncer Level} {level : Level}
    (different : level ≠ debouncer.last) (short : length < required) :
    (debouncer.samples required (List.replicate length level)).stable =
      debouncer.stable := by
  cases length with
  | zero => rfl
  | succ length =>
      have next :
          debouncer.sample required level =
            { last := level, count := 1, stable := debouncer.stable } := by
        simp only [Debouncer.sample, if_pos different]
        rw [if_neg (by omega)]
      have later :=
        @Debouncer.samples_same Level _ required length
          { last := level, count := 1, stable := debouncer.stable }
          (by simp only; omega)
      rw [List.replicate_succ, Debouncer.samples, List.foldl_cons, next]
      exact later

/-- One sample and the adopted level. -/
theorem Debouncer.sample_stable
    (required : Nat) (debouncer : Debouncer Level) (level : Level) :
    (debouncer.sample required level).stable = level ∨
    (debouncer.sample required level).stable = debouncer.stable := by
  change
    (if required ≤ (debouncer.sample required level).count then level
      else debouncer.stable) = level ∨
    (if required ≤ (debouncer.sample required level).count then level
      else debouncer.stable) = debouncer.stable
  split
  · exact Or.inl rfl
  · exact Or.inr rfl

theorem Debouncer.samples_last
    (required : Nat) (debouncer : Debouncer Level) (levels : List Level) :
    (debouncer.samples required levels).last =
      levels.getLastD debouncer.last := by
  induction levels generalizing debouncer with
  | nil => rfl
  | cons level rest induction =>
      rw [List.getLastD_cons]
      exact induction (debouncer.sample required level)

/-- A level is adopted with the sample that completes a block. -/
theorem Debouncer.Tracks.adopts_iff
    (positive : 0 < required) {debouncer : Debouncer Level}
    {history : List Level} (tracks : debouncer.Tracks required history)
    (level : Level) :
    (debouncer.sample required level).stable ≠ debouncer.stable ↔
    List.replicate required level <:+ history ++ [level] ∧
    debouncer.stable ≠ level := by
  rcases (tracks.sample positive level).counted with
    ⟨length, nonempty, ends, counted⟩
  have enough_iff :
      required ≤ (debouncer.sample required level).count ↔
      List.replicate required level <:+ history ++ [level] := by
    constructor
    · intro enough
      rcases ends with ⟨front, isHistory, -⟩
      have long : required ≤ length := by omega
      refine ⟨front ++ List.replicate (length - required) level, ?_⟩
      rw [isHistory, List.append_assoc, List.replicate_append_replicate,
        Nat.sub_add_cancel long]
      rfl
    · rintro ⟨front, isHistory⟩
      have long := ends.block_le nonempty isHistory.symm
      omega
  change
    (if required ≤ (debouncer.sample required level).count then level
      else debouncer.stable) ≠ debouncer.stable ↔ _
  rw [← enough_iff]
  split
  · next enough =>
      exact ⟨fun other => ⟨enough, other.symm⟩, fun both => both.2.symm⟩
  · next few =>
      exact ⟨fun other => absurd rfl other, fun both => absurd both.1 few⟩

/-- Levels are adopted no more often than the samples change. -/
theorem edges_adopted_le
    (required : Nat) (debouncer : Debouncer Level) (levels : List Level) :
    edges debouncer.stable (debouncer.adopted required levels) ≤
      edges debouncer.last levels +
        (if debouncer.stable = debouncer.last then 0 else 1) := by
  induction levels generalizing debouncer with
  | nil => exact Nat.zero_le _
  | cons level rest induction =>
      have later := induction (debouncer.sample required level)
      have last : (debouncer.sample required level).last = level := rfl
      rw [last] at later
      rw [Debouncer.adopted, edges, edges]
      rcases debouncer.sample_stable required level with adopted | kept
      · rw [adopted] at later ⊢
        rw [if_pos rfl] at later
        -- a level that is new to the debouncer differs from the last sample
        -- or was not adopted yet
        by_cases isStable : level = debouncer.stable
        · rw [if_pos isStable]
          omega
        · by_cases isLast : level = debouncer.last
          · have apart : debouncer.stable ≠ debouncer.last :=
              fun same => isStable (isLast.trans same.symm)
            rw [if_neg isStable, if_neg apart]
            omega
          · rw [if_neg isStable, if_neg isLast]
            omega
      · rw [kept] at later ⊢
        rw [if_pos rfl]
        by_cases isStable : debouncer.stable = level
        · rw [if_pos isStable] at later
          omega
        · rw [if_neg isStable] at later
          by_cases isLast : level = debouncer.last
          · rw [← isLast, if_neg isStable]
            omega
          · rw [if_neg isLast]
            omega

end

end Endap.Library.Debounce
