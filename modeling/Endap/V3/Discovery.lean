import Endap.Library.BitMask
import Endap.V3.Events
import Mathlib.Data.Finset.Card
import Mathlib.Data.Finset.Range

/-!
# Discovery of physical nodes

Drivers report physical slots, also from interrupts, by setting a flag in a
table of 32 words.  Every tenth of a second a pulse looks at the words in
order, takes the lowest flag of the first word that has one, and sends the
slot to be probed.  The lock is taken for one word at a time, so reports come
in between the words as well.

A slot is waiting exactly when it was reported after it was last probed.  The
order is not fair: lower slots go first, and a slot waits as long as lower
ones keep being reported, but no longer.
-/

namespace Endap.V3

open Endap.Library
open Endap.Library.Run

inductive V3NodeState where
  | unknown
  | probe
  | active
  | lost

/-- The static state of `v3_discovery.c`, the events, and the word that the
pulse under way looks at next. -/
structure V3Discovery where
  probeMask : Nat → BitVec 32
  nodeStates : Nat → V3NodeState
  events : V3EventQueue
  pulse : Option Nat

/-- The state at the start of the program. -/
def V3Discovery.zero : V3Discovery where
  probeMask := fun _ => 0
  nodeStates := fun _ => .unknown
  events := .zero
  pulse := none

def v3DiscoveryReportNode (discovery : V3Discovery)
    (physicalSlot : UInt16) : V3Discovery :=
  let slot := physicalSlot.toNat
  if 1024 ≤ slot then discovery
  else
    { discovery with
      probeMask :=
        Function.update discovery.probeMask (slot / 32)
          (BitMask.set (discovery.probeMask (slot / 32)) (slot % 32)) }

/-- One round of the loop of `v3_discovery_pulse_100ms`, and the slot that is
sent to be probed. -/
def v3DiscoveryPulseRound (discovery : V3Discovery) (i : Nat) :
    V3Discovery × Option Nat :=
  let word := discovery.probeMask i
  if word ≠ 0 then
    let bitIdx := BitMask.lowest word
    let physicalSlot := i * 32 + bitIdx
    ({ discovery with
       probeMask :=
         Function.update discovery.probeMask i (BitMask.clear word bitIdx)
       nodeStates := Function.update discovery.nodeStates physicalSlot .probe
       pulse := none },
      some physicalSlot)
  else ({ discovery with pulse := some (i + 1) }, none)

def v3DiscoveryInjectIdentity (discovery : V3Discovery)
    (physicalSlot : UInt16) (key : Option UInt64) (timestamp : UInt32) :
    V3Discovery × Bool :=
  match key with
  | none => (discovery, false)
  | some raw =>
      if 1024 ≤ physicalSlot.toNat then (discovery, false)
      else
        ({ discovery with
           nodeStates :=
             Function.update discovery.nodeStates physicalSlot.toNat .active
           events := v3EventsPost discovery.events raw .online timestamp },
          true)

/-! ## Interleaved runs -/

/-- What may happen next: a report, the beginning of a pulse, one round of its
loop, or an identity. -/
inductive V3DiscoveryAction where
  | report (physicalSlot : UInt16)
  | begin
  | round
  | inject (physicalSlot : UInt16) (key : Option UInt64)
      (timestamp : UInt32)

/-- What a step does that matters to others. -/
inductive V3DiscoveryOutput where
  | quiet
  | probed (slot : Nat)
  | ended
deriving DecidableEq

/-- What a round of a pulse does. -/
def V3DiscoveryOutput.ofRound : Option Nat → V3DiscoveryOutput
  | none => .quiet
  | some slot => .probed slot

/-- One step; pulses follow one another. -/
def v3DiscoveryStep (discovery : V3Discovery) :
    V3DiscoveryAction → V3Discovery × V3DiscoveryOutput
  | .report physicalSlot =>
      (v3DiscoveryReportNode discovery physicalSlot, .quiet)
  | .begin =>
      match discovery.pulse with
      | none => ({ discovery with pulse := some 0 }, .quiet)
      | some _ => (discovery, .quiet)
  | .round =>
      match discovery.pulse with
      | none => (discovery, .quiet)
      | some i =>
          if i < 32 then
            let round := v3DiscoveryPulseRound discovery i
            (round.1, .ofRound round.2)
          else ({ discovery with pulse := none }, .ended)
  | .inject physicalSlot key timestamp =>
      ((v3DiscoveryInjectIdentity discovery physicalSlot key timestamp).1,
        .quiet)

abbrev V3DiscoveryTransition :=
  Transition V3Discovery V3DiscoveryAction V3DiscoveryOutput

/-! ## The slots that wait -/

/-- The flag of a slot is set. -/
def V3Discovery.pending (discovery : V3Discovery) (slot : Nat) : Bool :=
  (discovery.probeMask (slot / 32)).getLsbD (slot % 32)

theorem report_pending (discovery : V3Discovery) (physicalSlot : UInt16)
    (slot : Nat) :
    (v3DiscoveryReportNode discovery physicalSlot).pending slot =
      (discovery.pending slot ||
        decide (slot = physicalSlot.toNat ∧ slot < 1024)) := by
  unfold v3DiscoveryReportNode V3Discovery.pending
  dsimp only
  split
  · next outside =>
      have never : ¬ (slot = physicalSlot.toNat ∧ slot < 1024) := by omega
      simp only [never, decide_false, Bool.or_false]
  · next inside =>
      dsimp only
      by_cases sameWord : slot / 32 = physicalSlot.toNat / 32
      · have bits : physicalSlot.toNat % 32 < 32 :=
          Nat.mod_lt _ (by decide)
        have same :
            slot % 32 = physicalSlot.toNat % 32 ↔
            slot = physicalSlot.toNat ∧ slot < 1024 := by omega
        rw [sameWord, Function.update_self, BitMask.getLsbD_set _ bits]
        simp only [same]
      · have never : ¬ (slot = physicalSlot.toNat ∧ slot < 1024) := by
          rintro ⟨rfl, -⟩
          exact sameWord rfl
        rw [Function.update_of_ne sameWord]
        simp only [never, decide_false, Bool.or_false]

/-- A round of a pulse takes the lowest flag of its word, if there is one. -/
inductive Round (discovery : V3Discovery) (i : Nat) :
    V3Discovery × Option Nat → Prop
  | empty (next : V3Discovery)
      (unflagged : ∀ slot, slot / 32 = i → discovery.pending slot = false)
      (kept : ∀ slot, next.pending slot = discovery.pending slot)
      (onward : next.pulse = some (i + 1)) :
      Round discovery i (next, none)
  | taken (next : V3Discovery) (slot : Nat)
      (here : slot / 32 = i)
      (waits : discovery.pending slot = true)
      (lowest :
        ∀ other, other / 32 = i → discovery.pending other = true → slot ≤ other)
      (taken :
        ∀ other,
          next.pending other =
            (discovery.pending other && decide (other ≠ slot)))
      (done : next.pulse = none) :
      Round discovery i (next, some slot)

theorem pulseRound_round (discovery : V3Discovery) (i : Nat) :
    Round discovery i (v3DiscoveryPulseRound discovery i) := by
  unfold v3DiscoveryPulseRound
  dsimp only
  split
  · next flagged =>
      rcases BitMask.getLsbD_lowest flagged with ⟨inside, isSet⟩
      have word :
          (i * 32 + BitMask.lowest (discovery.probeMask i)) / 32 = i := by
        omega
      have bit :
          (i * 32 + BitMask.lowest (discovery.probeMask i)) % 32 =
            BitMask.lowest (discovery.probeMask i) := by omega
      refine .taken _ _ word ?_ ?_ ?_ rfl
      · rw [V3Discovery.pending, word, bit]
        exact isSet
      · intro other here waits
        rw [V3Discovery.pending, here] at waits
        have least := BitMask.lowest_le waits
        omega
      · intro other
        simp only [V3Discovery.pending]
        by_cases here : other / 32 = i
        · rw [here, Function.update_self, BitMask.getLsbD_clear _ inside]
          congr 2
          simp only [ne_eq, eq_iff_iff]
          omega
        · rw [Function.update_of_ne here]
          have different :
              other ≠ i * 32 + BitMask.lowest (discovery.probeMask i) := by
            omega
          simp only [different, ne_eq, not_false_eq_true, decide_true,
            Bool.and_true]
  · next zero =>
      have empty : discovery.probeMask i = 0 := not_not.mp zero
      refine .empty _ ?_ (fun _ => rfl) rfl
      intro slot here
      rw [V3Discovery.pending, here, empty]
      exact BitVec.getLsbD_zero

/-- The call reports a slot. -/
@[simp]
def V3DiscoveryAction.reports (slot : Nat) : V3DiscoveryAction → Bool
  | .report physicalSlot => decide (slot = physicalSlot.toNat ∧ slot < 1024)
  | _ => false

theorem step_pending (discovery : V3Discovery) (action : V3DiscoveryAction)
    (slot : Nat) :
    (v3DiscoveryStep discovery action).1.pending slot =
      ((discovery.pending slot || action.reports slot) &&
        decide ((v3DiscoveryStep discovery action).2 ≠ .probed slot)) := by
  cases action with
  | report physicalSlot =>
      simp only [v3DiscoveryStep, report_pending, ne_eq, reduceCtorEq,
        not_false_eq_true, decide_true, Bool.and_true,
        V3DiscoveryAction.reports]
  | begin =>
      cases isPulse : discovery.pulse with
      | none => simp [v3DiscoveryStep, isPulse, V3Discovery.pending]
      | some i => simp [v3DiscoveryStep, isPulse]
  | round =>
      cases isPulse : discovery.pulse with
      | none => simp [v3DiscoveryStep, isPulse]
      | some i =>
          by_cases inside : i < 32
          · have round := pulseRound_round discovery i
            simp only [v3DiscoveryStep, isPulse, if_pos inside]
            revert round
            generalize v3DiscoveryPulseRound discovery i = result
            rintro (⟨_, -, kept, -⟩ | ⟨_, taken, -, -, -, rest, -⟩)
            · simp [kept, V3DiscoveryOutput.ofRound]
            · simp [rest, V3DiscoveryOutput.ofRound, eq_comm]
          · simp [v3DiscoveryStep, isPulse, inside, V3Discovery.pending]
  | inject physicalSlot key timestamp =>
      have kept :
          (v3DiscoveryInjectIdentity discovery physicalSlot key
            timestamp).1.probeMask = discovery.probeMask := by
        unfold v3DiscoveryInjectIdentity
        split
        · rfl
        · split
          · rfl
          · rfl
      simp [v3DiscoveryStep, V3Discovery.pending, kept]

/-- A slot was reported, and not probed since. -/
def ReportedSince (slot : Nat) (past : List V3DiscoveryTransition) : Prop :=
  ∃ earlier made later,
    past = earlier ++ made :: later ∧
    made.action.reports slot = true ∧
    ∀ transition ∈ later, transition.output ≠ .probed slot

theorem reportedSince_snoc (slot : Nat) (past : List V3DiscoveryTransition)
    (made : V3DiscoveryTransition) :
    ReportedSince slot (past ++ [made]) ↔
    made.action.reports slot = true ∨
    ReportedSince slot past ∧ made.output ≠ .probed slot := by
  constructor
  · rintro ⟨earlier, report, later, whole, reports, unprobed⟩
    rcases List.eq_nil_or_concat later with rfl | ⟨others, last, rfl⟩
    · have isLast := (List.append_inj' whole rfl).2
      cases isLast
      exact .inl reports
    · rw [List.concat_eq_append] at whole unprobed
      rw [← List.cons_append, ← List.append_assoc] at whole
      rcases List.append_inj' whole rfl with ⟨rfl, isLast⟩
      cases isLast
      refine .inr ⟨⟨earlier, report, others, rfl, reports, ?_⟩, ?_⟩
      · intro transition member
        exact unprobed transition (List.mem_append_left _ member)
      · exact
          unprobed made (List.mem_append_right _ (List.mem_singleton_self _))
  · rintro (reports | ⟨since, kept⟩)
    · exact ⟨past, made, [], rfl, reports, fun _ member => by cases member⟩
    · rcases since with ⟨earlier, report, later, rfl, reports, unprobed⟩
      refine ⟨earlier, report, later ++ [made], by simp, reports, ?_⟩
      intro transition member
      rcases List.mem_append.mp member with before | isLast
      · exact unprobed transition before
      · rw [List.mem_singleton.mp isLast]
        exact kept

variable {discovery : V3Discovery} {slot : Nat}

theorem step_reports {action : V3DiscoveryAction}
    (reports : action.reports slot = true) (other : Nat) :
    (v3DiscoveryStep discovery action).2 ≠ .probed other := by
  cases action with
  | report physicalSlot => exact nofun
  | _ => cases reports

theorem step_probed {action : V3DiscoveryAction}
    (probed : (v3DiscoveryStep discovery action).2 = .probed slot) :
    discovery.pending slot = true := by
  cases action with
  | begin =>
      cases isPulse : discovery.pulse <;>
        simp [v3DiscoveryStep, isPulse] at probed
  | round =>
      cases isPulse : discovery.pulse with
      | none => simp [v3DiscoveryStep, isPulse] at probed
      | some i =>
          by_cases inside : i < 32
          · have round := pulseRound_round discovery i
            simp only [v3DiscoveryStep, isPulse, if_pos inside] at probed
            revert round probed
            generalize v3DiscoveryPulseRound discovery i = result
            rintro (⟨_, -, -, -⟩ | ⟨_, taken, -, waits, -, -, -⟩) probed
            · exact absurd probed nofun
            · have isTaken : taken = slot :=
                V3DiscoveryOutput.probed.inj probed
              rwa [← isTaken]
          · simp [v3DiscoveryStep, isPulse, inside] at probed
  | _ => cases probed

/--
In every run, whatever comes in between the rounds of a pulse, a slot waits
exactly when it was reported and not probed since; and a slot is only probed
when it waited.
-/
theorem waits_iff_reported_since (actions : List V3DiscoveryAction) :
    (∀ slot,
        (final v3DiscoveryStep .zero actions).pending slot = true ↔
        ReportedSince slot (history v3DiscoveryStep .zero actions)) ∧
      ∀ made ∈ history v3DiscoveryStep .zero actions,
        ∀ slot, made.output = .probed slot →
        made.before.pending slot = true := by
  constructor
  · refine
      history_induction
        (motive := fun past (discovery : V3Discovery) =>
          ∀ slot, discovery.pending slot = true ↔ ReportedSince slot past)
        ?_ ?_ actions
    · intro slot
      refine iff_of_false (by simp [V3Discovery.zero, V3Discovery.pending]) ?_
      rintro ⟨earlier, made, later, whole, -⟩
      exact absurd whole.symm (List.append_ne_nil_of_right_ne_nil _ nofun)
    · intro past discovery action waits slot
      rw [reportedSince_snoc, ← waits slot, step_pending]
      rw [Bool.and_eq_true, Bool.or_eq_true, decide_eq_true_iff]
      constructor
      · rintro ⟨waited | reported, kept⟩
        · exact .inr ⟨waited, kept⟩
        · exact .inl reported
      · rintro (reported | ⟨waited, kept⟩)
        · exact ⟨.inr reported, step_reports reported slot⟩
        · exact ⟨.inl waited, kept⟩
  · intro made member slot probed
    rw [eq_call_of_mem_history member] at probed ⊢
    exact step_probed probed

/-! ## How long a slot waits -/

/-- The lower slots that wait. -/
def V3Discovery.before (discovery : V3Discovery) (slot : Nat) : Finset Nat :=
  (Finset.range slot).filter fun other => discovery.pending other = true

/-- The pulse under way has passed a slot. -/
def V3Discovery.passed (discovery : V3Discovery) (slot : Nat) : Nat :=
  match discovery.pulse with
  | none => 0
  | some i => if slot / 32 < i then 1 else 0

/-- The pulses that may end before a slot is probed, without more reports. -/
def V3Discovery.turns (discovery : V3Discovery) (slot : Nat) : Nat :=
  (discovery.before slot).card + discovery.passed slot

/-- A pulse ends with the call. -/
def pulseEnds (made : V3DiscoveryTransition) : Nat :=
  if made.output = .quiet then 0 else 1

/-- The call reports a slot below the given one. -/
def reportsBelow (slot : Nat) (made : V3DiscoveryTransition) : Nat :=
  match made.action with
  | .report physicalSlot => if physicalSlot.toNat < slot then 1 else 0
  | _ => 0

theorem report_before (discovery : V3Discovery) (physicalSlot : UInt16)
    (slot : Nat) :
    ((v3DiscoveryReportNode discovery physicalSlot).before slot).card ≤
      (discovery.before slot).card +
        if physicalSlot.toNat < slot then 1 else 0 := by
  split
  · refine
      (Finset.card_le_card ?_).trans
        (Finset.card_insert_le physicalSlot.toNat _)
    intro other member
    rw [V3Discovery.before, Finset.mem_filter, report_pending,
      Bool.or_eq_true, decide_eq_true_iff] at member
    rw [Finset.mem_insert, V3Discovery.before, Finset.mem_filter]
    rcases member with ⟨lower, waits | ⟨same, -⟩⟩
    · exact .inr ⟨lower, waits⟩
    · exact .inl same
  · next higher =>
      rw [Nat.add_zero]
      refine Finset.card_le_card ?_
      intro other member
      rw [V3Discovery.before, Finset.mem_filter, report_pending,
        Bool.or_eq_true, decide_eq_true_iff] at member
      rw [V3Discovery.before, Finset.mem_filter]
      rcases member with ⟨lower, waits | ⟨rfl, -⟩⟩
      · exact ⟨lower, waits⟩
      · exact absurd (Finset.mem_range.mp lower) higher

theorem before_of_same {next : V3Discovery}
    (same : ∀ other, next.pending other = discovery.pending other)
    (slot : Nat) :
    next.before slot = discovery.before slot := by
  simp only [V3Discovery.before, same]

theorem before_of_taken {next : V3Discovery} {taken : Nat}
    (rest :
      ∀ other,
        next.pending other =
          (discovery.pending other && decide (other ≠ taken)))
    (slot : Nat) :
    next.before slot = (discovery.before slot).erase taken := by
  ext other
  simp only [V3Discovery.before, Finset.mem_filter, Finset.mem_erase, rest,
    Bool.and_eq_true, decide_eq_true_iff]
  constructor
  · rintro ⟨lower, waits, different⟩
    exact ⟨different, lower, waits⟩
  · rintro ⟨different, lower, waits⟩
    exact ⟨lower, waits, different⟩

theorem round_turns
    {i : Nat}
    (waits : discovery.pending slot = true)
    (isPulse : discovery.pulse = some i)
    {result : V3Discovery × Option Nat} (round : Round discovery i result)
    (other : result.2 ≠ some slot) :
    (if result.2 = none then 0 else 1) + result.1.turns slot ≤
      discovery.turns slot := by
  have position : discovery.passed slot = if slot / 32 < i then 1 else 0 := by
    rw [V3Discovery.passed, isPulse]
  cases round with
  | empty next unflagged kept onward =>
      have passed :
          next.passed slot = if slot / 32 < i + 1 then 1 else 0 := by
        rw [V3Discovery.passed, onward]
      have elsewhere : slot / 32 ≠ i := by
        intro here
        rw [unflagged slot here] at waits
        cases waits
      have same : (slot / 32 < i + 1) = (slot / 32 < i) := by
        rw [eq_iff_iff]
        omega
      simp only [V3Discovery.turns, before_of_same kept, passed, position,
        same, if_true, Nat.zero_add, Nat.le_refl]
  | taken next taken here taker lowest rest done =>
      have passed : next.passed slot = 0 := by
        rw [V3Discovery.passed, done]
      have ends : ¬ some taken = none := nofun
      simp only [V3Discovery.turns, before_of_taken rest, passed, position,
        if_neg ends]
      by_cases late : slot / 32 < i
      · have fewer :=
          Finset.card_le_card (Finset.erase_subset taken
            (discovery.before slot))
        rw [if_pos late]
        omega
      · -- The pulse still had the slot before it, so it took a lower one.
        have different : taken ≠ slot := by
          rintro rfl
          exact other rfl
        have lower : taken < slot := by
          by_cases sameWord : slot / 32 = i
          · have least := lowest slot sameWord waits
            omega
          · omega
        have member : taken ∈ discovery.before slot :=
          Finset.mem_filter.mpr ⟨Finset.mem_range.mpr lower, taker⟩
        have fewer := Finset.card_erase_add_one member
        rw [if_neg late]
        omega

theorem report_pulse (discovery : V3Discovery) (physicalSlot : UInt16) :
    (v3DiscoveryReportNode discovery physicalSlot).pulse =
      discovery.pulse := by
  unfold v3DiscoveryReportNode
  dsimp only
  split
  · rfl
  · rfl

theorem inject_turns (discovery : V3Discovery) (physicalSlot : UInt16)
    (key : Option UInt64) (timestamp : UInt32) (slot : Nat) :
    (v3DiscoveryInjectIdentity discovery physicalSlot key
        timestamp).1.turns slot =
      discovery.turns slot := by
  unfold v3DiscoveryInjectIdentity
  split
  · rfl
  · split
    · rfl
    · rfl

theorem step_round
    {i : Nat}
    (isPulse : discovery.pulse = some i) (inside : i < 32) :
    v3DiscoveryStep discovery .round =
      ((v3DiscoveryPulseRound discovery i).1,
        .ofRound (v3DiscoveryPulseRound discovery i).2) := by
  simp only [v3DiscoveryStep, isPulse, if_pos inside]

theorem pulseEnds_ofRound
    {made : V3DiscoveryTransition} {taken : Option Nat}
    (isRound : made.output = .ofRound taken) :
    pulseEnds made = if taken = none then 0 else 1 := by
  cases taken with
  | none => simp only [pulseEnds, isRound, V3DiscoveryOutput.ofRound]
  | some slot =>
      simp only [pulseEnds, isRound, V3DiscoveryOutput.ofRound, reduceCtorEq]

theorem step_pays
    (inside : slot < 1024)
    (waits : discovery.pending slot = true) (action : V3DiscoveryAction)
    (other : (v3DiscoveryStep discovery action).2 ≠ .probed slot) :
    pulseEnds (call v3DiscoveryStep discovery action) +
        (v3DiscoveryStep discovery action).1.turns slot ≤
      discovery.turns slot +
        reportsBelow slot (call v3DiscoveryStep discovery action) := by
  cases action with
  | report physicalSlot =>
      have more := report_before discovery physicalSlot slot
      have samePulse :
          (v3DiscoveryReportNode discovery physicalSlot).passed slot =
            discovery.passed slot := by
        simp only [V3Discovery.passed, report_pulse]
      simp only [pulseEnds, call, v3DiscoveryStep, if_true, reportsBelow,
        V3Discovery.turns, samePulse]
      omega
  | begin =>
      cases isPulse : discovery.pulse with
      | none =>
          have same :
              V3Discovery.before { discovery with pulse := some 0 } slot =
                discovery.before slot :=
            before_of_same (fun _ => rfl) slot
          simp [v3DiscoveryStep, call, pulseEnds, reportsBelow, isPulse,
            V3Discovery.turns, V3Discovery.passed, same]
      | some i =>
          simp [v3DiscoveryStep, call, pulseEnds, reportsBelow, isPulse]
  | round =>
      cases isPulse : discovery.pulse with
      | none =>
          simp [v3DiscoveryStep, call, pulseEnds, reportsBelow, isPulse]
      | some i =>
          by_cases more : i < 32
          · have isRound := step_round isPulse more
            have left : (v3DiscoveryPulseRound discovery i).2 ≠ some slot := by
              intro taken
              rw [isRound, taken] at other
              exact other rfl
            have turns :=
              round_turns waits isPulse (pulseRound_round discovery i) left
            have output :
                (call v3DiscoveryStep discovery .round).output =
                  .ofRound (v3DiscoveryPulseRound discovery i).2 :=
              congrArg Prod.snd isRound
            rw [pulseEnds_ofRound output, isRound]
            exact turns
          · have late : slot / 32 < i := by omega
            have same :
                V3Discovery.before { discovery with pulse := none } slot =
                  discovery.before slot :=
              before_of_same (fun _ => rfl) slot
            simp [v3DiscoveryStep, call, pulseEnds, reportsBelow, isPulse,
              more, V3Discovery.turns, V3Discovery.passed, late, same,
              Nat.add_comm]
  | inject physicalSlot key timestamp =>
      simp [v3DiscoveryStep, call, pulseEnds, reportsBelow, inject_turns]

theorem waits_until_probed
    (waits : discovery.pending slot = true)
    {actions : List V3DiscoveryAction}
    (unprobed :
      ∀ made ∈ history v3DiscoveryStep discovery actions,
        made.output ≠ .probed slot) :
    ∀ made ∈ history v3DiscoveryStep discovery actions,
      made.before.pending slot = true := by
  induction actions generalizing discovery with
  | nil => exact nofun
  | cons action actions induction =>
      intro made member
      have here : (v3DiscoveryStep discovery action).2 ≠ .probed slot :=
        unprobed _ (List.mem_cons_self ..)
      have still :
          (v3DiscoveryStep discovery action).1.pending slot = true := by
        rw [step_pending, waits, Bool.true_or, Bool.true_and,
          decide_eq_true_iff]
        exact here
      rcases List.mem_cons.mp member with rfl | later
      · exact waits
      · exact
          induction still
            (fun made member => unprobed made (List.mem_cons_of_mem _ member))
            made later

/--
A slot that waits is probed once more pulses have ended than lower slots were
waiting and were reported meanwhile, one more when a pulse is under way that
has passed the slot.  This holds however reports come in between the rounds of
the pulses.
-/
theorem probed_in_turn
    {discovery : V3Discovery} {slot : Nat} (inside : slot < 1024)
    (waits : discovery.pending slot = true)
    {actions : List V3DiscoveryAction}
    (enough :
      discovery.turns slot +
          total (reportsBelow slot)
            (history v3DiscoveryStep discovery actions) <
        total pulseEnds (history v3DiscoveryStep discovery actions)) :
    ∃ made ∈ history v3DiscoveryStep discovery actions,
      made.output = .probed slot := by
  by_contra never
  have unprobed :
      ∀ made ∈ history v3DiscoveryStep discovery actions,
        made.output ≠ .probed slot :=
    fun made member probed => never ⟨made, member, probed⟩
  have bound :=
    @total_cost_le _ _ _ v3DiscoveryStep (V3Discovery.turns · slot)
      pulseEnds (reportsBelow slot) discovery actions
      (fun made member => by
        have waited := waits_until_probed waits unprobed made member
        have other := unprobed made member
        have isCall := eq_call_of_mem_history member
        rw [isCall] at other ⊢
        exact step_pays inside waited made.action other)
  omega

/-- Slot 40 is probed by the second pulse when slot 3 waits as well. -/
theorem probed_in_turn_second :
    ∃ made ∈
        history v3DiscoveryStep
          (final v3DiscoveryStep .zero [.report 40, .report 3])
          [.begin, .round, .begin, .round, .round],
      made.output = .probed 40 :=
  probed_in_turn (by decide) (by decide +kernel) (by decide +kernel)

end Endap.V3
