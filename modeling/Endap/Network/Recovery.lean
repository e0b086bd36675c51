import Endap.Network.Monitor

/-!
# Recovery of the primary link

In the recovering state the primary transport is the active one again, and
the monitor returns to the connected state when the last sign of life is
young.  That time is refreshed by every reception, so that a packet received
on the fallback, before the recovering phase began, may end the phase.

The module says exactly when it does not: whenever `process` finds the
transport ready in a recovering phase without receptions, what was received
before the phase is older than the failover delay.
-/

namespace Endap.Network

open Endap.Library.Run

/-- The call begins a recovering phase. -/
def BeginsRecovering (made : NetworkCall) : Prop :=
  made.before.state ≠ .recovering ∧ made.after.state = .recovering

instance : DecidablePred BeginsRecovering := fun made =>
  inferInstanceAs
    (Decidable
      (made.before.state ≠ .recovering ∧ made.after.state = .recovering))

/-- The calls made since the last recovering phase began, newest first. -/
def recoveringPhase (past : List NetworkCall) : List NetworkCall :=
  past.reverse.takeWhile fun made => ¬ BeginsRecovering made

/-- The call notes a received packet. -/
def Receives (made : NetworkCall) : Prop :=
  ∃ success rttMs now, made.action = .notePacket true success rttMs now

/-- The call ends a recovering phase in the connected state. -/
def Recovers (made : NetworkCall) : Prop :=
  made.before.state = .recovering ∧ made.after.state = .connected

/-- A packet was received since the recovering phase began, with the primary
transport active. -/
def ConfirmedOnPrimary
    (config : NetworkConfig) (past : List NetworkCall) : Prop :=
  ∃ made ∈ recoveringPhase past,
    Receives made ∧ made.before.metrics.activeTransport = config.primary

/-- Every recovery of the run is confirmed on the primary link. -/
def RecoveriesConfirmed
    (profile : Option NodeProfileDesc) (initMs : UInt32)
    (actions : List NetworkAction) : Prop :=
  let start := networkStart profile initMs
  ∀ earlier action later,
    actions = earlier ++ action :: later →
    Recovers (call networkStep (final networkStep start earlier) action) →
    ConfirmedOnPrimary (cachedConfig profile)
      (history networkStep start earlier)

/-- Whenever `process` finds the transport ready in a recovering phase without
receptions, the last reception or connection before the phase is as old as
the failover delay. -/
def EarlierContactsStale
    (profile : Option NodeProfileDesc) (initMs : UInt32)
    (actions : List NetworkAction) : Prop :=
  let start := networkStart profile initMs
  ∀ earlier otherProfile otherMs now later,
    actions =
        earlier ++ .process otherProfile otherMs now true :: later →
      (final networkStep start earlier).state = .recovering →
      (∀ made ∈ recoveringPhase (history networkStep start earlier),
          ¬ Receives made) →
        ∀ contact,
          lastContact (history networkStep start earlier) =
              some contact →
            (cachedConfig profile).failoverDelayMs ≤ now - contact

theorem recoveringPhase_snoc
    (past : List NetworkCall) (made : NetworkCall) :
    recoveringPhase (past ++ [made]) =
      if BeginsRecovering made then [] else made :: recoveringPhase past := by
  by_cases begins : BeginsRecovering made <;> simp [recoveringPhase, begins]

theorem recoveringPhase_state
    (start : NetworkV1) (initial : start.state ≠ .recovering)
    (actions : List NetworkAction) :
    (final networkStep start actions).state = .recovering →
    ∀ made ∈ recoveringPhase (history networkStep start actions),
      made.before.state = .recovering := by
  refine
    history_induction
      (motive := fun past net =>
        net.state = .recovering →
        ∀ made ∈ recoveringPhase past, made.before.state = .recovering)
      (fun isRecovering => absurd isRecovering initial) ?_ actions
  intro past net action induction isRecovering made member
  rw [recoveringPhase_snoc] at member
  split at member
  · cases member
  · rename_i continues
    have was : net.state = .recovering := by
      by_contra other
      exact continues ⟨other, isRecovering⟩
    rcases List.mem_cons.mp member with rfl | older
    · exact was
    · exact induction was made older

/-- While the monitor is recovering, every call since the phase began found
the primary transport active. -/
theorem recoveringPhase_active
    (profile : Option NodeProfileDesc) (initMs : UInt32)
    (actions : List NetworkAction)
    (isRecovering :
      (final networkStep (networkStart profile initMs) actions).state =
        .recovering)
    {made : NetworkCall}
    (member :
      made ∈
        recoveringPhase
          (history networkStep (networkStart profile initMs) actions)) :
    made.before.metrics.activeTransport =
      (cachedConfig profile).primary := by
  have was :=
    recoveringPhase_state (networkStart profile initMs) nofun actions
      isRecovering made member
  have inHistory :
      made ∈ history networkStep (networkStart profile initMs) actions :=
    List.mem_reverse.mp (List.takeWhile_subset _ member)
  have consistent :=
    (history_invariant (Consistent (cachedConfig profile))
      (networkStart_consistent profile initMs)
      (fun _ action holds => networkStep_consistent holds action)
      inHistory).1
  rw [consistent.active, was]
  rfl

/-- Exactly when `process` recovers. -/
theorem recovers_iff
    {net : NetworkV1} (initialized : net.initialized = true)
    (action : NetworkAction) :
    Recovers (call networkStep net action) ↔
    net.state = .recovering ∧
    ∃ profile initMs now,
      action = .process profile initMs now true ∧
      now - net.lastPrimaryOkMs < net.config.failoverDelayMs := by
  constructor
  · rintro ⟨was, isConnected⟩
    change net.state = .recovering at was
    change (networkStep net action).1.state = .connected at isConnected
    refine ⟨was, ?_⟩
    have change := networkStep_change initialized action
    generalize (networkStep net action).1 = after at change isConnected
    cases change with
    | processed profile initMs now ready outcome =>
        cases outcome with
        | recovered _ isReady young =>
            subst isReady
            exact ⟨profile, initMs, now, rfl, young⟩
        | kept => cases was.symm.trans isConnected
        | connected connecting _ => cases was.symm.trans connecting
        | _ => cases isConnected
    | reconnecting => cases isConnected
    | _ => cases was.symm.trans isConnected
  · rintro ⟨was, profile, initMs, now, rfl, young⟩
    refine ⟨was, ?_⟩
    change
      (endapNetworkV1Process net profile initMs now true).1.state = .connected
    rw [process_of_initialized initialized]
    simp [processState, was, young, NetworkV1.reportState]

/--
Every recovery of a run is confirmed by a packet received on the primary link
exactly if, whenever `process` finds the transport ready in a recovering phase
without receptions, what was received before the phase is stale.
-/
theorem recoveries_confirmed_iff
    (profile : Option NodeProfileDesc) (initMs : UInt32)
    (actions : List NetworkAction) :
    RecoveriesConfirmed profile initMs actions ↔
    EarlierContactsStale profile initMs actions := by
  constructor
  · intro confirmed earlier otherProfile otherMs now later split
      isRecovering silent contact last
    rcases network_run_recorded profile initMs earlier with
      ⟨consistent, recorded⟩
    by_contra young
    have contacted := recorded.contact (by rw [isRecovering]; trivial)
    rw [last] at contacted
    have recovers :=
      (recovers_iff consistent.initialized
        (.process otherProfile otherMs now true)).mpr
          ⟨isRecovering, otherProfile, otherMs, now, rfl, by
            rw [consistent.configured, ← Option.some.inj contacted]
            exact UInt32.not_le.mp young⟩
    rcases confirmed earlier _ later split recovers with
      ⟨made, member, receives, _⟩
    exact silent made member receives
  · intro stale earlier action later split recovers
    rcases network_run_recorded profile initMs earlier with
      ⟨consistent, recorded⟩
    rcases (recovers_iff consistent.initialized action).mp recovers with
      ⟨isRecovering, otherProfile, otherMs, now, rfl, young⟩
    by_contra unconfirmed
    have silent :
        ∀ made ∈
            recoveringPhase
              (history networkStep (networkStart profile initMs) earlier),
          ¬ Receives made := by
      intro made member receives
      exact unconfirmed ⟨made, member, receives,
        recoveringPhase_active profile initMs earlier isRecovering member⟩
    have old :=
      stale earlier otherProfile otherMs now later split isRecovering
        silent _ (recorded.contact (by rw [isRecovering]; trivial))
    rw [consistent.configured] at young
    exact absurd young (UInt32.not_lt.mpr old)

/-- A packet received on the fallback, a second before the recovering phase,
ends it: the run connects at 0 ms, fails over at 5001 ms, receives at
19000 ms, and recovers at 20002 ms. -/
theorem recovery_without_reception :
    ¬ RecoveriesConfirmed none 0
      [.process none 0 0 true, .process none 0 5001 true,
        .notePacket true true 0 19000, .process none 0 20001 true,
        .process none 0 20002 true] := by
  intro confirmed
  have recovered :=
    confirmed
      [.process none 0 0 true, .process none 0 5001 true,
        .notePacket true true 0 19000, .process none 0 20001 true]
      (.process none 0 20002 true) [] rfl
      ⟨by decide +kernel, by decide +kernel⟩
  rcases recovered with ⟨made, member, _⟩
  have empty :
      (recoveringPhase
          (history networkStep (networkStart none 0)
            [.process none 0 0 true, .process none 0 5001 true,
              .notePacket true true 0 19000,
              .process none 0 20001 true])).length =
        0 := by
    decide +kernel
  rw [List.length_eq_zero_iff.mp empty] at member
  cases member

end Endap.Network
