import Endap.Library.StopAndWait
import Endap.Rs485.Master

/-!
# The polling protocol of the master

The master is a stop-and-wait requester: a request is a node with a message
id, and `RS485_MAX_RETRY` bounds its attempts.  `MasterEffect` says once what
a call can do to the master.  From it the master refines the stop-and-wait
machine, so its history is one of that machine's executions, and the
polling invariants are read off the refinement.

Nothing depends on the clock readings or on what is received.
-/

namespace Endap.Rs485.Master

open Endap.Library
open Endap.Library.StopAndWait
open Endap.Rs485.Codec
open Endap.Rs485.Engine

/-- A poll: the node and the message id. -/
abbrev Poll := UInt8 × UInt16

/-- One call of the master in a run. -/
abbrev MasterTransition := Run.Transition Rs485Master MasterAction MasterOutput

/-- The poll named by an event. -/
def MasterEvent.poll (event : MasterEvent) : Poll := (event.nodeId, event.msgId)

/-- The signal of a call. -/
def signalOf (output : MasterOutput) : Signal Poll :=
  match output.event.type with
  | .tx =>
      if output.assigned.isSome then .send output.event.poll
      else .resend output.event.poll
  | .ack => .answer output.event.poll
  | .retry => .retry output.event.poll
  | .timeout => .expire output.event.poll
  | .none => .silent
  | .crcError => .silent
  | .rxIgnored => .silent

/-- The signals of a run. -/
def signals (past : List MasterTransition) : List (Signal Poll) :=
  past.map fun transition => signalOf transition.output

/-! ## What a call can do -/

def counters (metrics : MasterMetrics) : UInt32 × UInt32 × UInt32 × UInt32 :=
  (metrics.txCount, metrics.ackCount, metrics.retryCount, metrics.timeoutCount)

/-- Everything that one call can do to the master. -/
inductive MasterEffect (master : Rs485Master) :
    Rs485Master → MasterOutput → Prop where
  /-- Only the engine and counters outside the balance change. -/
  | quiet
      (engine : Rs485Engine) (metrics : MasterMetrics)
      (output : MasterOutput)
      (uncounted : counters metrics = counters master.metrics)
      (silent : signalOf output = .silent)
      (unassigned : output.assigned = none) :
      MasterEffect master
        { master with engine := engine, metrics := metrics } output
  /-- The outstanding poll is acknowledged. -/
  | answered
      (engine : Rs485Engine) (nowUs engineUs : UInt64)
      (latencyUs : UInt32)
      (waiting : master.waitingResponse = true)
      (inRange : nodeIndex master.awaitingNode < maxNodes) :
      MasterEffect master
        (acceptAck { master with engine := engine }
          master.awaitingNode nowUs engineUs)
        (MasterOutput.reports
          { type := .ack, nodeId := master.awaitingNode
            msgId := master.currentMsgId, latencyUs := latencyUs })
  /-- The recovery branch is taken. -/
  | recovered
      (engine : Rs485Engine) (nowUs : UInt64)
      (waiting : master.waitingResponse = true)
      (outOfRange : AwaitingOutOfRange master) :
      MasterEffect master
        (recoverAwaiting { master with engine := engine } nowUs).1
        MasterOutput.nothing
  /-- The response timeout passes and attempts are left. -/
  | retried
      (engine : Rs485Engine) (nowUs : UInt64)
      (waiting : master.waitingResponse = true)
      (more : (missCount master).toNat < maxRetry) :
      MasterEffect master
        (retryRequest { master with engine := engine } nowUs).1
        (retryRequest { master with engine := engine } nowUs).2
  /-- The response timeout passes after the last attempt. -/
  | abandoned
      (engine : Rs485Engine) (nowUs : UInt64)
      (waiting : master.waitingResponse = true)
      (inRange : ¬ AwaitingOutOfRange master)
      (exhausted : ¬ (missCount master).toNat < maxRetry) :
      MasterEffect master
        (abandonRequest { master with engine := engine } nowUs).1
        (abandonRequest { master with engine := engine } nowUs).2
  /-- A poll is sent. -/
  | transmitted
      (engine : Rs485Engine) (input : ProcessInput)
      (notWaiting : master.waitingResponse = false) :
      MasterEffect master
        (transmitRequest { master with engine := engine } input).1
        (transmitRequest { master with engine := engine } input).2

/-- The two outcomes of `rs485_master_on_ack`. -/
theorem rs485MasterOnAck_cases
    (master : Rs485Master) (nodeId : UInt8) (msgId : UInt16)
    (nowUs engineUs : UInt64) :
    rs485MasterOnAck master nodeId msgId nowUs engineUs = (false, 0, master) ∨
    (∃ latencyUs,
      rs485MasterOnAck master nodeId msgId nowUs engineUs =
        (true, latencyUs, acceptAck master nodeId nowUs engineUs)) ∧
      master.waitingResponse = true ∧
      nodeId = master.awaitingNode ∧
      msgId = master.currentMsgId ∧
      nodeIndex master.awaitingNode < maxNodes := by
  rw [rs485MasterOnAck]
  split
  · exact Or.inl rfl
  · rename_i waiting
    split
    · exact Or.inl rfl
    · rename_i sameNode
      split
      · exact Or.inl rfl
      · rename_i sameMsg
        split
        · exact Or.inl rfl
        · rename_i inRange
          right
          simp only [ne_eq, Decidable.not_not] at sameNode sameMsg
          subst sameNode
          exact
            ⟨⟨_, rfl⟩, Bool.eq_true_of_not_eq_false waiting, rfl,
              sameMsg, Nat.lt_of_not_ge inRange⟩

theorem ignoreFrame_effect
    (master : Rs485Master) (engine : Rs485Engine) (frame : Rs485Frame) :
    MasterEffect master
      (ignoreFrame { master with engine := engine } frame).1
      (ignoreFrame { master with engine := engine } frame).2 :=
  MasterEffect.quiet engine _ _ rfl rfl rfl

theorem processFrame_effect
    (master : Rs485Master) (engine : Rs485Engine)
    (frame : Rs485Frame) (input : ProcessInput) :
    MasterEffect master
      (processFrame { master with engine := engine } frame input).1
      (processFrame { master with engine := engine } frame input).2 := by
  rw [processFrame]
  split
  · rcases rs485MasterOnAck_cases { master with engine := engine }
      frame.node frame.msgId input.nowUs input.engineUs with
      refused | ⟨⟨latencyUs, accepted⟩, waiting, sameNode, sameMsg, inRange⟩
    · simp only [refused, Bool.false_eq_true, if_false]
      exact ignoreFrame_effect master engine frame
    · simp only [accepted, if_true]
      change frame.node = master.awaitingNode at sameNode
      change frame.msgId = master.currentMsgId at sameMsg
      rw [sameNode, sameMsg]
      exact
        MasterEffect.answered engine input.nowUs input.engineUs latencyUs
          waiting inRange
  · exact ignoreFrame_effect master engine frame

theorem processQuiet_effect
    (master : Rs485Master) (engine : Rs485Engine) (input : ProcessInput) :
    MasterEffect master
      (processQuiet { master with engine := engine } input).1
      (processQuiet { master with engine := engine } input).2 := by
  have nothing :
      MasterEffect master { master with engine := engine }
        MasterOutput.nothing :=
    MasterEffect.quiet engine master.metrics _ rfl rfl rfl
  rw [processQuiet]
  split
  · rename_i waiting
    split
    · split
      · rename_i outOfRange
        exact MasterEffect.recovered engine input.nowUs waiting outOfRange
      · rename_i inRange
        rw [expireRequest]
        split
        · rename_i more
          exact MasterEffect.retried engine input.nowUs waiting more
        · rename_i exhausted
          exact
            MasterEffect.abandoned engine input.nowUs waiting inRange exhausted
    · exact nothing
  · rename_i notWaiting
    split
    · exact nothing
    · exact
        MasterEffect.transmitted engine input
          (Bool.eq_false_of_not_eq_true notWaiting)

theorem masterCall_effect (master : Rs485Master) (action : MasterAction) :
    MasterEffect master (masterCall master action).1
      (masterCall master action).2 := by
  cases action with
  | processOne input =>
      simp only [masterCall, rs485MasterProcessOne, receiveInto]
      split
      · exact MasterEffect.quiet _ _ _ rfl rfl rfl
      · exact processFrame_effect master _ _ input
      · exact processQuiet_effect master _ input
      · exact processQuiet_effect master _ input
  | onAck nodeId msgId nowUs engineUs =>
      simp only [masterCall, acknowledge]
      rcases rs485MasterOnAck_cases master nodeId msgId nowUs engineUs with
        refused |
        ⟨⟨latencyUs, accepted⟩, waiting, rfl, rfl, inRange⟩
      · simp only [refused, Bool.false_eq_true, if_false]
        exact MasterEffect.quiet master.engine master.metrics _ rfl rfl rfl
      · simp only [accepted, if_true]
        exact
          MasterEffect.answered master.engine nowUs engineUs latencyUs
            waiting inRange
  | _ =>
      exact MasterEffect.quiet _ master.metrics _ rfl rfl rfl

/-! ## Refinement of the stop-and-wait machine -/

/-- A poll that may be on the line. -/
def ValidPoll (poll : Poll) : Prop :=
  1 ≤ poll.1.toNat ∧ poll.1.toNat ≤ maxNodes ∧ poll.2 ≠ 0

/-- Only the given node, counted from one, has missed polls. -/
def Missed (nodes : Nat → NodeStatus) (nodeId missed : Nat) : Prop :=
  ∀ index < maxNodes,
    (nodes index).retryCount.toNat =
      if index + 1 = nodeId then missed else 0

/-- The phase that the static variables of the master encode. -/
def InPhase (master : Rs485Master) : Phase Poll → Prop
  | .idle =>
      master.waitingResponse = false ∧ master.retryPending = false ∧
      Missed master.nodes 0 0
  | .waiting poll attempts =>
      master.waitingResponse = true ∧ master.retryPending = false ∧
      (master.awaitingNode, master.currentMsgId) = poll ∧
      ValidPoll poll ∧
      1 ≤ attempts ∧ attempts ≤ maxRetry ∧
      Missed master.nodes poll.1.toNat (attempts - 1)
  | .backoff poll attempts =>
      master.waitingResponse = false ∧ master.retryPending = true ∧
      (master.awaitingNode, master.currentMsgId) = poll ∧
      ValidPoll poll ∧
      1 ≤ attempts ∧ attempts < maxRetry ∧
      Missed master.nodes poll.1.toNat attempts

/-- The master implements a phase of the stop-and-wait machine. -/
structure Refines (master : Rs485Master) (phase : Phase Poll) : Prop where
  counter : master.msgIdCounter ≠ 0
  cursor : master.currentNode.toNat < maxNodes
  inPhase : InPhase master phase

theorem msgId_one_ne_zero : (1 : UInt16) ≠ 0 := by
  decide

theorem rs485MasterInit_refines
    (engine : Rs485Engine) (nodeIdentity : UInt32) (nowUs : UInt64) :
    Refines (rs485MasterInit engine nodeIdentity nowUs) .idle := by
  refine ⟨msgId_one_ne_zero, Nat.zero_lt_succ _, rfl, rfl, ?_⟩
  intro index _
  rw [if_neg (Nat.succ_ne_zero index)]
  rfl

theorem nextMsgId_counter_ne_zero (msgIdCounter : UInt16) :
    (nextMsgId msgIdCounter).2 ≠ 0 := by
  rw [nextMsgId]
  by_cases wraps : msgIdCounter + 1 = 0
  · rw [if_pos wraps]
    exact msgId_one_ne_zero
  · rw [if_neg wraps]
    exact wraps

theorem nodeIndex_eq
    {nodeId : UInt8} (positive : 1 ≤ nodeId.toNat) :
    nodeIndex nodeId = nodeId.toNat - 1 := by
  have one : (1 : UInt8) ≤ nodeId := by
    rw [UInt8.le_iff_toNat_le]
    exact positive
  rw [nodeIndex, UInt8.toNat_sub_of_le _ _ one]
  rfl

theorem missed_update
    {nodes : Nat → NodeStatus} {nodeId missed : Nat}
    (table : Missed nodes nodeId missed)
    (positive : 1 ≤ nodeId) (node : NodeStatus) :
    Missed (Function.update nodes (nodeId - 1) node) nodeId
      node.retryCount.toNat := by
  intro index bound
  by_cases here : index = nodeId - 1
  · subst here
    rw [Function.update_self, if_pos (by omega)]
  · have elsewhere : index + 1 ≠ nodeId := by omega
    have kept := table index bound
    rw [if_neg elsewhere] at kept
    rw [Function.update_of_ne here, kept, if_neg elsewhere]

theorem missed_clear
    {nodes : Nat → NodeStatus} {nodeId : Nat}
    (table : Missed nodes nodeId 0) : Missed nodes 0 0 := by
  intro index bound
  have none := table index bound
  rw [ite_self] at none ⊢
  exact none

variable {master : Rs485Master} {phase : Phase Poll}

theorem Refines.waiting
    (refines : Refines master phase)
    (waiting : master.waitingResponse = true) :
    ∃ attempts,
      phase =
        .waiting (master.awaitingNode, master.currentMsgId) attempts := by
  have inPhase := refines.inPhase
  cases phase with
  | waiting poll attempts =>
      exact ⟨attempts, by rw [inPhase.2.2.1]⟩
  | idle | backoff poll attempts =>
      rw [inPhase.1] at waiting
      cases waiting

variable {attempts : Nat}

theorem acceptAck_refines
    (refines :
      Refines master
        (.waiting (master.awaitingNode, master.currentMsgId) attempts))
    (engine : Rs485Engine) (nowUs engineUs : UInt64) :
    Refines
      (acceptAck { master with engine := engine }
        master.awaitingNode nowUs engineUs) .idle := by
  rcases refines with ⟨counter, cursor, _, _, _, valid, _, _, table⟩
  refine ⟨counter, cursor, rfl, rfl, ?_⟩
  have cleared :=
    missed_update table valid.1
      { master.nodes (nodeIndex master.awaitingNode) with
        online := 1
        retryCount := 0
        lastSeenMs := (nowUs / 1000).toUInt32 }
  change
    Missed (Function.update master.nodes (nodeIndex master.awaitingNode) _) 0 0
  rw [nodeIndex_eq valid.1] at cleared ⊢
  exact missed_clear cleared

theorem missCount_toNat
    (refines :
      Refines master
        (.waiting (master.awaitingNode, master.currentMsgId) attempts)) :
    (missCount master).toNat = attempts := by
  rcases refines.inPhase with ⟨_, _, _, valid, first, bound, table⟩
  have inRange : master.awaitingNode.toNat - 1 < maxNodes := by
    have low := valid.1
    have high := valid.2.1
    simp only at low high
    omega
  have count := table (master.awaitingNode.toNat - 1) inRange
  rw [if_pos (Nat.sub_add_cancel valid.1)] at count
  have small : attempts ≤ 3 := bound
  rw [missCount, UInt8.toNat_add, count, UInt8.toNat_one]
  omega

theorem retryRequest_refines
    (refines :
      Refines master
        (.waiting (master.awaitingNode, master.currentMsgId) attempts))
    (more : attempts < maxRetry)
    (engine : Rs485Engine) (nowUs : UInt64) :
    Refines (retryRequest { master with engine := engine } nowUs).1
      (.backoff (master.awaitingNode, master.currentMsgId) attempts) := by
  have count := missCount_toNat refines
  rcases refines with
    ⟨counter, cursor, _, _, _, valid, first, _, table⟩
  refine ⟨counter, cursor, rfl, rfl, rfl, valid, first, more, ?_⟩
  have updated :=
    missed_update table valid.1
      { master.nodes (master.awaitingNode.toNat - 1) with
        retryCount := missCount master }
  simp only [count] at updated
  exact updated

theorem abandonRequest_refines
    (refines :
      Refines master
        (.waiting (master.awaitingNode, master.currentMsgId) attempts))
    (engine : Rs485Engine) (nowUs : UInt64) :
    Refines (abandonRequest { master with engine := engine } nowUs).1
      .idle := by
  rcases refines with ⟨counter, cursor, _, _, _, valid, _, _, table⟩
  refine ⟨counter, cursor, rfl, rfl, ?_⟩
  have updated :=
    missed_update table valid.1
      { master.nodes (master.awaitingNode.toNat - 1) with
        online := 0
        retryCount := 0 }
  exact missed_clear updated

theorem transmitRequest_fresh
    (refines : Refines master .idle)
    (engine : Rs485Engine) (input : ProcessInput) :
    ∃ poll,
      signalOf
            (transmitRequest { master with engine := engine } input).2 =
          .send poll ∧
        Refines (transmitRequest { master with engine := engine } input).1
          (.waiting poll 1) := by
  rcases refines with ⟨counter, cursor, _, idle, table⟩
  have small : master.currentNode.toNat < 64 := cursor
  have stepped :
      (master.currentNode + 1).toNat = master.currentNode.toNat + 1 := by
    rw [UInt8.toNat_add, UInt8.toNat_one]
    omega
  have missed (nodeId : Nat) : Missed master.nodes nodeId 0 := by
    intro index bound
    have none := table index bound
    rw [ite_self] at none ⊢
    exact none
  unfold transmitRequest chooseRequest
  simp only [idle, Bool.false_eq_true, if_false]
  by_cases selfTest : engine.selfTestEnabled = true
  · simp only [selfTest, if_true]
    refine
      ⟨(selfTestNodeId, master.msgIdCounter), rfl,
        nextMsgId_counter_ne_zero _, cursor, rfl, rfl, rfl,
        ⟨Nat.le_refl 1, Nat.le_add_left 1 63, counter⟩, Nat.le_refl _,
        Nat.le_add_left 1 2, missed _⟩
  · simp only [selfTest, if_false, Bool.false_eq_true]
    refine
      ⟨(master.currentNode + 1, master.msgIdCounter), rfl,
        nextMsgId_counter_ne_zero _, ?_, rfl, rfl, rfl,
        ⟨?_, ?_, counter⟩, Nat.le_refl _, Nat.le_add_left 1 2, missed _⟩
    · change
        (if (master.currentNode + 1).toNat ≥ maxNodes then (0 : UInt8)
          else master.currentNode + 1).toNat < maxNodes
      split
      · exact Nat.zero_lt_succ _
      · omega
    · rw [stepped]
      exact Nat.le_add_left _ _
    · rw [stepped]
      exact small

theorem transmitRequest_again
    {poll : Poll}
    (refines : Refines master (.backoff poll attempts))
    (engine : Rs485Engine) (input : ProcessInput) :
    signalOf
          (transmitRequest { master with engine := engine } input).2 =
        .resend poll ∧
      Refines (transmitRequest { master with engine := engine } input).1
        (.waiting poll (attempts + 1)) := by
  rcases refines with
    ⟨counter, cursor, _, pending, rfl, valid, first, more, table⟩
  unfold transmitRequest chooseRequest
  simp only [pending, if_true]
  exact
    ⟨rfl, counter, cursor, rfl, rfl, rfl, valid, Nat.le_add_left _ _,
      more, table⟩

theorem masterCall_refines
    (refines : Refines master phase) (action : MasterAction) :
    ∃ next,
      Step maxRetry phase (signalOf (masterCall master action).2) next ∧
      Refines (masterCall master action).1 next := by
  have effect := masterCall_effect master action
  revert effect
  generalize (masterCall master action).1 = after
  generalize (masterCall master action).2 = output
  intro effect
  cases effect with
  | quiet engine metrics output uncounted silent unassigned =>
      refine ⟨phase, ?_, refines.counter, refines.cursor, ?_⟩
      · rw [silent]
        exact Step.silent phase
      · exact refines.inPhase
  | answered engine nowUs engineUs latencyUs waiting inRange =>
      rcases refines.waiting waiting with ⟨attempts, rfl⟩
      exact
        ⟨.idle, Step.answer _ _,
          acceptAck_refines refines engine nowUs engineUs⟩
  | recovered engine nowUs waiting outOfRange =>
      rcases refines.waiting waiting with ⟨attempts, rfl⟩
      rcases refines.inPhase with ⟨_, _, _, valid, _⟩
      rcases outOfRange with zero | large
      · have positive := valid.1
        simp [zero] at positive
      · exact (Nat.not_le_of_gt large valid.2.1).elim
  | retried engine nowUs waiting more =>
      rcases refines.waiting waiting with ⟨attempts, rfl⟩
      rw [missCount_toNat refines] at more
      exact
        ⟨_, Step.retry _ _ more, retryRequest_refines refines more engine nowUs⟩
  | abandoned engine nowUs waiting inRange exhausted =>
      rcases refines.waiting waiting with ⟨attempts, rfl⟩
      rw [missCount_toNat refines] at exhausted
      have bound : attempts ≤ maxRetry := refines.inPhase.2.2.2.2.2.1
      have last : attempts = maxRetry := by omega
      subst last
      exact ⟨.idle, Step.expire _, abandonRequest_refines refines engine nowUs⟩
  | transmitted engine input notWaiting =>
      cases phase with
      | idle =>
          rcases transmitRequest_fresh refines engine input with
            ⟨poll, signal, next⟩
          rw [signal]
          exact ⟨_, Step.send poll, next⟩
      | waiting poll attempts =>
          rw [refines.inPhase.1] at notWaiting
          cases notWaiting
      | backoff poll attempts =>
          rcases transmitRequest_again refines engine input with
            ⟨signal, next⟩
          rw [signal]
          exact ⟨_, Step.resend poll attempts, next⟩

/-! ## Facts about one call -/

/-- The counters count the signals, modulo their width. -/
structure Counted
    (metrics : MasterMetrics) (signals : List (Signal Poll)) : Prop where
  tx : metrics.txCount = UInt32.ofNat (transmitted signals).length
  ack : metrics.ackCount = UInt32.ofNat (signals.countP Signal.isAnswer)
  retry : metrics.retryCount = UInt32.ofNat (signals.countP Signal.isRetry)
  timeout : metrics.timeoutCount = UInt32.ofNat (signals.countP Signal.isExpire)

theorem Counted.extend
    {metrics next : MasterMetrics} {signals : List (Signal Poll)}
    (counted : Counted metrics signals) (signal : Signal Poll)
    (tx :
      next.txCount =
        metrics.txCount + UInt32.ofNat (transmitted [signal]).length)
    (ack :
      next.ackCount =
        metrics.ackCount + UInt32.ofNat ([signal].countP Signal.isAnswer))
    (retry :
      next.retryCount =
        metrics.retryCount + UInt32.ofNat ([signal].countP Signal.isRetry))
    (timeout :
      next.timeoutCount =
        metrics.timeoutCount + UInt32.ofNat ([signal].countP Signal.isExpire)) :
    Counted next (signals ++ [signal]) := by
  constructor
  · rw [tx, counted.tx, transmitted, transmitted, transmitted,
      List.filterMap_append, List.length_append, UInt32.ofNat_add]
  · rw [ack, counted.ack, List.countP_append, UInt32.ofNat_add]
  · rw [retry, counted.retry, List.countP_append, UInt32.ofNat_add]
  · rw [timeout, counted.timeout, List.countP_append, UInt32.ofNat_add]

theorem chooseRequest_frame (master : Rs485Master) :
    (chooseRequest master).2.2.2.nodes = master.nodes ∧
    ∀ msgId,
      (chooseRequest master).2.2.1 = some msgId →
      msgId = master.msgIdCounter := by
  rw [chooseRequest]
  split
  · exact ⟨rfl, fun msgId equal => by cases equal⟩
  · refine ⟨rfl, ?_⟩
    intro msgId equal
    exact (Option.some.inj equal).symm

theorem transmitRequest_signal
    (master : Rs485Master) (input : ProcessInput) :
    ∃ poll,
      signalOf (transmitRequest master input).2 = .send poll ∨
      signalOf (transmitRequest master input).2 = .resend poll := by
  refine ⟨(transmitRequest master input).2.event.poll, ?_⟩
  by_cases fresh : (transmitRequest master input).2.assigned.isSome = true
  · left
    exact if_pos fresh
  · right
    exact if_neg fresh

variable {after : Rs485Master} {output : MasterOutput}

theorem MasterEffect.counted
    (effect : MasterEffect master after output)
    {signals : List (Signal Poll)}
    (counted : Counted master.metrics signals) :
    Counted after.metrics (signals ++ [signalOf output]) := by
  have same (count : UInt32) : count = count + UInt32.ofNat 0 :=
    (UInt32.add_zero count).symm
  cases effect with
  | quiet engine metrics output uncounted silent unassigned =>
      rw [silent]
      simp only [counters, Prod.mk.injEq] at uncounted
      rcases uncounted with ⟨tx, ack, retry, timeout⟩
      exact
        counted.extend .silent (tx.trans (same _)) (ack.trans (same _))
          (retry.trans (same _)) (timeout.trans (same _))
  | answered engine nowUs engineUs latencyUs waiting inRange =>
      exact counted.extend (.answer _) (same _) rfl (same _) (same _)
  | recovered engine nowUs waiting outOfRange =>
      exact counted.extend .silent (same _) (same _) (same _) (same _)
  | retried engine nowUs waiting more =>
      exact counted.extend (.retry _) (same _) (same _) rfl (same _)
  | abandoned engine nowUs waiting inRange exhausted =>
      exact counted.extend (.expire _) (same _) (same _) (same _) rfl
  | transmitted engine input notWaiting =>
      rcases transmitRequest_signal { master with engine := engine } input
        with ⟨poll, signal | signal⟩
      · rw [signal]
        exact counted.extend (.send poll) rfl (same _) (same _) (same _)
      · rw [signal]
        exact counted.extend (.resend poll) rfl (same _) (same _) (same _)

theorem MasterEffect.online
    (effect : MasterEffect master after output) (index : Nat)
    (wasOnline : (master.nodes index).online ≠ 0)
    (cleared : (after.nodes index).online = 0) :
    output.event.type = .timeout ∧
    output.event.nodeId.toNat = index + 1 := by
  cases effect with
  | answered engine nowUs engineUs latencyUs waiting inRange =>
      by_cases here : index = nodeIndex master.awaitingNode
      · subst here
        change (Function.update master.nodes _ _ _).online = 0 at cleared
        rw [Function.update_self] at cleared
        exact (UInt8.zero_ne_one cleared.symm).elim
      · change (Function.update master.nodes _ _ _).online = 0 at cleared
        rw [Function.update_of_ne here] at cleared
        exact (wasOnline cleared).elim
  | retried engine nowUs waiting more =>
      change (Function.update master.nodes _ _ _).online = 0 at cleared
      by_cases here : index = master.awaitingNode.toNat - 1
      · subst here
        rw [Function.update_self] at cleared
        exact (wasOnline cleared).elim
      · rw [Function.update_of_ne here] at cleared
        exact (wasOnline cleared).elim
  | abandoned engine nowUs waiting inRange exhausted =>
      by_cases here : index = master.awaitingNode.toNat - 1
      · refine ⟨rfl, ?_⟩
        change master.awaitingNode.toNat = index + 1
        have positive : master.awaitingNode.toNat ≠ 0 := by
          intro zero
          apply inRange
          exact Or.inl (UInt8.toNat_inj.mp zero)
        omega
      · change (Function.update master.nodes _ _ _).online = 0 at cleared
        rw [Function.update_of_ne here] at cleared
        exact (wasOnline cleared).elim
  | transmitted engine input notWaiting =>
      have kept := (chooseRequest_frame { master with engine := engine }).1
      change
        ((chooseRequest { master with engine := engine }).2.2.2.nodes
          index).online = 0 at cleared
      rw [kept] at cleared
      exact (wasOnline cleared).elim
  | _ =>
      exact (wasOnline cleared).elim

theorem MasterEffect.assigned
    (effect : MasterEffect master after output) {msgId : UInt16}
    (given : output.assigned = some msgId) :
    msgId = master.msgIdCounter := by
  cases effect with
  | quiet engine metrics output uncounted silent unassigned =>
      rw [unassigned] at given
      cases given
  | transmitted engine input notWaiting =>
      exact (chooseRequest_frame { master with engine := engine }).2 msgId given
  | _ =>
      cases given

theorem MasterEffect.ack
    (effect : MasterEffect master after output)
    (taken : output.event.type = .ack) :
    master.waitingResponse = true ∧
    output.event.nodeId = master.awaitingNode ∧
    output.event.msgId = master.currentMsgId := by
  cases effect with
  | quiet engine metrics output uncounted silent unassigned =>
      simp only [signalOf, taken] at silent
      cases silent
  | answered engine nowUs engineUs latencyUs waiting inRange =>
      exact ⟨waiting, rfl, rfl⟩
  | _ =>
      cases taken

/-! ## Timeouts -/

/-- The call finds the response timeout of the outstanding poll passed. -/
def Expires (master : Rs485Master) (input : ProcessInput) : Prop :=
  (receiveInto master input).2.result ≠ .frame ∧
  (receiveInto master input).2.result ≠ .crcError ∧
  master.waitingResponse = true ∧
  TimedOut master input.nowUs

theorem processFrame_not_timeout
    (master : Rs485Master) (frame : Rs485Frame) (input : ProcessInput) :
    (processFrame master frame input).2.event.type ≠ .timeout := by
  rw [processFrame]
  split
  · rcases rs485MasterOnAck_cases master frame.node frame.msgId
      input.nowUs input.engineUs with
      refused | ⟨⟨latencyUs, accepted⟩, _⟩
    · simp only [refused, Bool.false_eq_true, if_false]
      intro timeout
      cases timeout
    · simp only [accepted, if_true]
      intro timeout
      cases timeout
  · intro timeout
    cases timeout

theorem processQuiet_timeout_iff
    (refines : Refines master phase)
    {since : List (Signal Poll)}
    (accounts : Accounts maxRetry since phase) (input : ProcessInput) :
    (processQuiet master input).2.event.type = .timeout ↔
    (master.waitingResponse = true ∧ TimedOut master input.nowUs) ∧
    (transmitted since).length = maxRetry ∧ Unanswered since := by
  rw [processQuiet]
  by_cases waiting : master.waitingResponse = true
  · rw [if_pos waiting]
    rcases refines.waiting waiting with ⟨attempts, rfl⟩
    rcases accounts with ⟨sent, _, bound, unanswered⟩
    have count := missCount_toNat refines
    rcases refines.inPhase with ⟨_, _, _, valid, _⟩
    have inRange : ¬ AwaitingOutOfRange master := by
      rintro (zero | large)
      · have positive := valid.1
        simp [zero] at positive
      · exact Nat.not_le_of_gt large valid.2.1
    rw [sent, List.length_replicate]
    by_cases timedOut : TimedOut master input.nowUs
    · rw [if_pos timedOut, if_neg inRange, expireRequest, count]
      by_cases more : attempts < maxRetry
      · rw [if_pos more]
        constructor
        · intro timeout
          cases timeout
        · rintro ⟨_, last, _⟩
          exact (Nat.ne_of_lt more last).elim
      · rw [if_neg more]
        constructor
        · intro _
          exact ⟨⟨waiting, timedOut⟩, by omega, unanswered⟩
        · intro _
          rfl
    · rw [if_neg timedOut]
      constructor
      · intro timeout
        cases timeout
      · rintro ⟨⟨_, passed⟩, _⟩
        exact (timedOut passed).elim
  · rw [if_neg waiting]
    constructor
    · intro timeout
      split at timeout
      · cases timeout
      · cases timeout
    · rintro ⟨⟨isWaiting, _⟩, _⟩
      exact (waiting isWaiting).elim

theorem processOne_timeout_iff
    (refines : Refines master phase)
    {since : List (Signal Poll)}
    (accounts : Accounts maxRetry since phase) (input : ProcessInput) :
    (rs485MasterProcessOne master input).2.event.type = .timeout ↔
    Expires master input ∧
    (transmitted since).length = maxRetry ∧ Unanswered since := by
  have received : Refines (receiveInto master input).1 phase :=
    ⟨refines.counter, refines.cursor, refines.inPhase⟩
  have quiet := processQuiet_timeout_iff received accounts input
  cases result : (receiveInto master input).2.result with
  | crcError =>
      simp [rs485MasterProcessOne, Expires, result, MasterOutput.reports]
  | frame =>
      simp [rs485MasterProcessOne, Expires, result, processFrame_not_timeout]
  | none | formatError =>
      simp only [rs485MasterProcessOne, Expires, result, quiet]
      simp [receiveInto, TimedOut]

/-! ## Whole runs -/

theorem masterCall_run
    {start : Rs485Master} (idle : Refines start .idle)
    (zero : Counted start.metrics []) (actions : List MasterAction) :
    ∃ phase,
      Path maxRetry (signals (Run.history masterCall start actions)) phase ∧
      Refines (Run.final masterCall start actions) phase ∧
      Counted (Run.final masterCall start actions).metrics
        (signals (Run.history masterCall start actions)) := by
  refine
    Run.history_induction
      (motive := fun past state =>
        ∃ phase,
          Path maxRetry (signals past) phase ∧
          Refines state phase ∧ Counted state.metrics (signals past))
      ⟨.idle, Path.empty, idle, zero⟩ ?_ actions
  rintro past state action ⟨phase, path, refines, counted⟩
  rcases masterCall_refines refines action with ⟨next, step, nextRefines⟩
  have extended := (masterCall_effect state action).counted counted
  simp only [signals, List.map_append, List.map_singleton]
  exact ⟨next, path.extend step, nextRefines, extended⟩

/-- The polling protocol, for a history and the state it leads to. -/
structure PollingProtocol
    (past : List MasterTransition) (state : Rs485Master) : Prop where
  /-- The master never waits for a response and for a backoff. -/
  exclusive : ¬ (state.waitingResponse = true ∧ state.retryPending = true)
  /-- An outstanding poll has a node of the bus and a nonzero id. -/
  outstanding :
    state.waitingResponse = true ∨ state.retryPending = true →
    1 ≤ state.awaitingNode.toNat ∧
    state.awaitingNode.toNat ≤ maxNodes ∧ state.currentMsgId ≠ 0
  /-- Only the awaited node has a retry count. -/
  retryElsewhere :
    ∀ index < maxNodes,
      index + 1 ≠ state.awaitingNode.toNat → (state.nodes index).retryCount = 0
  /-- The id zero is never given out. -/
  assignedNonzero :
    ∀ transition ∈ past, ∀ msgId,
      transition.output.assigned = some msgId → msgId ≠ 0
  /-- An acknowledgement is taken only for the outstanding poll. -/
  ackOutstanding :
    ∀ transition ∈ past,
      transition.output.event.type = .ack →
      transition.before.waitingResponse = true ∧
      transition.output.event.nodeId = transition.before.awaitingNode ∧
      transition.output.event.msgId = transition.before.currentMsgId
  /-- Since its id was given out, a poll is sent at most three times. -/
  attempts : (transmitted (sinceSend (signals past))).length ≤ maxRetry
  /-- What was sent since then is the outstanding poll. -/
  samePoll :
    state.waitingResponse = true ∨ state.retryPending = true →
    ∀ poll ∈ transmitted (sinceSend (signals past)),
      poll = (state.awaitingNode, state.currentMsgId)
  /-- A timeout is the expiry of the last of the unanswered attempts. -/
  timeoutExactly :
    ∀ input,
      (rs485MasterProcessOne state input).2.event.type = .timeout ↔
      Expires state input ∧
      (transmitted (sinceSend (signals past))).length = maxRetry ∧
      Unanswered (sinceSend (signals past))
  /-- Nothing but a timeout clears an online flag. -/
  onlineCleared :
    ∀ transition ∈ past, ∀ index < maxNodes,
      (transition.before.nodes index).online ≠ 0 →
      (transition.after.nodes index).online = 0 →
      transition.output.event.type = .timeout ∧
      transition.output.event.nodeId.toNat = index + 1
  /-- The recovery branch is never taken. -/
  recoveryUnreachable :
    state.waitingResponse = true → ¬ AwaitingOutOfRange state
  /-- Every transmission is acknowledged, missed or still awaited. -/
  balance :
    state.metrics.txCount =
      state.metrics.ackCount + state.metrics.retryCount +
        state.metrics.timeoutCount +
        (if state.waitingResponse = true then 1 else 0)

theorem Refines.outstanding
    (refines : Refines master phase)
    (active : master.waitingResponse = true ∨ master.retryPending = true) :
    ValidPoll (master.awaitingNode, master.currentMsgId) := by
  have inPhase := refines.inPhase
  cases phase with
  | idle =>
      rw [inPhase.1, inPhase.2.1] at active
      simp at active
  | waiting poll attempts | backoff poll attempts =>
      rw [inPhase.2.2.1]
      exact inPhase.2.2.2.1

theorem Refines.retryElsewhere
    (refines : Refines master phase)
    {index : Nat} (bound : index < maxNodes)
    (elsewhere : index + 1 ≠ master.awaitingNode.toNat) :
    (master.nodes index).retryCount = 0 := by
  have inPhase := refines.inPhase
  apply UInt8.toNat_inj.mp
  cases phase with
  | idle =>
      have none := inPhase.2.2 index bound
      rw [ite_self] at none
      exact none
  | waiting poll attempts | backoff poll attempts =>
      rcases inPhase with ⟨_, _, rfl, _, _, _, table⟩
      have none := table index bound
      rw [if_neg elsewhere] at none
      exact none

theorem Refines.onLine
    (refines : Refines master phase) :
    UInt32.ofNat (onLine phase) =
      if master.waitingResponse = true then 1 else 0 := by
  have inPhase := refines.inPhase
  cases phase with
  | idle | waiting poll attempts | backoff poll attempts =>
      rw [inPhase.1]
      rfl

/--
The polling protocol holds after every sequence of calls, whatever is
received and whatever the clock shows.
-/
theorem master_polling_protocol
    (engine : Rs485Engine) (nodeIdentity : UInt32) (nowUs : UInt64)
    (actions : List MasterAction) :
    PollingProtocol
      (Run.history masterCall
        (rs485MasterInit engine nodeIdentity nowUs) actions)
      (Run.final masterCall
        (rs485MasterInit engine nodeIdentity nowUs) actions) := by
  have idle := rs485MasterInit_refines engine nodeIdentity nowUs
  rcases masterCall_run idle ⟨rfl, rfl, rfl, rfl⟩ actions with
    ⟨phase, path, refines, counted⟩
  have accounts := path.accounts (Nat.le_add_left 1 2)
  have everywhere :
      ∀ transition ∈
          Run.history masterCall
            (rs485MasterInit engine nodeIdentity nowUs) actions,
        (∃ before, Refines transition.before before) ∧
        MasterEffect transition.before transition.after
          transition.output := by
    intro transition member
    rcases Run.history_invariant
      (fun state => ∃ before, Refines state before)
      ⟨.idle, idle⟩
      (fun state action holds => by
        rcases holds with ⟨before, holds⟩
        rcases masterCall_refines holds action with ⟨next, _, after⟩
        exact ⟨next, after⟩)
      member with ⟨refined, isCall⟩
    refine ⟨refined, ?_⟩
    rw [isCall]
    exact masterCall_effect _ _
  exact
    { exclusive := by
        rintro ⟨waiting, pending⟩
        rcases refines.waiting waiting with ⟨attempts, rfl⟩
        rw [refines.inPhase.2.1] at pending
        cases pending
      outstanding := refines.outstanding
      retryElsewhere := fun index bound elsewhere =>
        refines.retryElsewhere bound elsewhere
      assignedNonzero := by
        intro transition member msgId given
        rcases everywhere transition member with ⟨⟨before, holds⟩, effect⟩
        rw [effect.assigned given]
        exact holds.counter
      ackOutstanding := by
        intro transition member taken
        exact (everywhere transition member).2.ack taken
      attempts := path.transmitted_le (Nat.le_add_left 1 2)
      samePoll := by
        intro active poll member
        have inPhase := refines.inPhase
        cases phase with
        | idle =>
            rw [inPhase.1, inPhase.2.1] at active
            simp at active
        | waiting request attempts | backoff request attempts =>
            rw [accounts.1] at member
            rw [inPhase.2.2.1]
            exact List.eq_of_mem_replicate member
      timeoutExactly := processOne_timeout_iff refines accounts
      onlineCleared := by
        intro transition member index _ wasOnline cleared
        exact (everywhere transition member).2.online index wasOnline cleared
      recoveryUnreachable := by
        rintro waiting (zero | large)
        · have valid := refines.outstanding (Or.inl waiting)
          have positive := valid.1
          simp [zero] at positive
        · have valid := refines.outstanding (Or.inl waiting)
          exact Nat.not_le_of_gt large valid.2.1
      balance := by
        rw [counted.tx, counted.ack, counted.retry, counted.timeout,
          path.balance, ← refines.onLine, UInt32.ofNat_add,
          UInt32.ofNat_add, UInt32.ofNat_add] }

end Endap.Rs485.Master
