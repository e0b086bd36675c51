import Mathlib.Data.List.Induction
import Mathlib.Tactic.Common

/-!
# Stop-and-wait with a bounded number of attempts

A requester has at most one request outstanding.  It sends a request and
waits; the request is answered, or the wait expires.  After an expiry the
same request is sent again, until a fixed number of attempts is used up and
the request is given up.

The machine below states this protocol over an arbitrary type of requests.
Its paths say what the sequence of signals of any implementation looks like:
how often one request is sent, when it is given up, and how the numbers of
signals of each kind add up.
-/

namespace Endap.Library.StopAndWait

variable {Request : Type*}

/-- What the requester is doing, with the attempts made so far. -/
inductive Phase (Request : Type*) where
  | idle
  | waiting (request : Request) (attempts : Nat)
  | backoff (request : Request) (attempts : Nat)

/-- What one step of the requester shows to the outside. -/
inductive Signal (Request : Type*) where
  | silent
  | send (request : Request)
  | resend (request : Request)
  | answer (request : Request)
  | retry (request : Request)
  | expire (request : Request)

/-- The signal puts a request on the line. -/
def Signal.transmits : Signal Request → Option Request
  | .send request => some request
  | .resend request => some request
  | _ => none

/-- The signal starts a new request. -/
def Signal.isSend : Signal Request → Bool
  | .send _ => true
  | _ => false

/-- The signal takes an answer. -/
def Signal.isAnswer : Signal Request → Bool
  | .answer _ => true
  | _ => false

/-- The signal ends a wait and keeps the request. -/
def Signal.isRetry : Signal Request → Bool
  | .retry _ => true
  | _ => false

/-- The signal ends a wait and gives the request up. -/
def Signal.isExpire : Signal Request → Bool
  | .expire _ => true
  | _ => false

/-- The steps of the protocol with `limit` attempts for each request. -/
inductive Step (limit : Nat) :
    Phase Request → Signal Request → Phase Request → Prop where
  | silent (phase : Phase Request) : Step limit phase .silent phase
  | send (request : Request) :
      Step limit .idle (.send request) (.waiting request 1)
  | resend (request : Request) (attempts : Nat) :
      Step limit (.backoff request attempts) (.resend request)
        (.waiting request (attempts + 1))
  | answer (request : Request) (attempts : Nat) :
      Step limit (.waiting request attempts) (.answer request) .idle
  | retry (request : Request) (attempts : Nat) (more : attempts < limit) :
      Step limit (.waiting request attempts) (.retry request)
        (.backoff request attempts)
  | expire (request : Request) :
      Step limit (.waiting request limit) (.expire request) .idle

/-- Finite executions, extended at their end. -/
inductive Path (limit : Nat) :
    List (Signal Request) → Phase Request → Prop where
  | empty : Path limit [] .idle
  | extend
      {signals : List (Signal Request)} {before after : Phase Request}
      {signal : Signal Request}
      (path : Path limit signals before)
      (step : Step limit before signal after) :
      Path limit (signals ++ [signal]) after

/-! ## The signals of the last request -/

/-- Extend the signals of the last request by one more signal. -/
def extendRequest
    (since : List (Signal Request)) (signal : Signal Request) :
    List (Signal Request) :=
  if signal.isSend then [signal] else since ++ [signal]

/-- The signals from the last fresh request on. -/
def sinceSend (signals : List (Signal Request)) : List (Signal Request) :=
  signals.foldl extendRequest []

@[simp]
theorem sinceSend_snoc
    (signals : List (Signal Request)) (signal : Signal Request) :
    sinceSend (signals ++ [signal]) =
      extendRequest (sinceSend signals) signal := by
  simp [sinceSend]

/-- The requests that a list of signals puts on the line. -/
def transmitted (signals : List (Signal Request)) : List Request :=
  signals.filterMap Signal.transmits

/-- No signal of the list takes an answer. -/
def Unanswered (signals : List (Signal Request)) : Prop :=
  ∀ signal ∈ signals, signal.isAnswer = false

/-- What the signals of the last request say about the phase. -/
def Accounts (limit : Nat) (since : List (Signal Request)) :
    Phase Request → Prop
  | .idle => (transmitted since).length ≤ limit
  | .waiting request attempts =>
      transmitted since = List.replicate attempts request ∧
      1 ≤ attempts ∧ attempts ≤ limit ∧ Unanswered since
  | .backoff request attempts =>
      transmitted since = List.replicate attempts request ∧
      1 ≤ attempts ∧ attempts < limit ∧ Unanswered since

theorem transmitted_snoc_none
    {since : List (Signal Request)} {signal : Signal Request}
    (nothing : signal.transmits = none) :
    transmitted (since ++ [signal]) = transmitted since := by
  simp [transmitted, nothing]

theorem transmitted_snoc_some
    {since : List (Signal Request)} {signal : Signal Request}
    {request : Request} (sent : signal.transmits = some request) :
    transmitted (since ++ [signal]) = transmitted since ++ [request] := by
  simp [transmitted, sent]

theorem Unanswered.snoc
    {since : List (Signal Request)} (unanswered : Unanswered since)
    {signal : Signal Request} (unsigned : signal.isAnswer = false) :
    Unanswered (since ++ [signal]) := by
  intro other member
  rcases List.mem_append.mp member with earlier | last
  · exact unanswered other earlier
  · rw [List.mem_singleton.mp last]
    exact unsigned

variable {limit : Nat}

/-- One step keeps the account of the last request. -/
theorem Step.accounts
    {before after : Phase Request}
    {signal : Signal Request} {since : List (Signal Request)}
    (step : Step limit before signal after)
    (positive : 1 ≤ limit)
    (accounts : Accounts limit since before) :
    Accounts limit (extendRequest since signal) after := by
  cases step with
  | silent =>
      have same :
          transmitted (since ++ [(.silent : Signal Request)]) =
            transmitted since :=
        transmitted_snoc_none rfl
      cases before with
      | idle =>
          change (transmitted (since ++ [.silent])).length ≤ limit
          rw [same]
          exact accounts
      | waiting request attempts | backoff request attempts =>
          rcases accounts with ⟨sent, first, bound, unanswered⟩
          exact ⟨same.trans sent, first, bound, unanswered.snoc rfl⟩
  | send request =>
      refine ⟨rfl, Nat.le_refl _, positive, ?_⟩
      intro other member
      rw [List.mem_singleton.mp member]
      rfl
  | resend request attempts =>
      rcases accounts with ⟨sent, first, bound, unanswered⟩
      refine ⟨?_, Nat.le_add_left _ _, bound, unanswered.snoc rfl⟩
      rw [List.replicate_succ', ← sent]
      exact transmitted_snoc_some rfl
  | answer request attempts =>
      rcases accounts with ⟨sent, _, bound, _⟩
      change (transmitted (since ++ [.answer request])).length ≤ limit
      rw [transmitted_snoc_none rfl, sent, List.length_replicate]
      exact bound
  | retry request attempts more =>
      rcases accounts with ⟨sent, first, _, unanswered⟩
      exact
        ⟨(transmitted_snoc_none rfl).trans sent, first, more,
          unanswered.snoc rfl⟩
  | expire request =>
      rcases accounts with ⟨sent, _, _, _⟩
      have count :
          (transmitted (since ++ [.expire request])).length = limit := by
        rw [transmitted_snoc_none rfl, sent, List.length_replicate]
      exact Nat.le_of_eq count

/-- The account of the last request holds along every execution. -/
theorem Path.accounts
    {signals : List (Signal Request)}
    {phase : Phase Request}
    (positive : 1 ≤ limit) (path : Path limit signals phase) :
    Accounts limit (sinceSend signals) phase := by
  induction path with
  | empty => exact Nat.zero_le _
  | extend path step induction =>
      rw [sinceSend_snoc]
      exact step.accounts positive induction

/-- No request is put on the line more often than the limit. -/
theorem Path.transmitted_le
    {signals : List (Signal Request)}
    {phase : Phase Request}
    (positive : 1 ≤ limit) (path : Path limit signals phase) :
    (transmitted (sinceSend signals)).length ≤ limit := by
  have accounts := path.accounts positive
  cases phase with
  | idle => exact accounts
  | waiting request attempts =>
      rw [accounts.1, List.length_replicate]
      exact accounts.2.2.1
  | backoff request attempts =>
      rw [accounts.1, List.length_replicate]
      exact Nat.le_of_lt accounts.2.2.1

/-! ## How the signals add up -/

/-- One while a request is on the line. -/
def onLine : Phase Request → Nat
  | .waiting _ _ => 1
  | _ => 0

/-- Every transmission is answered, missed, or still on the line. -/
theorem Path.balance
    {signals : List (Signal Request)}
    {phase : Phase Request} (path : Path limit signals phase) :
    (transmitted signals).length =
      signals.countP Signal.isAnswer + signals.countP Signal.isRetry +
        signals.countP Signal.isExpire + onLine phase := by
  induction path with
  | empty => rfl
  | extend path step induction =>
      simp only [transmitted, List.filterMap_append, List.length_append,
        List.countP_append] at induction ⊢
      rw [induction]
      cases step with
      | answer request attempts =>
          change _ + 1 + 0 = _ + 1 + (_ + 0) + (_ + 0) + 0
          omega
      | retry request attempts more =>
          change _ + 1 + 0 = _ + 0 + (_ + 1) + (_ + 0) + 0
          omega
      | expire request =>
          change _ + 1 + 0 = _ + 0 + (_ + 0) + (_ + 1) + 0
          omega
      | _ => rfl

end Endap.Library.StopAndWait
