import Endap.Library.Run

/-!
# Queues that drop

Records arrive at a queue of limited capacity and are kept or dropped; records
are taken from its front.  What is taken, followed by what still waits, is what
was kept, in order and each record once.
-/

namespace Endap.Library.BoundedQueue

variable {Record : Type*}

/-- The records that arrive, each with whether it is kept, and the records that
are taken. -/
structure Traffic (Record : Type*) where
  arrived : List (Record × Bool)
  taken : List Record

/-- The records that are kept. -/
def kept (arrived : List (Record × Bool)) : List Record :=
  (arrived.filter Prod.snd).map Prod.fst

/-- How many records are dropped. -/
def dropped (arrived : List (Record × Bool)) : Nat :=
  arrived.countP fun arrival => !arrival.2

theorem kept_append (first second : List (Record × Bool)) :
    kept (first ++ second) = kept first ++ kept second := by
  rw [kept, List.filter_append, List.map_append]
  rfl

theorem dropped_append (first second : List (Record × Bool)) :
    dropped (first ++ second) = dropped first + dropped second :=
  List.countP_append

/-- Every record is kept or dropped. -/
theorem kept_add_dropped (arrived : List (Record × Bool)) :
    (kept arrived).length + dropped arrived = arrived.length := by
  have parts := List.length_eq_countP_add_countP Prod.snd (l := arrived)
  rw [kept, List.length_map, ← List.countP_eq_length_filter, dropped]
  simpa using parts.symm

/-- What the traffic does to the records that wait. -/
def Serves (before : List Record) (traffic : Traffic Record)
    (after : List Record) : Prop :=
  before ++ kept traffic.arrived = traffic.taken ++ after

/-- The traffic of several calls. -/
def combined (calls : List (Traffic Record)) : Traffic Record where
  arrived := calls.flatMap Traffic.arrived
  taken := calls.flatMap Traffic.taken

theorem Serves.idle (waiting : List Record) :
    Serves waiting (combined []) waiting :=
  List.append_nil waiting

theorem combined_concat_arrived (calls : List (Traffic Record))
    (traffic : Traffic Record) :
    (combined (calls ++ [traffic])).arrived =
      (combined calls).arrived ++ traffic.arrived := by
  simp [combined]

theorem combined_concat_taken (calls : List (Traffic Record))
    (traffic : Traffic Record) :
    (combined (calls ++ [traffic])).taken =
      (combined calls).taken ++ traffic.taken := by
  simp [combined]

theorem Serves.concat
    {before middle after : List Record} {calls : List (Traffic Record)}
    {traffic : Traffic Record}
    (earlier : Serves before (combined calls) middle)
    (last : Serves middle traffic after) :
    Serves before (combined (calls ++ [traffic])) after := by
  rw [Serves] at earlier last ⊢
  rw [combined_concat_arrived, combined_concat_taken, kept_append,
    ← List.append_assoc, earlier, List.append_assoc, last,
    List.append_assoc]

/-- A component whose calls serve the records that wait in it serves them over
every run. -/
theorem serves_run {State Action : Type*}
    {component : State → Action → State × Traffic Record}
    (waiting : State → List Record)
    (call :
      ∀ state action,
        Serves (waiting state) (component state action).2
          (waiting (component state action).1))
    (start : State) (actions : List Action) :
    Serves (waiting start)
      (combined
        ((Run.history component start actions).map Run.Transition.output))
      (waiting (Run.final component start actions)) := by
  refine
    Run.history_induction
      (motive := fun past state =>
        Serves (waiting start) (combined (past.map Run.Transition.output))
          (waiting state))
      (Serves.idle _) ?_ actions
  intro past state action served
  rw [List.map_append]
  exact served.concat (call state action)

/-- A record is dropped exactly when the queue is full; nothing is taken in
between. -/
def DropsWhenFull (capacity : Nat) (waiting : List Record)
    (arrived : List (Record × Bool)) : Prop :=
  ∀ earlier record isKept later,
    arrived = earlier ++ (record, isKept) :: later →
    (isKept = false ↔ (waiting ++ kept earlier).length = capacity)

theorem DropsWhenFull.nil (capacity : Nat) (waiting : List Record) :
    DropsWhenFull capacity waiting [] := by
  intro earlier record isKept later parts
  cases earlier <;> cases parts

/-- One more record in front. -/
theorem DropsWhenFull.cons
    {capacity : Nat} {waiting : List Record} {record : Record}
    {isKept : Bool} {rest : List (Record × Bool)}
    (first : isKept = false ↔ waiting.length = capacity)
    (later : DropsWhenFull capacity (waiting ++ kept [(record, isKept)]) rest) :
    DropsWhenFull capacity waiting ((record, isKept) :: rest) := by
  intro earlier other otherKept others parts
  cases earlier with
  | nil =>
      cases parts
      rw [kept, List.filter_nil, List.map_nil, List.append_nil]
      exact first
  | cons arrival earlier =>
      cases parts
      have atOther := later earlier other otherKept others rfl
      rwa [List.append_assoc, ← kept_append] at atOther

end Endap.Library.BoundedQueue
