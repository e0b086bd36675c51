import Mathlib.Data.List.Basic

/-!
# Sweeps over a table

A sweep visits the records of a table from first to last.  Each visit reads
and changes one record and a state that all visits share; it never touches
another record.

What is proved of one visit holds of the whole sweep: an invariant of the
shared state is kept, and what happens in a sweep has its cause in one of the
visits.

A loop over the positions of a table may keep a part of its state for each
position, as a bit of a mask.  When each round changes the part of its own
position only, the loop does to each part what its own round does.
-/

namespace Endap.Library.Sweep

variable {Shared Record : Type*}

/-- Visit every record, passing the shared state along. -/
def run (visit : Shared → Record → Shared × Record) :
    Shared → List Record → Shared × List Record
  | shared, [] => (shared, [])
  | shared, record :: rest =>
      let here := visit shared record
      let later := run visit here.1 rest
      (later.1, here.2 :: later.2)

/-- The shared state and the record found by each visit. -/
def visits (visit : Shared → Record → Shared × Record) :
    Shared → List Record → List (Shared × Record)
  | _, [] => []
  | shared, record :: rest =>
      (shared, record) :: visits visit (visit shared record).1 rest

variable {visit : Shared → Record → Shared × Record}

theorem run_length (shared : Shared) (records : List Record) :
    (run visit shared records).2.length = records.length := by
  induction records generalizing shared with
  | nil => rfl
  | cons record rest induction =>
      exact congrArg Nat.succ (induction _)

/-- A sweep visits the records of the table. -/
theorem mem_of_mem_visits
    {shared : Shared} {records : List Record} {found : Shared × Record}
    (member : found ∈ visits visit shared records) :
    found.2 ∈ records := by
  induction records generalizing shared with
  | nil => cases member
  | cons record rest induction =>
      rcases List.mem_cons.mp member with rfl | later
      · exact List.mem_cons_self ..
      · exact List.mem_cons_of_mem _ (induction later)

/-- A sweep goes along with a fold over parts of the records, if each visit
goes along with a step. -/
theorem run_fold
    {Part Model : Type*} (part : Record → Part)
    (step : Model → Part → Model) (related : Shared → Model → Prop)
    (kept :
      ∀ shared model record,
        related shared model →
        related (visit shared record).1 (step model (part record)))
    {shared : Shared} {model : Model} (holds : related shared model)
    (records : List Record) :
    related (run visit shared records).1
      ((records.map part).foldl step model) := by
  induction records generalizing shared model with
  | nil => exact holds
  | cons record rest induction =>
      exact induction (kept shared model record holds)

/-- What no visit changes in a record, no sweep changes in the table. -/
theorem run_map
    {Part : Type*} (part : Record → Part)
    (kept : ∀ shared record, part (visit shared record).2 = part record)
    (shared : Shared) (records : List Record) :
    (run visit shared records).2.map part = records.map part := by
  induction records generalizing shared with
  | nil => rfl
  | cons record rest induction =>
      exact congrArg₂ List.cons (kept shared record) (induction _)

/-- An invariant of the shared state is kept by a sweep. -/
theorem run_invariant
    (invariant : Shared → Prop)
    (kept :
      ∀ shared record, invariant shared → invariant (visit shared record).1)
    {shared : Shared} (holds : invariant shared)
    (records : List Record) :
    invariant (run visit shared records).1 := by
  induction records generalizing shared with
  | nil => exact holds
  | cons record rest induction =>
      exact induction (kept shared record holds)

/-- The same for what only the records of the table keep. -/
theorem run_invariant_of_mem
    (invariant : Shared → Prop) {records : List Record}
    (kept :
      ∀ shared, ∀ record ∈ records,
        invariant shared → invariant (visit shared record).1)
    {shared : Shared} (holds : invariant shared) :
    invariant (run visit shared records).1 := by
  induction records generalizing shared with
  | nil => exact holds
  | cons record rest induction =>
      apply induction
      · intro shared later member
        exact kept shared later (List.mem_cons_of_mem _ member)
      · exact kept shared record (List.mem_cons_self ..) holds

/-- Every visit of a sweep finds what the records of the table keep. -/
theorem visits_invariant_of_mem
    (invariant : Shared → Prop) {records : List Record}
    (kept :
      ∀ shared, ∀ record ∈ records,
        invariant shared → invariant (visit shared record).1)
    {shared : Shared} (holds : invariant shared)
    {found : Shared × Record}
    (member : found ∈ visits visit shared records) :
    invariant found.1 := by
  induction records generalizing shared with
  | nil => cases member
  | cons record rest induction =>
      rcases List.mem_cons.mp member with rfl | later
      · exact holds
      · refine induction ?_ (kept shared record (List.mem_cons_self ..) holds)
          later
        intro shared other isLater
        exact kept shared other (List.mem_cons_of_mem _ isLater)

/-- A part of the shared state that only the record at one place reaches: the
visit of that record finds it as it was and leaves it as it will be. -/
theorem run_view
    {Part : Type*} (view : Shared → Part) {records : List Record}
    {index : Nat} {record : Record}
    (held : records[index]? = some record)
    (others :
      ∀ position other,
        records[position]? = some other → position ≠ index →
        ∀ shared, view (visit shared other).1 = view shared)
    (shared : Shared) :
    ∃ found,
      (visits visit shared records)[index]? = some (found, record) ∧
      (run visit shared records).2[index]? = some (visit found record).2 ∧
      view found = view shared ∧
      view (run visit shared records).1 =
        view (visit found record).1 := by
  induction records generalizing shared index with
  | nil => simp at held
  | cons first rest induction =>
      cases index with
      | zero =>
          have isFirst : first = record := by simpa using held
          subst isFirst
          refine ⟨shared, rfl, rfl, rfl, ?_⟩
          change view (run visit (visit shared first).1 rest).1 = _
          refine
            run_invariant_of_mem
              (fun state => view state = view (visit shared first).1) ?_ rfl
          intro state other member same
          obtain ⟨position, isOther⟩ := List.mem_iff_getElem?.mp member
          have kept := others (position + 1) other isOther (by omega) state
          exact kept.trans same
      | succ index =>
          have later : rest[index]? = some record := by simpa using held
          have othersLater :
              ∀ position other,
                rest[position]? = some other → position ≠ index →
                ∀ shared, view (visit shared other).1 = view shared := by
            intro position other isOther different
            exact others (position + 1) other isOther (by omega)
          obtain ⟨found, isFound, left, before, after⟩ :=
            induction later othersLater (visit shared first).1
          have same := others 0 first rfl (by omega) shared
          exact ⟨found, isFound, left, before.trans same, after⟩

theorem run_getElem?
    {records : List Record} {index : Nat} {record : Record}
    (held : records[index]? = some record) (shared : Shared) :
    ∃ found,
      (visits visit shared records)[index]? = some (found, record) ∧
      (run visit shared records).2[index]? =
        some (visit found record).2 := by
  obtain ⟨found, isFound, left, _⟩ :=
    @run_view _ _ visit _ (fun _ => ()) records index record held
      (fun _ _ _ _ _ => rfl) shared
  exact ⟨found, isFound, left⟩

/-- What one record brings about and every record keeps holds in the end. -/
theorem run_establishes
    (invariant target : Shared → Prop) {records : List Record}
    (kept :
      ∀ shared, ∀ record ∈ records,
        invariant shared → invariant (visit shared record).1)
    (targetKept :
      ∀ shared, ∀ record ∈ records,
        invariant shared → target shared → target (visit shared record).1)
    {cause : Record} (present : cause ∈ records)
    (established : ∀ shared, invariant shared → target (visit shared cause).1)
    {shared : Shared} (holds : invariant shared) :
    target (run visit shared records).1 := by
  induction records generalizing shared with
  | nil => cases present
  | cons record rest induction =>
      have keptLater :
          ∀ shared, ∀ later ∈ rest,
            invariant shared → invariant (visit shared later).1 :=
        fun shared later member =>
          kept shared later (List.mem_cons_of_mem _ member)
      have targetKeptLater :
          ∀ shared, ∀ later ∈ rest,
            invariant shared → target shared → target (visit shared later).1 :=
        fun shared later member =>
          targetKept shared later (List.mem_cons_of_mem _ member)
      have next := kept shared record (List.mem_cons_self ..) holds
      rcases List.mem_cons.mp present with rfl | later
      · refine
          (run_invariant_of_mem
            (fun shared => invariant shared ∧ target shared) ?_
            ⟨next, established shared holds⟩).2
        intro shared later member both
        exact
          ⟨keptLater shared later member both.1,
            targetKeptLater shared later member both.1 both.2⟩
      · exact induction keptLater targetKeptLater later next

/-- A sweep, cut at the visit of one record. -/
theorem run_split
    {records : List Record} {index : Nat} {record : Record}
    (held : records[index]? = some record) (shared : Shared) :
    (run visit shared records).1 =
      (run visit
        (visit (run visit shared (records.take index)).1 record).1
        (records.drop (index + 1))).1 := by
  induction records generalizing shared index with
  | nil => simp at held
  | cons first rest induction =>
      cases index with
      | zero =>
          have isFirst : first = record := by simpa using held
          subst isFirst
          rfl
      | succ index =>
          have later : rest[index]? = some record := by simpa using held
          exact induction later (visit shared first).1

/--
What a sweep brings about: if a visit makes something happen exactly when it
finds a cause, the sweep makes it happen exactly when some visit finds one.
-/
theorem run_iff_of_invariant
    (invariant happened : Shared → Prop) (cause : Shared × Record → Prop)
    (kept :
      ∀ shared record, invariant shared → invariant (visit shared record).1)
    (visited :
      ∀ shared record,
        invariant shared →
        (happened (visit shared record).1 ↔
        happened shared ∨ cause (shared, record)))
    {shared : Shared} (holds : invariant shared)
    (records : List Record) :
    happened (run visit shared records).1 ↔
    happened shared ∨
    ∃ found ∈ visits visit shared records, cause found := by
  induction records generalizing shared with
  | nil => simp [run, visits]
  | cons record rest induction =>
      have later := induction (kept shared record holds)
      rw [visited shared record holds, or_assoc] at later
      simpa [run, visits] using later

/-- The same where nothing has to be known of the shared state. -/
theorem run_iff
    (happened : Shared → Prop) (cause : Shared × Record → Prop)
    (visited :
      ∀ shared record,
        happened (visit shared record).1 ↔
        happened shared ∨ cause (shared, record))
    (shared : Shared) (records : List Record) :
    happened (run visit shared records).1 ↔
    happened shared ∨ ∃ found ∈ visits visit shared records, cause found :=
  run_iff_of_invariant (fun _ => True) happened cause (fun _ _ _ => trivial)
    (fun shared record _ => visited shared record) trivial records

/-! ## Loops over positions -/

section

variable {State Part : Type*} {round : State → Record × Nat → State}
    {part : State → Nat → Part} {change : Record → Part → Part}
    {limit : Nat}

theorem foldl_positions_before
    (other :
      ∀ state record index place, index < limit → place ≠ index →
      part (round state (record, index)) place = part state place)
    (records : List Record) {first place : Nat}
    (fits : first + records.length ≤ limit) (before : place < first)
    (state : State) :
    part ((records.zipIdx first).foldl round state) place =
      part state place := by
  induction records generalizing first state with
  | nil => rfl
  | cons record records induction =>
      rw [List.length_cons] at fits
      rw [List.zipIdx_cons, List.foldl_cons, induction (by omega) (by omega)]
      exact other state record first place (by omega) (by omega)

/-- What a loop does to the part of a position. -/
theorem foldl_positions
    (own :
      ∀ state record index, index < limit →
      part (round state (record, index)) index =
        change record (part state index))
    (other :
      ∀ state record index place, index < limit → place ≠ index →
      part (round state (record, index)) place = part state place)
    (records : List Record) {first : Nat}
    (fits : first + records.length ≤ limit) (state : State)
    {index : Nat} {record : Record} (found : records[index]? = some record) :
    part ((records.zipIdx first).foldl round state) (first + index) =
      change record (part state (first + index)) := by
  induction records generalizing first state index with
  | nil => simp at found
  | cons head records induction =>
      rw [List.length_cons] at fits
      rw [List.zipIdx_cons, List.foldl_cons]
      cases index with
      | zero =>
          have isHead : head = record := by simpa using found
          rw [foldl_positions_before other records (by omega) (by omega),
            ← isHead]
          exact own state head first (by omega)
      | succ index =>
          have later : records[index]? = some record := by simpa using found
          have laterFits : first + 1 + records.length ≤ limit := by omega
          have step := induction laterFits (round state (head, first)) later
          rw [Nat.add_right_comm, Nat.add_assoc] at step
          rw [step]
          have place : first + (index + 1) ≠ first := by omega
          rw [other state head first _ (by omega) place]

end

section

variable {State Index Part : Type*} [DecidableEq Index]
    {round : State → Index → State} {part : State → Index → Part}
    (change : Index → Part → Part)

theorem foldl_indices_other
    (each :
      ∀ state index place,
        part (round state index) place =
          if place = index then change index (part state index)
          else part state place)
    {indices : List Index} {place : Index} (outside : place ∉ indices)
    (state : State) :
    part (indices.foldl round state) place = part state place := by
  induction indices generalizing state with
  | nil => rfl
  | cons index rest induction =>
      have different : place ≠ index := List.ne_of_not_mem_cons outside
      have later : place ∉ rest := List.not_mem_of_not_mem_cons outside
      rw [List.foldl_cons, induction later, each, if_neg different]

/-- A loop that visits each index once does to its part what its own round
does. -/
theorem foldl_indices
    (each :
      ∀ state index place,
        part (round state index) place =
          if place = index then change index (part state index)
          else part state place)
    {indices : List Index} (once : indices.Nodup) {place : Index}
    (inside : place ∈ indices) (state : State) :
    part (indices.foldl round state) place =
      change place (part state place) := by
  induction indices generalizing state with
  | nil => cases inside
  | cons index rest induction =>
      rcases List.nodup_cons.mp once with ⟨apart, onceLater⟩
      rw [List.foldl_cons]
      rcases List.mem_cons.mp inside with rfl | later
      · rw [foldl_indices_other change each apart, each, if_pos rfl]
      · have different : place ≠ index := fun same => apart (same ▸ later)
        rw [induction onceLater later, each, if_neg different]

end

end Endap.Library.Sweep
