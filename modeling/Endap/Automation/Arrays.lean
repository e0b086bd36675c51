import Endap.Automation.Interlock
import Endap.Automation.RuleStore

/-!
# The arrays of the rule store

The engine keeps its rules in four arrays of sixteen cells: the rules, their
interlocks, what they remember and their diagnostics.  Only a counter says how
many cells are in use; nothing but the index ties the four cells of one rule
together.

Here the operations work on the arrays as the source does.  Read as one list
of records, the arrays behave as the list of the store.
-/

namespace Endap.Automation

open Endap.Cluster
open Endap.Failsafe
open Endap.Library
open Endap.State

/-- The rule that `memset` leaves. -/
def AutomationNode.zero : AutomationNode where
  input := 0
  output := 0
  threshold := 0
  op := 0
  mode := 0
  durationMs := 0
  onTrue := 0
  onFalse := 0

/-- `nodes`, `interlocks`, `runtime_nodes` and `rule_diags`. -/
structure AutomationArrays where
  nodes : Nat → AutomationNode
  interlocks : Nat → AutomationInterlock
  runtimeNodes : Nat → AutomationRuntime
  ruleDiags : Nat → AutomationRuleDiag

namespace AutomationArrays

/-- What the arrays hold at one index. -/
def record (arrays : AutomationArrays) (index : Nat) : AutomationRule where
  node := arrays.nodes index
  interlock := arrays.interlocks index
  runtime := arrays.runtimeNodes index
  diag := arrays.ruleDiags index

/-- All four arrays written at one index. -/
def write
    (arrays : AutomationArrays) (index : Nat) (rule : AutomationRule) :
    AutomationArrays where
  nodes := Function.update arrays.nodes index rule.node
  interlocks := Function.update arrays.interlocks index rule.interlock
  runtimeNodes := Function.update arrays.runtimeNodes index rule.runtime
  ruleDiags := Function.update arrays.ruleDiags index rule.diag

/-- What a loop of the engine writes of the rule it has visited. -/
def writeVisited
    (arrays : AutomationArrays) (index : Nat) (rule : AutomationRule) :
    AutomationArrays :=
  { arrays with
    runtimeNodes := Function.update arrays.runtimeNodes index rule.runtime
    ruleDiags := Function.update arrays.ruleDiags index rule.diag }

/-- One turn of the loop that closes the gap of a removed rule. -/
def moveDown (arrays : AutomationArrays) (index : Nat) : AutomationArrays where
  nodes := Function.update arrays.nodes index (arrays.nodes (index + 1))
  interlocks :=
    Function.update arrays.interlocks index (arrays.interlocks (index + 1))
  runtimeNodes :=
    Function.update arrays.runtimeNodes index (arrays.runtimeNodes (index + 1))
  ruleDiags :=
    Function.update arrays.ruleDiags index (arrays.ruleDiags (index + 1))

/-- The arrays that `memset` leaves. -/
def zero : AutomationArrays where
  nodes := fun _ => .zero
  interlocks := fun _ => .zero
  runtimeNodes := fun _ => .zero
  ruleDiags := fun _ => .zero

/-- The record that `memset` leaves. -/
def zeroRule : AutomationRule := AutomationRule.fresh .zero

end AutomationArrays

/-- The static state of `automation_engine.c` beside the other tables. -/
structure EngineMemory where
  arrays : AutomationArrays
  nodeCount : Nat
  tickMs : UInt32
  persistedConfig : Bool
  savedRules : Option (List (AutomationNode × AutomationInterlock))
  remoteQueue : Option AutomationRemoteQueue
  failsafe : FailsafeTable
  store : StateStore
  fits : nodeCount ≤ automationEngineMaxNodes

namespace EngineMemory

/-! ## Events and ticks -/

/-- What the rules act on at the start of a loop. -/
def plant (memory : EngineMemory) : Plant where
  store := memory.store
  failsafe := memory.failsafe
  remoteQueue := memory.remoteQueue
  dispatches := []

/-- One turn of a loop over the rules. -/
def sweepTurn
    (visit : Plant → AutomationRule → Plant × AutomationRule)
    (state : Plant × AutomationArrays) (index : Nat) :
    Plant × AutomationArrays :=
  let visited := visit state.1 (state.2.record index)
  (visited.1, state.2.writeVisited index visited.2)

/-- A loop over the rules; its dispatches are returned. -/
def sweep
    (memory : EngineMemory)
    (visit : Plant → AutomationRule → Plant × AutomationRule) :
    EngineMemory × List Dispatch :=
  let swept :=
    (List.range' 0 memory.nodeCount).foldl (sweepTurn visit)
      (memory.plant, memory.arrays)
  ({ memory with
     arrays := swept.2
     remoteQueue := swept.1.remoteQueue
     failsafe := swept.1.failsafe
     store := swept.1.store },
    swept.1.dispatches)

/-- `automation_event_handler`. -/
def eventHandler
    (around : Surroundings) (event : EndapEvent) (memory : EngineMemory) :
    EngineMemory × List Dispatch :=
  if event.type ≠ .stateChange then (memory, [])
  else
    let triggered := memory.sweep (triggerVisit around memory.tickMs event)
    let guarded := triggered.1.sweep (guardVisit around event)
    (guarded.1, triggered.2 ++ guarded.2)

/-- `automation_engine_tick_1ms`. -/
def tick1ms (around : Surroundings) (memory : EngineMemory) :
    EngineMemory × List Dispatch :=
  let advanced := { memory with tickMs := memory.tickMs + 1 }
  advanced.sweep (tickVisit around advanced.tickMs)

/-! ## The rule store -/

/-- `automation_persist`. -/
def persist (outcome : NvsOutcome) (memory : EngineMemory) :
    EngineMemory :=
  { memory with
    savedRules :=
      nvsWrite outcome memory.savedRules
        (some
          ((List.range memory.nodeCount).map fun index =>
            (memory.arrays.nodes index, memory.arrays.interlocks index)))
    persistedConfig := memory.persistedConfig || outcome.succeeds }

/-- The loop of `automation_engine_add_rule` over the stored rules. -/
def firstClash (memory : EngineMemory) (candidate : AutomationNode) :
    Option AutomationResult :=
  (List.range memory.nodeCount).findSome? fun index =>
    if automationRulesEqual (memory.arrays.nodes index) candidate then
      some .duplicate
    else if
        automationRuleConflicts (memory.arrays.nodes index) candidate then
      some .conflict
    else none

/-- The candidate in the cell after the last, with the counter raised. -/
def append
    (memory : EngineMemory) (candidate : AutomationNode)
    (room : memory.nodeCount < automationEngineMaxNodes) : EngineMemory :=
  { memory with
    arrays := memory.arrays.write memory.nodeCount (.fresh candidate)
    nodeCount := memory.nodeCount + 1
    fits := room }

/-- `automation_engine_add_rule`, without the result it returns. -/
def addRule
    (around : Surroundings) (request : RuleRequest) (outcome : NvsOutcome)
    (memory : EngineMemory) : EngineMemory × List Dispatch :=
  if !request.valid around then (memory, [])
  else
    match memory.firstClash request.candidate with
    | some _ => (memory, [])
    | none =>
        if room : memory.nodeCount < automationEngineMaxNodes then
          let input := request.input.toUInt32.toUInt16
          let stored := (memory.append request.candidate room).persist outcome
          match stateGetInt stored.store input with
          | none => (stored, [])
          | some current =>
              stored.eventHandler around
                { type := .stateChange, source := input, data := current }
        else (memory, [])

/-- The index is that of a stored rule. -/
def HasIndex (memory : EngineMemory) (index : Int32) : Prop :=
  0 ≤ index ∧ index.toInt < memory.nodeCount

instance (memory : EngineMemory) (index : Int32) :
    Decidable (memory.HasIndex index) :=
  inferInstanceAs (Decidable (_ ∧ _))

/-- The later rules moved down and the last cell cleared. -/
def closeGap (memory : EngineMemory) (index : Nat) : EngineMemory :=
  let last := memory.nodeCount - 1
  let moved :=
    (List.range' index (last - index)).foldl AutomationArrays.moveDown
      memory.arrays
  { memory with
    arrays := moved.write last AutomationArrays.zeroRule
    nodeCount := last
    fits := Nat.le_trans (Nat.sub_le _ _) memory.fits }

/-- `automation_engine_remove_node_at`, without the flag it returns. -/
def removeNodeAt
    (index : Int32) (outcome : NvsOutcome) (memory : EngineMemory) :
    EngineMemory :=
  if memory.HasIndex index then
    (memory.closeGap index.toInt.toNat).persist outcome
  else memory

/-- `automation_engine_set_interlock_at`, without the flag it returns. -/
def setInterlockAt
    (index : Int32) (interlock : Option AutomationInterlock)
    (outcome : NvsOutcome) (memory : EngineMemory) : EngineMemory :=
  if memory.HasIndex index then
    persist outcome
      { memory with
        arrays :=
          { memory.arrays with
            interlocks :=
              Function.update memory.arrays.interlocks index.toInt.toNat
                (interlock.getD .zero) } }
  else memory

/-- `automation_engine_clear`. -/
def clear (outcome : NvsOutcome) (memory : EngineMemory) : EngineMemory :=
  persist outcome
    { memory with
      arrays := .zero
      nodeCount := 0
      fits := Nat.zero_le _ }

/-! ## The arrays as one list -/

/-- The records in use, in order. -/
def records (memory : EngineMemory) : List AutomationRule :=
  ArrayList.listed memory.arrays.record memory.nodeCount

/-- The memory read as the engine with its list of rules. -/
def view (memory : EngineMemory) : Runtime where
  automation :=
    { rules := memory.records
      tickMs := memory.tickMs
      persistedConfig := memory.persistedConfig
      savedRules := memory.savedRules
      remoteQueue := memory.remoteQueue
      fits := by
        rw [records, ArrayList.listed_length]
        exact memory.fits }
  failsafe := memory.failsafe
  store := memory.store

/-- The memory after a call that touches neither arrays nor counters. -/
def withTables (memory : EngineMemory) (runtime : Runtime) :
    EngineMemory :=
  { memory with
    remoteQueue := runtime.automation.remoteQueue
    failsafe := runtime.failsafe
    store := runtime.store }

/-- The effect of one call and the dispatches it makes. -/
def call (memory : EngineMemory) : Call → EngineMemory × List Dispatch
  | .event around happened => memory.eventHandler around happened
  | .tick around => memory.tick1ms around
  | .addRule around request outcome =>
      memory.addRule around request outcome
  | .removeNodeAt index outcome => (memory.removeNodeAt index outcome, [])
  | .setInterlockAt index interlock outcome =>
      (memory.setInterlockAt index interlock outcome, [])
  | .clear outcome => (memory.clear outcome, [])
  | other =>
      let called := memory.view.call other
      (memory.withTables called.1, called.2)

end EngineMemory

/-! ## Loops and moves on records -/

namespace AutomationArrays

variable (arrays : AutomationArrays) (index : Nat)

theorem record_write (rule : AutomationRule) :
    (arrays.write index rule).record =
      Function.update arrays.record index rule := by
  funext position
  by_cases here : position = index
  · subst here
    simp [record, write]
  · simp [record, write, here]

theorem record_moveDown :
    (arrays.moveDown index).record = ArrayList.pull arrays.record index :=
  record_write arrays index (arrays.record (index + 1))

theorem record_writeVisited
    {rule : AutomationRule}
    (kept : rule.config = (arrays.record index).config) :
    (arrays.writeVisited index rule).record =
      Function.update arrays.record index rule := by
  have sameNode : rule.node = arrays.nodes index := congrArg Prod.fst kept
  have sameInterlock : rule.interlock = arrays.interlocks index :=
    congrArg Prod.snd kept
  rw [← record_write]
  congr 1
  rw [write, sameNode, sameInterlock, Function.update_eq_self,
    Function.update_eq_self]
  rfl

theorem record_interlock (interlock : AutomationInterlock) :
    AutomationArrays.record
        { arrays with
          interlocks := Function.update arrays.interlocks index interlock } =
      Function.update arrays.record index
        { arrays.record index with interlock := interlock } := by
  rw [← record_write]
  congr 1
  rw [write, record, Function.update_eq_self, Function.update_eq_self,
    Function.update_eq_self]

theorem record_moves (indices : List Nat) :
    (indices.foldl moveDown arrays).record =
      indices.foldl ArrayList.pull arrays.record :=
  (List.foldl_hom record fun arrays index =>
    (record_moveDown arrays index).symm).symm

end AutomationArrays

namespace EngineMemory

theorem loop_record
    {visit : Plant → AutomationRule → Plant × AutomationRule}
    (kept : ∀ plant rule, (visit plant rule).2.config = rule.config)
    (plant : Plant) (arrays : AutomationArrays) (indices : List Nat) :
    Prod.map id AutomationArrays.record
        (indices.foldl (sweepTurn visit) (plant, arrays)) =
      indices.foldl (ArrayList.turn visit) (plant, arrays.record) := by
  symm
  change
    indices.foldl (ArrayList.turn visit)
        (Prod.map id AutomationArrays.record (plant, arrays)) = _
  refine List.foldl_hom _ fun state index => ?_
  refine Prod.ext rfl ?_
  exact
    (AutomationArrays.record_writeVisited state.2 index
      (kept state.1 (state.2.record index))).symm

/-! ## Refinement -/

theorem automationStore_ext
    {left right : AutomationStore}
    (rules : left.rules = right.rules)
    (tickMs : left.tickMs = right.tickMs)
    (persistedConfig : left.persistedConfig = right.persistedConfig)
    (savedRules : left.savedRules = right.savedRules)
    (remoteQueue : left.remoteQueue = right.remoteQueue) :
    left = right := by
  cases left
  cases right
  simp_all

theorem runtime_ext
    {left right : Runtime}
    (automation : left.automation = right.automation)
    (failsafe : left.failsafe = right.failsafe)
    (store : left.store = right.store) :
    left = right := by
  cases left
  cases right
  simp_all

theorem sweep_view
    {visit : Plant → AutomationRule → Plant × AutomationRule}
    (kept : ∀ plant rule, (visit plant rule).2.config = rule.config)
    (memory : EngineMemory) :
    Prod.map view id (memory.sweep visit) = memory.view.sweep visit := by
  have looped :=
    loop_record kept memory.plant memory.arrays (List.range' 0 memory.nodeCount)
  have swept :=
    @ArrayList.listed_loop _ _ visit memory.plant memory.arrays.record
      memory.nodeCount
  rw [ArrayList.loop, ← looped] at swept
  have shared := congrArg Prod.fst swept
  have rules := congrArg Prod.snd swept
  refine Prod.ext (runtime_ext (automationStore_ext ?_ ?_ ?_ ?_ ?_) ?_ ?_) ?_
  · exact rules
  · rfl
  · rfl
  · rfl
  · exact congrArg Plant.remoteQueue shared
  · exact congrArg Plant.failsafe shared
  · exact congrArg Plant.store shared
  · exact congrArg Plant.dispatches shared

theorem eventHandler_view
    (around : Surroundings) (event : EndapEvent) (memory : EngineMemory) :
    Prod.map view id (memory.eventHandler around event) =
      automationEventHandler around event memory.view := by
  rw [eventHandler, automationEventHandler]
  split
  · rfl
  · have triggered :=
      sweep_view
        (fun plant rule =>
          triggerVisit_config around plant rule memory.tickMs event)
        memory
    have guarded :=
      sweep_view
        (fun plant rule => guardVisit_config around plant rule event)
        (memory.sweep (triggerVisit around memory.tickMs event)).1
    have started :
        (memory.sweep (triggerVisit around memory.tickMs event)).1.view =
          (memory.view.sweep (triggerVisit around memory.tickMs event)).1 :=
      congrArg Prod.fst triggered
    rw [started] at guarded
    simp only
    refine Prod.ext (congrArg Prod.fst guarded :) ?_
    exact
      congrArg₂ List.append (congrArg Prod.snd triggered)
        (congrArg Prod.snd guarded)

theorem tick1ms_view (around : Surroundings) (memory : EngineMemory) :
    Prod.map view id (memory.tick1ms around) =
      automationEngineTick1ms around memory.view :=
  sweep_view
    (fun plant rule => tickVisit_config around plant rule _)
    { memory with tickMs := memory.tickMs + 1 }

theorem persist_view (outcome : NvsOutcome) (memory : EngineMemory) :
    (memory.persist outcome).view =
      { memory.view with
        automation := automationPersist outcome memory.view.automation } := by
  refine runtime_ext (automationStore_ext rfl rfl rfl ?_ rfl) rfl rfl
  change
    nvsWrite outcome memory.savedRules _ =
      nvsWrite outcome memory.savedRules (some (List.map _ (List.map _ _)))
  rw [List.map_map]
  rfl

theorem firstClash_view
    (memory : EngineMemory) (candidate : AutomationNode) :
    memory.firstClash candidate =
      findClash candidate memory.view.automation.rules := by
  have searched :
      ∀ rules : List AutomationRule,
        findClash candidate rules =
          rules.findSome? fun rule =>
            if automationRulesEqual rule.node candidate then
              some .duplicate
            else if automationRuleConflicts rule.node candidate then
              some .conflict
            else none := by
    intro rules
    induction rules with
    | nil => rfl
    | cons rule rest induction =>
        rw [findClash, List.findSome?_cons, induction]
        split
        · rfl
        · split
          · rfl
          · rfl
  rw [searched]
  change _ = List.findSome? _ (List.map memory.arrays.record _)
  rw [List.findSome?_map]
  rfl

theorem append_view
    (memory : EngineMemory) (candidate : AutomationNode)
    (room : memory.nodeCount < automationEngineMaxNodes)
    (viewRoom :
      memory.view.automation.rules.length < automationEngineMaxNodes) :
    (memory.append candidate room).view =
      { memory.view with
        automation :=
          memory.view.automation.append candidate viewRoom } := by
  refine runtime_ext (automationStore_ext ?_ rfl rfl rfl rfl) rfl rfl
  change
    ArrayList.listed (memory.arrays.write memory.nodeCount _).record
      (memory.nodeCount + 1) = _
  rw [AutomationArrays.record_write, ArrayList.listed_push]
  rfl

theorem rules_length (memory : EngineMemory) :
    memory.view.automation.rules.length = memory.nodeCount :=
  ArrayList.listed_length _ _

theorem addRule_view
    (around : Surroundings) (request : RuleRequest) (outcome : NvsOutcome)
    (memory : EngineMemory) :
    Prod.map view id (memory.addRule around request outcome) =
      memory.view.call (.addRule around request outcome) := by
  rw [addRule, Runtime.call, automationEngineAddRule, firstClash_view]
  by_cases valid : request.valid around = true
  · cases noClash :
        findClash request.candidate memory.view.automation.rules with
    | some result => simp [valid]
    | none =>
        by_cases room : memory.nodeCount < automationEngineMaxNodes
        · have viewRoom := room
          rw [← rules_length] at viewRoom
          have stored :
              ((memory.append request.candidate room).persist
                outcome).view =
                { memory.view with
                  automation :=
                    automationPersist outcome
                      (memory.view.automation.append request.candidate
                        viewRoom) } := by
            rw [persist_view, append_view]
          simp only [valid, Bool.not_true, Bool.false_eq_true, if_false,
            dif_pos room, dif_pos viewRoom]
          have sameStore :
              ((memory.append request.candidate room).persist
                outcome).store = memory.view.store :=
            rfl
          rw [← stored, sameStore]
          cases
            stateGetInt memory.view.store
              request.input.toUInt32.toUInt16 with
          | none => rfl
          | some current => exact eventHandler_view around _ _
        · have full := room
          rw [← rules_length] at full
          simp [valid, room, full]
  · simp [valid]

theorem hasIndex_view (memory : EngineMemory) (index : Int32) :
    memory.view.automation.HasIndex index ↔ memory.HasIndex index := by
  rw [AutomationStore.HasIndex, HasIndex, rules_length]

theorem HasIndex.lt
    {memory : EngineMemory} {index : Int32}
    (found : memory.HasIndex index) :
    index.toInt.toNat < memory.nodeCount := by
  have lower : 0 ≤ index.toInt := Int32.le_iff_toInt_le.mp found.1
  exact (Int.toNat_lt lower).mpr found.2

theorem closeGap_records
    (memory : EngineMemory) {index : Nat}
    (inside : index < memory.nodeCount) :
    (memory.closeGap index).records = memory.records.eraseIdx index := by
  change
    ArrayList.listed
        ((List.foldl AutomationArrays.moveDown memory.arrays _).write
          (memory.nodeCount - 1) _).record
        (memory.nodeCount - 1) = _
  rw [AutomationArrays.record_write, AutomationArrays.record_moves]
  rw [records, ← ArrayList.listed_pullRange memory.arrays.record inside]
  apply ArrayList.listed_congr
  intro position used
  exact Function.update_of_ne (Nat.ne_of_lt used) _ _

theorem removeNodeAt_view
    (index : Int32) (outcome : NvsOutcome) (memory : EngineMemory) :
    (memory.removeNodeAt index outcome).view =
      { memory.view with
        automation :=
          automationEngineRemoveNodeAt index outcome
            memory.view.automation } := by
  by_cases found : memory.HasIndex index
  · rw [removeNodeAt, if_pos found, automationEngineRemoveNodeAt,
      if_pos ((hasIndex_view memory index).mpr found), persist_view]
    refine runtime_ext (congrArg (automationPersist outcome) ?_) rfl rfl
    have closed := closeGap_records memory found.lt
    exact automationStore_ext closed rfl rfl rfl rfl
  · rw [removeNodeAt, if_neg found, automationEngineRemoveNodeAt,
      if_neg (mt (hasIndex_view memory index).mp found)]

theorem setInterlockAt_view
    (index : Int32) (interlock : Option AutomationInterlock)
    (outcome : NvsOutcome) (memory : EngineMemory) :
    (memory.setInterlockAt index interlock outcome).view =
      { memory.view with
        automation :=
          automationEngineSetInterlockAt index interlock outcome
            memory.view.automation } := by
  by_cases found : memory.HasIndex index
  · rw [setInterlockAt, if_pos found, automationEngineSetInterlockAt,
      if_pos ((hasIndex_view memory index).mpr found), persist_view]
    refine runtime_ext (congrArg (automationPersist outcome) ?_) rfl rfl
    refine automationStore_ext ?_ rfl rfl rfl rfl
    refine Eq.trans ?_ (ArrayList.listed_modify _ _ _ _)
    exact
      congrArg (ArrayList.listed · memory.nodeCount)
        (AutomationArrays.record_interlock memory.arrays _ _)
  · rw [setInterlockAt, if_neg found, automationEngineSetInterlockAt,
      if_neg (mt (hasIndex_view memory index).mp found)]

theorem clear_view (outcome : NvsOutcome) (memory : EngineMemory) :
    (memory.clear outcome).view =
      { memory.view with
        automation :=
          automationEngineClear outcome memory.view.automation } := by
  rw [clear, automationEngineClear, persist_view]
  rfl

theorem call_refines : Run.Refines call Runtime.call view := by
  intro memory called
  cases called with
  | event around happened => exact eventHandler_view around happened memory
  | tick around => exact tick1ms_view around memory
  | addRule around request outcome =>
      exact addRule_view around request outcome memory
  | removeNodeAt index outcome =>
      exact Prod.ext (removeNodeAt_view index outcome memory) rfl
  | setInterlockAt index interlock outcome =>
      exact Prod.ext (setInterlockAt_view index interlock outcome memory) rfl
  | clear outcome => exact Prod.ext (clear_view outcome memory) rfl
  | outputCommand around command =>
      refine Prod.ext (runtime_ext ?_ rfl rfl) rfl
      have same :=
        automationHandleOutputCommand_automation around command memory.view
      refine automationStore_ext ?_ ?_ ?_ ?_ rfl
      · exact (congrArg AutomationStore.rules same).symm
      · exact (congrArg AutomationStore.tickMs same).symm
      · exact (congrArg AutomationStore.persistedConfig same).symm
      · exact (congrArg AutomationStore.savedRules same).symm
  | _ => rfl

end EngineMemory

/-! ## The rule store along a run -/

/--
In every run from an empty store, the store holds sixteen rules at most, all
valid and different, and each output has one driver or a pair that forces it
on and off.  The four arrays make the run of one list of records, and removing
a rule erases its record from that list.
-/
theorem rule_store_run
    {start : EngineMemory} (empty : start.nodeCount = 0)
    (calls : List Call) :
    let made := calls.map Call.onDevice
    let memory := Run.final EngineMemory.call start made
    let nodes := memory.records.map AutomationRule.node
    (memory.nodeCount ≤ automationEngineMaxNodes ∧
        (∀ node ∈ nodes, automationRuleIsValid node = true) ∧
        nodes.Nodup ∧
        ∀ output,
          DrivenProperly (nodes.filter fun node => node.output = output)) ∧
      (memory.view = Run.final Runtime.call start.view made ∧
      (Run.history EngineMemory.call start made).map Run.Transition.output =
        (Run.history Runtime.call start.view made).map Run.Transition.output) ∧
      ∀ index outcome,
        (memory.removeNodeAt index outcome).records =
          if memory.HasIndex index then
            memory.records.eraseIdx index.toInt.toNat
          else memory.records := by
  intro made memory nodes
  have viewed : memory.view = Run.final Runtime.call start.view made :=
    EngineMemory.call_refines.final start made
  have noRules : start.view.automation.rules = [] := by
    rw [← List.length_eq_zero_iff, EngineMemory.rules_length, empty]
  have keptAtStart : WellKept Compatible start.view.automation.configs := by
    rw [AutomationStore.configs, noRules]
    exact wellKept_nil
  have kept : WellKept Compatible memory.view.automation.configs := by
    rw [viewed]
    exact final_wellKept (fun _ _ => id) keptAtStart calls
  have nodesAre : memory.view.automation.configs.map Prod.fst = nodes :=
    List.map_map
  refine ⟨⟨memory.fits, ?_, ?_, ?_⟩, ⟨viewed, ?_⟩, ?_⟩
  · intro node member
    rw [← nodesAre] at member
    rcases List.mem_map.mp member with ⟨config, stored, rfl⟩
    exact kept.valid config stored
  · rw [← nodesAre]
    exact kept.different
  · intro output
    rw [← nodesAre]
    exact kept.driven output
  · exact EngineMemory.call_refines.outputs start made
  · intro index outcome
    rw [EngineMemory.removeNodeAt]
    split
    · next found => exact EngineMemory.closeGap_records memory found.lt
    · rfl

def idleMemory : EngineMemory where
  arrays := .zero
  nodeCount := 0
  tickMs := 0
  persistedConfig := false
  savedRules := none
  remoteQueue := none
  failsafe := idleRuntime.failsafe
  store := idleRuntime.store
  fits := Nat.zero_le _

def forcingRule : RuleRequest where
  input := 11
  op := 2
  mode := AutomationMode.forceOn.code
  threshold := 1
  durationMs := 0
  output := 101
  onTrue := 1
  onFalse := 0

def delayRunning : List Call :=
  [.addRule standalone forcingRule .committed,
    .addRule standalone delayedRule .committed] ++ changeState 10 1

/-- The delay of the second rule runs on when the first is removed. -/
theorem idleMemory_delay_survives_removal :
    let memory :=
      Run.final EngineMemory.call idleMemory (delayRunning.map Call.onDevice)
    (memory.records.map fun rule => rule.node.output) = [101, 100] ∧
    (memory.removeNodeAt 0 .committed).records = memory.records.eraseIdx 0 ∧
    ((memory.removeNodeAt 0 .committed).records.map fun rule =>
      (rule.node.output, rule.runtime.timerActive)) = [(100, true)] := by
  have removed := (@rule_store_run idleMemory rfl delayRunning).2.2 0 .committed
  refine ⟨by decide +kernel, ?_, by decide +kernel⟩
  exact removed.trans (if_pos (by decide +kernel))

end Endap.Automation
