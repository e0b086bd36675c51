import Endap.Automation.Storage

/-!
# Rules across reboots

What `automation_persist` writes is a well-formed record of the rules of the
store, so the next boot brings them back, each with its interlock.  Rules of
older versions come without an interlock and act on their input as they did
under the version that wrote them.
-/

namespace Endap.Automation

open Endap.Library
open Endap.State

/-! ## The record of the store -/

variable {rules : List (AutomationNode × InterlockImage)}

theorem listed_automationBlobOf
    (fits : rules.length ≤ automationEngineMaxNodes) :
    (automationBlobOf rules).count.toNat = rules.length ∧
    ((automationBlobOf rules).listed fun arrays index =>
      (arrays.1 index, arrays.2 index)) = rules := by
  have counted : (automationBlobOf rules).count.toNat = rules.length := by
    refine (UInt16.toNat_ofNat').trans (Nat.mod_eq_of_lt ?_)
    exact Nat.lt_of_le_of_lt fits (by decide)
  have copied :
      (fun index : Fin automationEngineMaxNodes =>
        ((automationBlobOf rules).arrays.1 index,
          (automationBlobOf rules).arrays.2 index)) =
        fun index => rules[index.val]?.getD (.zero, .zero) := by
    funext index
    simp only [automationBlobOf]
    cases rules[index.val]? <;> rfl
  refine ⟨counted, ?_⟩
  rw [AutomationBlob.listed, counted, copied]
  exact Layout.take_ofFn_getD rules _ fits

/-- What `automation_persist` writes is a well-formed record of the rules. -/
theorem records_automationRecord
    (fits : rules.length ≤ automationEngineMaxNodes) :
    Records (automationRecord rules) rules := by
  rcases listed_automationBlobOf fits with ⟨counted, listed⟩
  have read :
      (automationBlobLayout arraysLayout).read (automationRecord rules) =
        automationBlobOf rules :=
    Layout.read_stamp _ _ _
  have accepted :
      BlobAccepted arraysLayout automationVersion
        (automationRecord rules) := by
    rw [BlobAccepted, read, counted]
    exact ⟨rfl, rfl, fits, Layout.intact_stamp _ _ _⟩
  have lists : listedRules (automationRecord rules) = rules := by
    rw [listedRules, read]
    exact listed
  have wellFormed :
      WellFormed arraysLayout automationVersion (automationRecord rules) :=
    ⟨Layout.stamp_length _ _ _, accepted⟩
  have records := Records.present wellFormed
  rw [lists] at records
  exact records

/-- A rule and its interlock as storage holds them. -/
def configImage (config : AutomationNode × AutomationInterlock) :
    AutomationNode × InterlockImage :=
  (config.1, config.2.image)

/-- The record that the flash holds. -/
def AutomationStore.record (automation : AutomationStore) :
    Option (List UInt8) :=
  automation.savedRules.map fun saved =>
    automationRecord (saved.map configImage)

/-- The outcome of the last `automation_persist` of a run. -/
def lastPersist
    (past : List (Run.Transition Runtime Call (List Dispatch))) :
    Option NvsOutcome :=
  (past.filterMap fun transition =>
    transition.action.persisted transition.before.automation).getLast?

theorem lastPersist_snoc
    (past : List (Run.Transition Runtime Call (List Dispatch)))
    (last : Run.Transition Runtime Call (List Dispatch)) :
    lastPersist (past ++ [last]) =
      (last.action.persisted last.before.automation).or
        (lastPersist past) := by
  rw [lastPersist, List.filterMap_append]
  cases persisted : last.action.persisted last.before.automation with
  | none => simp [persisted, lastPersist]
  | some outcome => simp [persisted]

/-- The flash holds the rules of the store. -/
def AutomationStore.Saved (automation : AutomationStore) : Prop :=
  automation.savedRules = some automation.configs

theorem StoreStep.saved
    {before after : AutomationStore} {persisted : Option NvsOutcome}
    (step : StoreStep before persisted after)
    {lastBefore : Option NvsOutcome}
    (savedBefore : lastBefore = some .committed → before.Saved)
    (succeeded : persisted.or lastBefore = some .committed) :
    after.Saved := by
  cases step with
  | unchanged sameConfigs sameSaved =>
      rw [AutomationStore.Saved, sameConfigs, sameSaved]
      exact savedBefore succeeded
  | revised outcome _ saved =>
      rw [AutomationStore.Saved, saved, Option.some.inj succeeded]
      rfl

theorem saved_of_lastPersist
    (start : Runtime) (calls : List Call)
    (succeeded :
      lastPersist (Run.history Runtime.call start (calls.map Call.onDevice)) =
        some .committed) :
    (Run.final Runtime.call start
      (calls.map Call.onDevice)).automation.Saved := by
  induction calls using List.reverseRecOn with
  | nil => cases succeeded
  | append_singleton earlier call induction =>
      rw [List.map_append, List.map_singleton, Run.history_snoc,
        lastPersist_snoc] at succeeded
      rw [List.map_append, List.map_singleton, Run.final_snoc]
      exact (Runtime.call_storeStep _ call).saved induction succeeded

/-! ## What rules of older versions do -/

def AutomationNodeV1.drives (node : AutomationNodeV1) (value : Int32) :
    Int32 :=
  if node.threshold < value then 1 else 0

def AutomationNodeV2.drives (node : AutomationNodeV2) (value : Int32) :
    Int32 :=
  match AutomationOperator.ofCode node.op with
  | some operator =>
      if operator.compare value node.threshold then node.onTrue.toInt32
      else node.onFalse.toInt32
  | none => node.onFalse.toInt32

/-- A rule without an interlock, whatever it remembers. -/
def freeRule (node : AutomationNode) (runtime : AutomationRuntime)
    (diag : AutomationRuleDiag) : AutomationRule where
  node := node
  interlock := .zero
  runtime := runtime
  diag := diag

/-- Each event of the input drives the output to the value that `drives`
tells, whatever the rule remembers; nothing else does. -/
def Follows (node : AutomationNode) (input output : UInt16)
    (drives : Int32 → Int32) : Prop :=
  ∀ around tickMs event plant runtime diag,
    let rule := freeRule node runtime diag
    let visited := triggerVisit around tickMs event plant rule
    node.output = output ∧
    (event.source ≠ input → visited.1 = plant) ∧
    (event.source = input →
    ∃ purpose changed,
      changed.node = node ∧
      visited.1 =
        (automationDispatchOutput around purpose
          (drives
            (pveGetScaledValue around.scaledValue event.source event.data))
          plant changed).1) ∧
    (guardVisit around event plant rule).1 = plant ∧
    (tickVisit around tickMs plant rule).1 = plant

/-- A rule acts on each event of its input, never stopped by an interlock. -/
def ActsFreely (node : AutomationNode) : Prop :=
  ∀ around tickMs event plant runtime diag,
    let rule := freeRule node runtime diag
    let conditionNow :=
      automationEvalRule node
        (pveGetScaledValue around.scaledValue event.source event.data)
    (event.source = node.input →
        triggerVisit around tickMs event plant rule =
          triggerMode around tickMs conditionNow
            (conditionNow && !runtime.condition) plant
            (rule.evaluated conditionNow around.nowMs)) ∧
      (guardVisit around event plant rule).1 = plant

theorem automationEvalInterlock_zero (store : StateStore) :
    automationEvalInterlock store .zero = true := by
  simp [automationEvalInterlock, AutomationInterlock.zero]

theorem guardVisit_free
    (around : Surroundings) (event : EndapEvent) (plant : Plant)
    (node : AutomationNode) (runtime : AutomationRuntime)
    (diag : AutomationRuleDiag) :
    (guardVisit around event plant (freeRule node runtime diag)).1 =
      plant := by
  simp [guardVisit, freeRule, AutomationInterlock.zero]

theorem actsFreely (node : AutomationNode) : ActsFreely node := by
  intro around tickMs event plant runtime diag rule conditionNow
  refine ⟨?_, guardVisit_free around event plant node runtime diag⟩
  intro isInput
  exact
    triggerVisit_permitted tickMs isInput
      (automationEvalInterlock_zero plant.store)

/-- A `FOLLOW` rule drives its output with every event of its input. -/
theorem follows_of_follow
    {node : AutomationNode} {drives : Int32 → Int32}
    (follow : node.mode = AutomationMode.follow.code)
    (driven :
      ∀ value,
        (if automationEvalRule node value then node.onTrue.toInt32
          else node.onFalse.toInt32) = drives value) :
    Follows node node.input node.output drives := by
  intro around tickMs event plant runtime diag rule visited
  refine ⟨rfl, ?_, ?_, guardVisit_free around event plant node runtime diag, ?_⟩
  · intro other
    have visitIs : visited = (plant, rule) := if_pos (Ne.symm other)
    rw [visitIs]
  · intro isInput
    have permitted : automationEvalInterlock plant.store rule.interlock =
        true :=
      automationEvalInterlock_zero plant.store
    rw [← driven]
    exact ⟨_, _, rfl, triggerVisit_follow tickMs isInput permitted follow⟩
  · have isFollow : AutomationMode.ofCode rule.node.mode = some .follow := by
      change AutomationMode.ofCode node.mode = some .follow
      rw [follow]
      rfl
    rw [tickVisit, isFollow]
    split
    · rfl
    · split
      · rfl
      · rfl

theorem AutomationNodeV1.follows (node : AutomationNodeV1) :
    Follows node.migrated node.input node.output node.drives := by
  refine follows_of_follow rfl ?_
  intro value
  by_cases above : node.threshold < value
  · simp [automationEvalRule, AutomationNodeV1.migrated,
      AutomationOperator.ofCode, AutomationOperator.compare,
      AutomationNodeV1.drives, above]
  · simp [automationEvalRule, AutomationNodeV1.migrated,
      AutomationOperator.ofCode, AutomationOperator.compare,
      AutomationNodeV1.drives, above]

theorem AutomationNodeV2.follows (node : AutomationNodeV2) :
    Follows node.migrated node.input node.output node.drives := by
  refine follows_of_follow rfl ?_
  intro value
  rw [automationEvalRule, AutomationNodeV2.drives]
  change
    (if (match AutomationOperator.ofCode node.op with
        | some operator => operator.compare value node.threshold
        | none => false) = true then
      node.onTrue.toInt32 else node.onFalse.toInt32) = _
  cases AutomationOperator.ofCode node.op with
  | _ => rfl

/-! ## Reboots -/

/-- The record of a store whose last persist succeeded gives its rules
back. -/
theorem rules_of_lastPersist
    {start : Runtime} {calls : List Call} {memory : BootMemory}
    (outcome : NvsOutcome)
    (loadable : Loadable (start.automation.configs.map Prod.fst))
    (succeeded :
      lastPersist (Run.history Runtime.call start (calls.map Call.onDevice)) =
        some .committed)
    (content :
      memory.nvs =
        (Run.final Runtime.call start
          (calls.map Call.onDevice)).automation.record) :
    (automationEngineInit outcome memory).rules =
      (Run.final Runtime.call start
        (calls.map Call.onDevice)).automation.configs.map configImage := by
  have saved := saved_of_lastPersist start calls succeeded
  have kept :
      WellKept
        (fun existing candidate =>
          automationRuleConflicts existing candidate = false)
        (Run.final Runtime.call start
          (calls.map Call.onDevice)).automation.configs := by
    refine final_wellKept (fun _ _ compatible => compatible.2) ?_ calls
    refine ⟨?_, loadable.2⟩
    intro config member
    exact loadable.1 config.1 (List.mem_map_of_mem member)
  generalize
    (Run.final Runtime.call start (calls.map Call.onDevice)).automation =
      reached at saved content kept
  have fits :
      (reached.configs.map configImage).length ≤
        automationEngineMaxNodes := by
    rw [List.length_map, AutomationStore.configs, List.length_map]
    exact reached.fits
  have isRecord :
      memory.nvs =
        some (automationRecord (reached.configs.map configImage)) := by
    rw [content, AutomationStore.record, saved]
    rfl
  have nodes :
      (reached.configs.map configImage).map Prod.fst =
        reached.configs.map Prod.fst :=
    List.map_map
  refine
    (automationEngineInit_records outcome isRecord
      (records_automationRecord fits)).1 ?_
  rw [nodes]
  refine ⟨?_, kept.pairwise⟩
  intro node member
  rcases List.mem_map.mp member with ⟨config, stored, rfl⟩
  exact kept.valid config stored

theorem rules_of_installed
    {memory : BootMemory} {outcome : NvsOutcome} {bytes : List UInt8}
    (content : memory.nvs = some bytes)
    (installed : (automationEngineInit outcome memory).nodeCount ≠ 0)
    (records : Records bytes rules) :
    (automationEngineInit outcome memory).rules = rules := by
  have loads := automationEngineInit_records outcome content records
  by_cases loadable : Loadable (rules.map Prod.fst)
  · exact loads.1 loadable
  · exact absurd (loads.2 loadable) installed

/--
Every store whose last persist succeeded is rebuilt at boot: the same rules
and interlocks in the same order.  Whatever the storage holds, all rules of a
well-formed record are installed when they are valid and free of conflicts,
and none otherwise.  Rules of older versions act as they did.
-/
theorem automation_rules_survive_reboot :
    (∀ (start : Runtime) (calls : List Call) (memory : BootMemory)
        (outcome : NvsOutcome),
      Loadable (start.automation.configs.map Prod.fst) →
      let made := calls.map Call.onDevice
      let reached := (Run.final Runtime.call start made).automation
      lastPersist (Run.history Runtime.call start made) =
          some .committed →
        memory.nvs = reached.record →
        (automationEngineInit outcome memory).rules =
          reached.configs.map configImage) ∧
      (∀ (memory : BootMemory) (outcome : NvsOutcome),
        let loaded := automationEngineInit outcome memory
        (loaded.nodeCount = 0 ∨
        ∃ bytes rules,
          memory.nvs = some bytes ∧ Records bytes rules ∧
          Loadable (rules.map Prod.fst) ∧ loaded.rules = rules) ∧
        ∀ bytes rules,
          memory.nvs = some bytes →
          Records bytes rules →
          Loadable (rules.map Prod.fst) → loaded.rules = rules) ∧
      ∀ (memory : BootMemory) (outcome : NvsOutcome) (bytes : List UInt8),
        memory.nvs = some bytes →
        let loaded := automationEngineInit outcome memory
        loaded.nodeCount ≠ 0 →
        (WellFormed arraysV1Layout automationVersionV1 bytes →
        loaded.rules =
            plain ((listedRulesV1 bytes).map AutomationNodeV1.migrated) ∧
        ∀ node ∈ listedRulesV1 bytes,
          Follows node.migrated node.input node.output node.drives) ∧
        (WellFormed arraysV2Layout automationVersionV2 bytes →
        loaded.rules =
            plain ((listedRulesV2 bytes).map AutomationNodeV2.migrated) ∧
        ∀ node ∈ listedRulesV2 bytes,
          Follows node.migrated node.input node.output node.drives) ∧
        (WellFormed arraysV3Layout automationVersionV3 bytes →
        loaded.rules = plain (listedRulesV3 bytes) ∧
        ∀ node ∈ listedRulesV3 bytes, ActsFreely node) := by
  refine ⟨?_, ?_, ?_⟩
  · intro start calls memory outcome loadable made reached succeeded content
    exact rules_of_lastPersist outcome loadable succeeded content
  · intro memory outcome loaded
    refine ⟨automationEngineInit_all_or_nothing outcome memory, ?_⟩
    intro bytes rules content records
    exact (automationEngineInit_records outcome content records).1
  · intro memory outcome bytes content loaded installed
    refine ⟨?_, ?_, ?_⟩
    · intro wellFormed
      exact
        ⟨rules_of_installed content installed (.first wellFormed),
          fun node _ => AutomationNodeV1.follows node⟩
    · intro wellFormed
      exact
        ⟨rules_of_installed content installed (.second wellFormed),
          fun node _ => AutomationNodeV2.follows node⟩
    · intro wellFormed
      exact
        ⟨rules_of_installed content installed (.third wellFormed),
          fun node _ => actsFreely node⟩

def coldMemory (nvs : Option (List UInt8)) : BootMemory where
  nodes := fun _ => .zero
  interlocks := fun _ => .zero
  runtimeNodes := fun _ => .zero
  ruleDiags := fun _ => .zero
  nodeCount := 0
  tickMs := 0
  persistedConfig := false
  nvs := nvs

def interlockedRules : List Call :=
  [.addRule standalone forcingRule .committed,
    .addRule standalone delayedRule .committed,
    .setInterlockAt 1 (some doorClosed) .committed]

def ruleV1 : AutomationNodeV1 where
  input := 10
  output := 100
  threshold := 5

def automationRecordV1 : List UInt8 :=
  Layout.stamp automationCrc32 (automationBlobLayout arraysV1Layout)
    { magic := automationMagic
      version := automationVersionV1
      count := 1
      arrays := fun _ => ruleV1 }

theorem read_automationRecordV1 :
    (automationBlobLayout arraysV1Layout).read automationRecordV1 =
      { magic := automationMagic
        version := automationVersionV1
        count := 1
        arrays := fun _ => ruleV1 } :=
  Layout.read_stamp _ _ _

theorem automationRecordV1_wellFormed :
    WellFormed arraysV1Layout automationVersionV1 automationRecordV1 := by
  refine ⟨Layout.stamp_length _ _ _, ?_⟩
  rw [BlobAccepted, read_automationRecordV1]
  exact ⟨rfl, rfl, by decide, Layout.intact_stamp _ _ _⟩

theorem listedRulesV1_automationRecordV1 :
    listedRulesV1 automationRecordV1 = [ruleV1] := by
  rw [listedRulesV1, read_automationRecordV1]
  rfl

/-- The two rules come back, and so does the old one. -/
theorem coldMemory_rebuilds_rules :
    let reached :=
      (Run.final Runtime.call idleRuntime
        (interlockedRules.map Call.onDevice)).automation
    reached.configs.map (fun config => config.1.output) = [101, 100] ∧
    (automationEngineInit .committed (coldMemory reached.record)).rules =
      reached.configs.map configImage ∧
    (automationEngineInit .committed
        (coldMemory (some automationRecordV1))).rules =
      plain [ruleV1.migrated] := by
  intro reached
  have rebuilt :=
    automation_rules_survive_reboot.1 idleRuntime interlockedRules
      (coldMemory reached.record) .committed
      ⟨by simp [idleRuntime, AutomationStore.configs], List.Pairwise.nil⟩
      (by decide +kernel) rfl
  have old :=
    (automation_rules_survive_reboot.2.1
      (coldMemory (some automationRecordV1)) .committed).2
      automationRecordV1 _ rfl (.first automationRecordV1_wellFormed)
  rw [listedRulesV1_automationRecordV1] at old
  refine ⟨by decide +kernel, rebuilt, old ⟨?_, ?_⟩⟩
  · decide
  · exact List.pairwise_singleton _ _

end Endap.Automation
