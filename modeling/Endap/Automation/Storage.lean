import Endap.Automation.Arrays
import Endap.Library.Layout

/-!
# Storage of the automation rules

The rules and their interlocks are kept in non-volatile storage as one stamped
record of the fourth version.  Records of three older versions are still read
at boot and written back in the present one.  The versions have different
sizes, and the size alone selects the branch that reads a record.

The two newer branches check the rules of the record before they copy them.
The two older ones write each rule into the live array as they check it, and
leave the counter at zero when they stop.

An interlock read from storage may name more conditions than there is room
for: nothing checks it.
-/

namespace Endap.Automation

open Endap.Library
open Endap.State

/-! ## The records -/

def automationMagic : UInt32 := 0x4155544F

def automationVersion : UInt16 := 4

def automationVersionV3 : UInt16 := 3

def automationVersionV2 : UInt16 := 2

def automationVersionV1 : UInt16 := 1

def automationCrc32 (data : List UInt8) : UInt32 :=
  data.foldl (fun crc byte => (crc ^^^ byte.toUInt32) * 16777619) 2166136261

/-- `automation_interlock_t` as storage holds it. -/
structure InterlockImage where
  enabled : UInt8
  logicOp : UInt8
  condCount : UInt8
  reserved : UInt8
  conditions : Fin automationMaxInterlockCond → AutomationCondition

/-- The bytes of an interlock of the engine. -/
def AutomationInterlock.image (interlock : AutomationInterlock) :
    InterlockImage where
  enabled := interlock.enabled
  logicOp := interlock.logicOp
  condCount := interlock.condCount
  reserved := interlock.reserved
  conditions := interlock.conditions.get

/-- The interlock that `memset` leaves. -/
def InterlockImage.zero : InterlockImage := AutomationInterlock.zero.image

structure AutomationNodeV1 where
  input : UInt16
  output : UInt16
  threshold : Int32

structure AutomationNodeV2 where
  input : UInt16
  output : UInt16
  threshold : Int32
  op : UInt8
  onTrue : Int8
  onFalse : Int8
  reserved : UInt8

/-- The layout of `automation_node_t`, with two bytes of padding at the end. -/
def automationNodeLayout : Layout AutomationNode :=
  ((Layout.u16.andThen
    (Layout.u16.andThen
      (Layout.i32.andThen
        (Layout.u8.andThen
          (Layout.u8.andThen
            (Layout.u16.andThen
              (Layout.i8.andThen Layout.i8))))))).trailing 2).retype
    (fun (input, output, threshold, op, mode, durationMs, onTrue,
        onFalse) =>
      { input := input
        output := output
        threshold := threshold
        op := op
        mode := mode
        durationMs := durationMs
        onTrue := onTrue
        onFalse := onFalse })
    (fun node =>
      (node.input, node.output, node.threshold, node.op, node.mode,
        node.durationMs, node.onTrue, node.onFalse))
    (fun _ => rfl)

/-- The layout of `automation_condition_t`. -/
def automationConditionLayout : Layout AutomationCondition :=
  (Layout.u16.andThen (Layout.u8.andThen Layout.i8)).retype
    (fun (channel, op, targetVal) =>
      { channel := channel, op := op, targetVal := targetVal })
    (fun condition =>
      (condition.channel, condition.op, condition.targetVal))
    (fun _ => rfl)

/-- The layout of `automation_interlock_t`. -/
def automationInterlockLayout : Layout InterlockImage :=
  (Layout.u8.andThen
    (Layout.u8.andThen
      (Layout.u8.andThen
        (Layout.u8.andThen
          (Layout.array automationMaxInterlockCond
            automationConditionLayout))))).retype
    (fun (enabled, logicOp, condCount, reserved, conditions) =>
      { enabled := enabled
        logicOp := logicOp
        condCount := condCount
        reserved := reserved
        conditions := conditions })
    (fun interlock =>
      (interlock.enabled, interlock.logicOp, interlock.condCount,
        interlock.reserved, interlock.conditions))
    (fun _ => rfl)

/-- The layout of `automation_node_v2_t`. -/
def automationNodeV2Layout : Layout AutomationNodeV2 :=
  (Layout.u16.andThen
    (Layout.u16.andThen
      (Layout.i32.andThen
        (Layout.u8.andThen
          (Layout.i8.andThen (Layout.i8.andThen Layout.u8)))))).retype
    (fun (input, output, threshold, op, onTrue, onFalse, reserved) =>
      { input := input
        output := output
        threshold := threshold
        op := op
        onTrue := onTrue
        onFalse := onFalse
        reserved := reserved })
    (fun node =>
      (node.input, node.output, node.threshold, node.op, node.onTrue,
        node.onFalse, node.reserved))
    (fun _ => rfl)

/-- The layout of `automation_node_v1_t`. -/
def automationNodeV1Layout : Layout AutomationNodeV1 :=
  (Layout.u16.andThen (Layout.u16.andThen Layout.i32)).retype
    (fun (input, output, threshold) =>
      { input := input, output := output, threshold := threshold })
    (fun node => (node.input, node.output, node.threshold))
    (fun _ => rfl)

/-- The fields of a blob before the checksum; the versions differ in the
arrays. -/
structure AutomationBlob (Arrays : Type) where
  magic : UInt32
  version : UInt16
  count : UInt16
  arrays : Arrays

/-- The layout of a blob before the checksum. -/
def automationBlobLayout {Arrays : Type} (arrays : Layout Arrays) :
    Layout (AutomationBlob Arrays) :=
  (Layout.u32.andThen
    (Layout.u16.andThen (Layout.u16.andThen arrays))).retype
    (fun (magic, version, count, arrays) =>
      { magic := magic
        version := version
        count := count
        arrays := arrays })
    (fun blob => (blob.magic, blob.version, blob.count, blob.arrays))
    (fun _ => rfl)

/-- The arrays of `automation_blob_t`. -/
def arraysLayout :
    Layout
      ((Fin automationEngineMaxNodes → AutomationNode) ×
        (Fin automationEngineMaxNodes → InterlockImage)) :=
  (Layout.array automationEngineMaxNodes automationNodeLayout).andThen
    (Layout.array automationEngineMaxNodes automationInterlockLayout)

/-- The array of `automation_blob_v3_t`. -/
def arraysV3Layout : Layout (Fin automationEngineMaxNodes → AutomationNode) :=
  Layout.array automationEngineMaxNodes automationNodeLayout

/-- The array of `automation_blob_v2_t`. -/
def arraysV2Layout : Layout (Fin automationEngineMaxNodes → AutomationNodeV2) :=
  Layout.array automationEngineMaxNodes automationNodeV2Layout

/-- The array of `automation_blob_v1_t`. -/
def arraysV1Layout : Layout (Fin automationEngineMaxNodes → AutomationNodeV1) :=
  Layout.array automationEngineMaxNodes automationNodeV1Layout

/-- The size of a record with these arrays. -/
def recordSize {Arrays : Type} (arrays : Layout Arrays) : Nat :=
  (automationBlobLayout arrays).stampedSize

/-- The checks that `automation_load` makes of a blob of the right size. -/
def BlobAccepted {Arrays : Type} (arrays : Layout Arrays) (version : UInt16)
    (bytes : List UInt8) : Prop :=
  ((automationBlobLayout arrays).read bytes).magic = automationMagic ∧
  ((automationBlobLayout arrays).read bytes).version = version ∧
  ((automationBlobLayout arrays).read bytes).count.toNat ≤
    automationEngineMaxNodes ∧
  Layout.Intact automationCrc32 (automationBlobLayout arrays) bytes

instance {Arrays : Type} (arrays : Layout Arrays) (version : UInt16)
    (bytes : List UInt8) : Decidable (BlobAccepted arrays version bytes) :=
  inferInstanceAs (Decidable (_ ∧ _))

/-- The elements of an array of the blob that are in use. -/
def AutomationBlob.listed {Arrays Element : Type}
    (blob : AutomationBlob Arrays)
    (element : Arrays → Fin automationEngineMaxNodes → Element) :
    List Element :=
  (List.ofFn (element blob.arrays)).take blob.count.toNat

theorem recordSizes :
    recordSize arraysLayout = 460 ∧ recordSize arraysV3Layout = 268 ∧
    recordSize arraysV2Layout = 204 ∧ recordSize arraysV1Layout = 140 :=
  ⟨rfl, rfl, rfl, rfl⟩

/-! ## Rules of older versions -/

/-- A rule of the second version in the present form. -/
def AutomationNodeV2.migrated (node : AutomationNodeV2) : AutomationNode where
  input := node.input
  output := node.output
  threshold := node.threshold
  op := node.op
  mode := AutomationMode.follow.code
  durationMs := 0
  onTrue := node.onTrue
  onFalse := node.onFalse

/-- A rule of the first version in the present form. -/
def AutomationNodeV1.migrated (node : AutomationNodeV1) : AutomationNode where
  input := node.input
  output := node.output
  threshold := node.threshold
  op := 0
  mode := AutomationMode.follow.code
  durationMs := 0
  onTrue := 1
  onFalse := 0

/-! ## The engine at boot -/

/-- What `automation_engine_init` sets up, with the record in storage. -/
structure BootMemory where
  nodes : Nat → AutomationNode
  interlocks : Nat → InterlockImage
  runtimeNodes : Nat → AutomationRuntime
  ruleDiags : Nat → AutomationRuleDiag
  nodeCount : Nat
  tickMs : UInt32
  persistedConfig : Bool
  nvs : Option (List UInt8)

namespace BootMemory

/-- A rule with its interlock. -/
def pair (memory : BootMemory) (index : Nat) :
    AutomationNode × InterlockImage :=
  (memory.nodes index, memory.interlocks index)

/-- The rules with their interlocks, in order. -/
def rules (memory : BootMemory) : List (AutomationNode × InterlockImage) :=
  ArrayList.listed memory.pair memory.nodeCount

end BootMemory

/-- The blob that `automation_persist` fills. -/
def automationBlobOf
    (rules : List (AutomationNode × InterlockImage)) :
    AutomationBlob
      ((Fin automationEngineMaxNodes → AutomationNode) ×
        (Fin automationEngineMaxNodes → InterlockImage)) where
  magic := automationMagic
  version := automationVersion
  count := UInt16.ofNat rules.length
  arrays :=
    (fun index => (rules[index.val]?.map Prod.fst).getD .zero,
      fun index => (rules[index.val]?.map Prod.snd).getD .zero)

/-- The bytes that `automation_persist` writes. -/
def automationRecord
    (rules : List (AutomationNode × InterlockImage)) : List UInt8 :=
  Layout.stamp automationCrc32 (automationBlobLayout arraysLayout)
    (automationBlobOf rules)

namespace BootMemory

/-- `automation_persist`. -/
def persist (outcome : NvsOutcome) (memory : BootMemory) : BootMemory :=
  { memory with
    nvs := nvsWrite outcome memory.nvs (some (automationRecord memory.rules))
    persistedConfig := memory.persistedConfig || outcome.succeeds }

/-- `memcpy` of the listed rules and interlocks into the live arrays. -/
def copyRules
    (rules : List (AutomationNode × InterlockImage))
    (memory : BootMemory) : BootMemory :=
  { memory with
    nodes := fun index =>
      (rules[index]?.map Prod.fst).getD (memory.nodes index)
    interlocks := fun index =>
      (rules[index]?.map Prod.snd).getD (memory.interlocks index) }

/-- The counter and the flag after the rules are in place. -/
def restored (count : UInt16) (memory : BootMemory) : BootMemory :=
  { memory with nodeCount := count.toNat, persistedConfig := true }

/-- One rule and a cleared interlock in the live arrays. -/
def writeRule (index : Nat) (node : AutomationNode) (memory : BootMemory) :
    BootMemory :=
  { memory with
    nodes := Function.update memory.nodes index node
    interlocks := Function.update memory.interlocks index .zero }

end BootMemory

/-- The loop that checks the rules of a blob, after the `earlier` ones. -/
def rulesAccepted (earlier : List AutomationNode) :
    List AutomationNode → Bool
  | [] => true
  | node :: rest =>
      automationRuleIsValid node &&
        !(earlier.any fun stored => automationRuleConflicts stored node) &&
        rulesAccepted (earlier ++ [node]) rest

/-- The loop that checks and writes migrated rules; false when it stops. -/
def migrateRules (index : Nat) (memory : BootMemory) :
    List AutomationNode → Bool × BootMemory
  | [] => (true, memory)
  | migrated :: rest =>
      if !automationRuleIsValid migrated then (false, memory)
      else if
          (List.range index).any fun stored =>
            automationRuleConflicts (memory.nodes stored) migrated then
        (false, memory)
      else
        migrateRules (index + 1) (memory.writeRule index migrated) rest

/-- The branch of `automation_load` for the present version. -/
def loadBlob (bytes : List UInt8) (memory : BootMemory) : BootMemory :=
  let blob := (automationBlobLayout arraysLayout).read bytes
  let rules := blob.listed fun arrays index => (arrays.1 index, arrays.2 index)
  if BlobAccepted arraysLayout automationVersion bytes then
    if rulesAccepted [] (rules.map Prod.fst) then
      (memory.copyRules rules).restored blob.count
    else memory
  else memory

/-- The branch of `automation_load` for the third version. -/
def loadBlobV3 (outcome : NvsOutcome) (bytes : List UInt8)
    (memory : BootMemory) : BootMemory :=
  let blob := (automationBlobLayout arraysV3Layout).read bytes
  let nodes := blob.listed fun arrays => arrays
  if BlobAccepted arraysV3Layout automationVersionV3 bytes then
    if rulesAccepted [] nodes then
      ((memory.copyRules (nodes.map fun node => (node, .zero))).restored
        blob.count).persist outcome
    else memory
  else memory

/-- The branch of `automation_load` for a version with other rules. -/
def migrateBlob {Node : Type} (node : Layout Node) (version : UInt16)
    (migrated : Node → AutomationNode) (outcome : NvsOutcome)
    (bytes : List UInt8) (memory : BootMemory) : BootMemory :=
  let arrays := Layout.array automationEngineMaxNodes node
  let blob := (automationBlobLayout arrays).read bytes
  if BlobAccepted arrays version bytes then
    let done :=
      migrateRules 0 memory ((blob.listed fun nodes => nodes).map migrated)
    if done.1 then (done.2.restored blob.count).persist outcome
    else done.2
  else memory

/-- The branch of `automation_load` for the second version. -/
def loadBlobV2 : NvsOutcome → List UInt8 → BootMemory → BootMemory :=
  migrateBlob automationNodeV2Layout automationVersionV2
    AutomationNodeV2.migrated

/-- The branch of `automation_load` for the first version. -/
def loadBlobV1 : NvsOutcome → List UInt8 → BootMemory → BootMemory :=
  migrateBlob automationNodeV1Layout automationVersionV1
    AutomationNodeV1.migrated

/-- `automation_load`; the record is absent when it cannot be read. -/
def automationLoad (outcome : NvsOutcome) (memory : BootMemory) :
    BootMemory :=
  match memory.nvs with
  | none => memory
  | some bytes =>
      if bytes.length = recordSize arraysLayout then
        loadBlob bytes memory
      else if bytes.length = recordSize arraysV3Layout then
        loadBlobV3 outcome bytes memory
      else if bytes.length = recordSize arraysV2Layout then
        loadBlobV2 outcome bytes memory
      else if bytes.length = recordSize arraysV1Layout then
        loadBlobV1 outcome bytes memory
      else memory

/-- The memory as `automation_engine_init` clears it; the interlocks are left
as they are. -/
def BootMemory.cleared (memory : BootMemory) : BootMemory :=
  { memory with
    nodes := fun _ => .zero
    runtimeNodes := fun _ => .zero
    ruleDiags := fun _ => .zero
    nodeCount := 0
    tickMs := 0
    persistedConfig := false }

/-- `automation_engine_init`; the outcome is that of writing a migrated record
back. -/
def automationEngineInit (outcome : NvsOutcome) (memory : BootMemory) :
    BootMemory :=
  automationLoad outcome memory.cleared

/-! ## What a record lists -/

def plain (nodes : List AutomationNode) :
    List (AutomationNode × InterlockImage) :=
  nodes.map fun node => (node, .zero)

/-- The rules of a record of the present version. -/
def listedRules (bytes : List UInt8) : List (AutomationNode × InterlockImage) :=
  ((automationBlobLayout arraysLayout).read bytes).listed
    fun arrays index => (arrays.1 index, arrays.2 index)

/-- The rules of a record of the third version. -/
def listedRulesV3 (bytes : List UInt8) : List AutomationNode :=
  ((automationBlobLayout arraysV3Layout).read bytes).listed fun arrays => arrays

/-- The rules of a record of the second version. -/
def listedRulesV2 (bytes : List UInt8) : List AutomationNodeV2 :=
  ((automationBlobLayout arraysV2Layout).read bytes).listed fun arrays => arrays

/-- The rules of a record of the first version. -/
def listedRulesV1 (bytes : List UInt8) : List AutomationNodeV1 :=
  ((automationBlobLayout arraysV1Layout).read bytes).listed fun arrays => arrays

/-- A record with the size, magic, version, count and checksum it should
have. -/
def WellFormed {Arrays : Type} (arrays : Layout Arrays) (version : UInt16)
    (bytes : List UInt8) : Prop :=
  bytes.length = recordSize arrays ∧ BlobAccepted arrays version bytes

/-- The bytes are a well-formed record of these rules. -/
inductive Records (bytes : List UInt8) :
    List (AutomationNode × InterlockImage) → Prop
  | present
      (wellFormed : WellFormed arraysLayout automationVersion bytes) :
      Records bytes (listedRules bytes)
  | third
      (wellFormed : WellFormed arraysV3Layout automationVersionV3 bytes) :
      Records bytes (plain (listedRulesV3 bytes))
  | second
      (wellFormed : WellFormed arraysV2Layout automationVersionV2 bytes) :
      Records bytes
        (plain ((listedRulesV2 bytes).map AutomationNodeV2.migrated))
  | first
      (wellFormed : WellFormed arraysV1Layout automationVersionV1 bytes) :
      Records bytes
        (plain ((listedRulesV1 bytes).map AutomationNodeV1.migrated))

/-- The rules are valid, and none conflicts with an earlier one. -/
def Loadable (nodes : List AutomationNode) : Prop :=
  (∀ node ∈ nodes, automationRuleIsValid node = true) ∧
  nodes.Pairwise fun existing candidate =>
    automationRuleConflicts existing candidate = false

/-! ## The loops -/

theorem rulesAccepted_iff (earlier nodes : List AutomationNode) :
    rulesAccepted earlier nodes = true ↔
    Loadable nodes ∧
    ∀ existing ∈ earlier, ∀ node ∈ nodes,
      automationRuleConflicts existing node = false := by
  induction nodes generalizing earlier with
  | nil => simp [rulesAccepted, Loadable]
  | cons node rest induction =>
      have later := induction (earlier ++ [node])
      simp only [rulesAccepted, Bool.and_eq_true, Bool.not_eq_true',
        List.any_eq_false, Bool.not_eq_true, later, Loadable,
        List.forall_mem_cons, List.pairwise_cons]
      constructor
      · rintro ⟨⟨valid, free⟩, ⟨restValid, restPairwise⟩, separate⟩
        refine ⟨⟨⟨valid, restValid⟩, ?_, restPairwise⟩, ?_⟩
        · exact separate node (List.mem_append_right _ (by simp))
        · intro existing member
          exact
            ⟨free existing member,
              separate existing (List.mem_append_left _ member)⟩
      · rintro ⟨⟨⟨valid, restValid⟩, ofNode, restPairwise⟩, separate⟩
        refine ⟨⟨valid, ?_⟩, ⟨restValid, restPairwise⟩, ?_⟩
        · intro existing member
          exact (separate existing member).1
        · intro existing member
          rcases List.mem_append.mp member with before | isNode
          · exact (separate existing before).2
          · rw [List.mem_singleton.mp isNode]
            exact ofNode

theorem rulesAccepted_nil_iff (nodes : List AutomationNode) :
    rulesAccepted [] nodes = true ↔ Loadable nodes := by
  rw [rulesAccepted_iff]
  simp

theorem persist_rules (outcome : NvsOutcome) (memory : BootMemory) :
    (memory.persist outcome).rules = memory.rules :=
  rfl

theorem restored_rules (count : UInt16) (memory : BootMemory) :
    (memory.restored count).rules = ArrayList.listed memory.pair count.toNat :=
  rfl

theorem copyRules_rules
    (rules : List (AutomationNode × InterlockImage)) (memory : BootMemory)
    {count : UInt16} (counted : count.toNat = rules.length) :
    ((memory.copyRules rules).restored count).rules = rules := by
  apply List.ext_getElem?
  intro index
  rw [BootMemory.rules, ArrayList.listed_getElem?]
  simp only [BootMemory.restored, counted]
  by_cases inside : index < rules.length
  · simp [BootMemory.pair, BootMemory.copyRules, inside]
  · simp [inside]

theorem pair_writeRule
    (index : Nat) (node : AutomationNode) (memory : BootMemory) :
    (memory.writeRule index node).pair =
      Function.update memory.pair index (node, .zero) := by
  funext position
  by_cases here : position = index
  · subst here
    simp [BootMemory.pair, BootMemory.writeRule]
  · simp [BootMemory.pair, BootMemory.writeRule, here]

/--
The loop over migrated rules accepts what the loop over the rules of a blob
accepts, and then has put them into the arrays; it never moves the counter.
-/
theorem migrateRules_spec
    (index : Nat) (memory : BootMemory) (nodes : List AutomationNode) :
    let done := migrateRules index memory nodes
    done.1 = rulesAccepted (ArrayList.listed memory.nodes index) nodes ∧
    (done.1 = true →
    ArrayList.listed done.2.pair (index + nodes.length) =
      ArrayList.listed memory.pair index ++ plain nodes) ∧
    done.2.nodeCount = memory.nodeCount := by
  induction nodes generalizing index memory with
  | nil =>
      refine ⟨rfl, ?_, rfl⟩
      intro _
      exact (List.append_nil _).symm
  | cons node rest induction =>
      have searched :
          ((List.range index).any fun stored =>
            automationRuleConflicts (memory.nodes stored) node) =
            (ArrayList.listed memory.nodes index).any fun stored =>
              automationRuleConflicts stored node := by
        rw [ArrayList.listed, List.any_map]
        rfl
      simp only [migrateRules, rulesAccepted, searched]
      by_cases valid : automationRuleIsValid node = true
      · by_cases clash :
            ((ArrayList.listed memory.nodes index).any fun stored =>
              automationRuleConflicts stored node) = true
        · simp [valid, clash]
        · have later := induction (index + 1) (memory.writeRule index node)
          have nodesThen :
              ArrayList.listed (memory.writeRule index node).nodes (index + 1) =
                ArrayList.listed memory.nodes index ++ [node] :=
            ArrayList.listed_push _ _ _
          have pairsThen :
              ArrayList.listed (memory.writeRule index node).pair (index + 1) =
                ArrayList.listed memory.pair index ++ [(node, .zero)] := by
            rw [pair_writeRule]
            exact ArrayList.listed_push _ _ _
          rw [nodesThen, pairsThen] at later
          simp only [valid, clash, Bool.not_true, Bool.false_eq_true,
            if_false, Bool.not_false, Bool.true_and]
          refine ⟨later.1, ?_, later.2.2⟩
          intro accepted
          have placed := later.2.1 accepted
          rw [List.append_assoc] at placed
          rw [List.length_cons, Nat.add_comm rest.length 1, ← Nat.add_assoc]
          exact placed
      · simp [valid]

theorem listed_length
    {Arrays Element : Type} {blob : AutomationBlob Arrays}
    (element : Arrays → Fin automationEngineMaxNodes → Element)
    (fits : blob.count.toNat ≤ automationEngineMaxNodes) :
    (blob.listed element).length = blob.count.toNat := by
  rw [AutomationBlob.listed, List.length_take, List.length_ofFn]
  exact Nat.min_eq_left fits

/-! ## Loading -/

/-- The rules are loaded when their record is well formed and they may be. -/
def Loads (rules : List (AutomationNode × InterlockImage))
    (memory : BootMemory) : Prop :=
  (Loadable (rules.map Prod.fst) → memory.rules = rules) ∧
  (¬ Loadable (rules.map Prod.fst) → memory.nodeCount = 0)

theorem loadBlob_loads
    {bytes : List UInt8}
    (accepted : BlobAccepted arraysLayout automationVersion bytes)
    {memory : BootMemory} (empty : memory.nodeCount = 0) :
    Loads (listedRules bytes) (loadBlob bytes memory) := by
  have counted := listed_length
    (fun arrays index => (arrays.1 index, arrays.2 index))
    accepted.2.2.1
  simp only [Loads, loadBlob, if_pos accepted, ← rulesAccepted_nil_iff]
  constructor
  · intro loadable
    rw [listedRules] at loadable
    rw [if_pos loadable]
    exact copyRules_rules _ _ counted.symm
  · intro refused
    rw [listedRules] at refused
    rw [if_neg refused]
    exact empty

theorem plain_nodes (nodes : List AutomationNode) :
    (plain nodes).map Prod.fst = nodes := by
  rw [plain, List.map_map]
  exact List.map_id _

theorem loadBlobV3_loads
    (outcome : NvsOutcome) {bytes : List UInt8}
    (accepted : BlobAccepted arraysV3Layout automationVersionV3 bytes)
    {memory : BootMemory} (empty : memory.nodeCount = 0) :
    Loads (plain (listedRulesV3 bytes))
      (loadBlobV3 outcome bytes memory) := by
  have counted := listed_length (fun arrays => arrays) accepted.2.2.1
  simp only [Loads, loadBlobV3, if_pos accepted, ← rulesAccepted_nil_iff,
    plain_nodes]
  constructor
  · intro loadable
    rw [listedRulesV3] at loadable
    rw [if_pos loadable, persist_rules]
    refine copyRules_rules _ _ ?_
    rw [List.length_map]
    exact counted.symm
  · intro refused
    rw [listedRulesV3] at refused
    rw [if_neg refused]
    exact empty

theorem migrateBlob_loads
    {Node : Type} (node : Layout Node) (version : UInt16)
    (migrated : Node → AutomationNode) (outcome : NvsOutcome)
    {bytes : List UInt8}
    (accepted :
      BlobAccepted (Layout.array automationEngineMaxNodes node) version bytes)
    {memory : BootMemory} (empty : memory.nodeCount = 0) :
    Loads
      (plain
        ((((automationBlobLayout
          (Layout.array automationEngineMaxNodes node)).read bytes).listed
            fun nodes => nodes).map migrated))
      (migrateBlob node version migrated outcome bytes memory) := by
  have counted := listed_length (fun nodes => nodes) accepted.2.2.1
  have spec :=
    migrateRules_spec 0 memory
      ((((automationBlobLayout
        (Layout.array automationEngineMaxNodes node)).read bytes).listed
          fun nodes => nodes).map migrated)
  rw [List.length_map, counted, Nat.zero_add] at spec
  simp only [Loads, migrateBlob, if_pos accepted, plain_nodes,
    ← rulesAccepted_nil_iff]
  constructor
  · intro loadable
    have completed := spec.1.trans loadable
    rw [if_pos completed, persist_rules, restored_rules]
    exact spec.2.1 completed
  · intro refused
    have stopped := mt spec.1.symm.trans refused
    rw [if_neg stopped]
    exact spec.2.2.trans empty

section

variable
    (outcome : NvsOutcome) {memory : BootMemory} {bytes : List UInt8}
    (content : memory.nvs = some bytes)

include content

/-- The branches of `automation_load`, by the size of the record. -/
theorem automationEngineInit_branches :
    automationEngineInit outcome memory =
      if bytes.length = recordSize arraysLayout then
        loadBlob bytes memory.cleared
      else if bytes.length = recordSize arraysV3Layout then
        loadBlobV3 outcome bytes memory.cleared
      else if bytes.length = recordSize arraysV2Layout then
        loadBlobV2 outcome bytes memory.cleared
      else if bytes.length = recordSize arraysV1Layout then
        loadBlobV1 outcome bytes memory.cleared
      else memory.cleared := by
  have sameContent : memory.cleared.nvs = some bytes := content
  rw [automationEngineInit, automationLoad, sameContent]

theorem automationEngineInit_records
    {rules : List (AutomationNode × InterlockImage)}
    (records : Records bytes rules) :
    Loads rules (automationEngineInit outcome memory) := by
  rcases recordSizes with ⟨size, sizeV3, sizeV2, sizeV1⟩
  rw [automationEngineInit_branches outcome content, size, sizeV3, sizeV2,
    sizeV1]
  cases records with
  | present wellFormed =>
      rw [if_pos (wellFormed.1.trans size)]
      exact loadBlob_loads wellFormed.2 rfl
  | third wellFormed =>
      have length := wellFormed.1.trans sizeV3
      rw [if_neg (by rw [length]; decide), if_pos length]
      exact loadBlobV3_loads outcome wellFormed.2 rfl
  | second wellFormed =>
      have length := wellFormed.1.trans sizeV2
      rw [if_neg (by rw [length]; decide), if_neg (by rw [length]; decide),
        if_pos length]
      exact migrateBlob_loads _ _ _ outcome wellFormed.2 rfl
  | first wellFormed =>
      have length := wellFormed.1.trans sizeV1
      rw [if_neg (by rw [length]; decide), if_neg (by rw [length]; decide),
        if_neg (by rw [length]; decide), if_pos length]
      exact migrateBlob_loads _ _ _ outcome wellFormed.2 rfl

theorem automationEngineInit_not_records
    (notRecord : ∀ rules, ¬ Records bytes rules) :
    (automationEngineInit outcome memory).nodeCount = 0 := by
  rw [automationEngineInit_branches outcome content]
  split
  · next size =>
      have refused : ¬ BlobAccepted arraysLayout automationVersion bytes :=
        fun accepted => notRecord _ (.present ⟨size, accepted⟩)
      exact congrArg BootMemory.nodeCount (if_neg refused)
  · split
    · next size =>
        have refused :
            ¬ BlobAccepted arraysV3Layout automationVersionV3 bytes :=
          fun accepted => notRecord _ (.third ⟨size, accepted⟩)
        exact congrArg BootMemory.nodeCount (if_neg refused)
    · split
      · next size =>
          have refused :
              ¬ BlobAccepted arraysV2Layout automationVersionV2 bytes :=
            fun accepted => notRecord _ (.second ⟨size, accepted⟩)
          exact congrArg BootMemory.nodeCount (if_neg refused)
      · split
        · next size =>
            have refused :
                ¬ BlobAccepted arraysV1Layout automationVersionV1 bytes :=
              fun accepted => notRecord _ (.first ⟨size, accepted⟩)
            exact congrArg BootMemory.nodeCount (if_neg refused)
        · rfl

end

theorem automationEngineInit_all_or_nothing
    (outcome : NvsOutcome) (memory : BootMemory) :
    (automationEngineInit outcome memory).nodeCount = 0 ∨
    ∃ bytes rules,
      memory.nvs = some bytes ∧ Records bytes rules ∧
      Loadable (rules.map Prod.fst) ∧
      (automationEngineInit outcome memory).rules = rules := by
  cases content : memory.nvs with
  | none =>
      have sameContent : memory.cleared.nvs = none := content
      rw [automationEngineInit, automationLoad, sameContent]
      exact Or.inl rfl
  | some bytes =>
      by_cases isRecord : ∃ rules, Records bytes rules
      · rcases isRecord with ⟨rules, records⟩
        have loads := automationEngineInit_records outcome content records
        by_cases loadable : Loadable (rules.map Prod.fst)
        · exact Or.inr ⟨bytes, rules, rfl, records, loadable, loads.1 loadable⟩
        · exact Or.inl (loads.2 loadable)
      · refine Or.inl ?_
        exact
          automationEngineInit_not_records outcome content
            (not_exists.mp isRecord)

end Endap.Automation
