import Endap.Automation.Interlock
import Endap.Automation.RuleStore
import Endap.Failsafe.Faults
import Endap.State.EventBus
import Mathlib.Data.List.Pairwise

/-!
# Outputs that follow their input

Writes of the state table queue events; the scheduler hands one of them to the
engine in each cycle.  A `FOLLOW` rule applies its condition to the value the
event carries, not to the present value of its input, so its output may lag
behind.  It has caught up when the queue is empty, provided that the last
change of its input found room in the queue: a full ring drops the event, and
nothing brings the change back.

Along every run the newest waiting event of the input carries its present
value, and while none waits the output agrees with the input.
-/

namespace Endap.Automation

open Endap.Cluster
open Endap.Device
open Endap.Failsafe
open Endap.Library
open Endap.State

/-! ## Dispatching events -/

def eventBusBudget : Nat := 1

/--
`event_bus_dispatch_budgeted`.  The engine and input learning subscribe to
state changes, and nothing else does; input learning writes no state.
-/
def eventBusDispatchBudgeted (around : Surroundings) :
    Nat → Runtime → Runtime
  | 0, runtime => runtime
  | budget + 1, runtime =>
      match eventBusPop runtime.store.bus with
      | none => runtime
      | some (event, rest) =>
          eventBusDispatchBudgeted around budget
            (automationEventHandler around event
              { runtime with
                store := { runtime.store with bus := rest } }).1

/-- A write of the state table by any component, or the events of a cycle. -/
inductive BusCall where
  | stateWrite (id : UInt16) (value : Int32)
  | runEvents (around : Surroundings)

/-- The effect of one call. -/
def Runtime.busCall (runtime : Runtime) : BusCall → Runtime × Unit
  | .stateWrite id value =>
      ({ runtime with store := stateSetInt runtime.store id value }, ())
  | .runEvents around =>
      (eventBusDispatchBudgeted around eventBusBudget runtime, ())

/-! ## The rule that is followed -/

/-- The value that a rule drives its output to for a value of its input. -/
def AutomationNode.drive (node : AutomationNode) (value : Int32) : Int32 :=
  if automationEvalRule node value then node.onTrue.toInt32
  else node.onFalse.toInt32

/--
A stored `FOLLOW` rule without an interlock, whose input is bound to no process
variable, in a store that keeps to its checks.
-/
structure Follower
    (configs : List (AutomationNode × AutomationInterlock))
    (node : AutomationNode) (interlock : AutomationInterlock) : Prop where
  kept : WellKept Compatible configs
  stored : (node, interlock) ∈ configs
  follow : node.mode = AutomationMode.follow.code
  free : interlock.enabled = 0 ∨ interlock.condCount = 0
  unbound : ∀ binding ∈ pveBindings, binding.1 ≠ node.input

/-- The guard lets the commands for an output pass. -/
def Admits (failsafe : FailsafeTable) (outputId : UInt16) : Prop :=
  ∃ entry, failsafeFind failsafe outputId = some entry ∧ ¬ entry.Blocks

instance (failsafe : FailsafeTable) (outputId : UInt16) :
    Decidable (Admits failsafe outputId) :=
  inferInstanceAs
    (Decidable (∃ entry ∈ failsafeFind failsafe outputId, ¬ entry.Blocks))

/-- The call writes the output through no other way than the rule, and finds
it local. -/
def BusCall.Leaves (output : UInt16) : BusCall → Prop
  | .stateWrite id _ => id ≠ output
  | .runEvents around =>
      clusterIoIsLocal around.clusterIo output.toUInt32 = true

instance (output : UInt16) (call : BusCall) :
    Decidable (call.Leaves output) :=
  match call with
  | .stateWrite id _ => inferInstanceAs (Decidable (id ≠ output))
  | .runEvents _ => inferInstanceAs (Decidable (_ = true))

theorem automationRuleIsValid_parts
    {node : AutomationNode} (valid : automationRuleIsValid node = true) :
    node.input ∈ inputProfile ∧ node.output ∈ outputProfile ∧
    automationValidAction node.onTrue.toInt32 = true ∧
    automationValidAction node.onFalse.toInt32 = true := by
  simp only [automationRuleIsValid, Bool.and_eq_true] at valid
  rcases valid with ⟨⟨⟨⟨⟨⟨input, output⟩, _⟩, _⟩, onTrue⟩, onFalse⟩, _⟩
  exact ⟨of_decide_eq_true input, of_decide_eq_true output, onTrue, onFalse⟩

namespace Follower

variable
    {configs : List (AutomationNode × AutomationInterlock)}
    {node : AutomationNode} {interlock : AutomationInterlock}
    (follower : Follower configs node interlock)

include follower

theorem valid : automationRuleIsValid node = true :=
  follower.kept.valid (node, interlock) follower.stored

theorem input_ne
    {config : AutomationNode × AutomationInterlock}
    (member : config ∈ configs) :
    node.input ≠ config.1.output :=
  input_ne_output (automationRuleIsValid_parts follower.valid).1
    (automationRuleIsValid_parts (follower.kept.valid config member)).2.1

theorem only
    {config : AutomationNode × AutomationInterlock}
    (member : config ∈ configs)
    (sameOutput : config.1.output = node.output) :
    config = (node, interlock) := by
  have notForced : automationModeIsForcePair node.mode = false := by
    rw [follower.follow]
    decide
  by_contra different
  have nodesDiffer : config.1 ≠ node := by
    intro sameNode
    exact
      different
        (List.inj_on_of_nodup_map follower.kept.different member
          follower.stored sameNode)
  have symmetric :
      Std.Symm fun left right : AutomationNode =>
        Compatible left right ∨ Compatible right left :=
    ⟨fun _ _ => Or.symm⟩
  have pairs :
      (configs.map Prod.fst).Pairwise fun left right =>
        Compatible left right ∨ Compatible right left :=
    follower.kept.pairwise.imp Or.inl
  have related :=
    pairs.forall (List.mem_map_of_mem follower.stored)
      (List.mem_map_of_mem member) (Ne.symm nodesDiffer)
  exact Compatible.apart related notForced sameOutput

end Follower

/-! ## One dispatch -/

/-- Between two plants at most one output is commanded and written. -/
structure Commanded (output : UInt16) (before after : Plant) : Prop where
  store :
    after.store = before.store ∨
    ∃ value, after.store = stateSetInt before.store output value
  failsafe :
    after.failsafe = before.failsafe ∨
    ∃ value,
      after.failsafe = (failsafeGuardCommand before.failsafe output value).2

theorem Commanded.refl (output : UInt16) (plant : Plant) :
    Commanded output plant plant where
  store := Or.inl rfl
  failsafe := Or.inl rfl

theorem automationDispatchOutput_commanded
    (around : Surroundings) (purpose : Purpose) (value : Int32)
    (plant : Plant) (rule : AutomationRule) :
    Commanded rule.node.output plant
      (automationDispatchOutput around purpose value plant rule).1 := by
  rw [automationDispatchOutput]
  simp only
  split
  · rcases dispatchLocal_plant _ rule.node.output value with
      refused | ⟨_, written, isWritten⟩
    · rw [refused]
      exact ⟨Or.inl rfl, Or.inr ⟨value, rfl⟩⟩
    · rw [isWritten]
      exact ⟨Or.inr ⟨written, rfl⟩, Or.inr ⟨value, rfl⟩⟩
  · rcases dispatchRemote_plant around _ rule.node.output value with
      ⟨queue, queued⟩
    rw [queued]
    exact ⟨Or.inl rfl, Or.inl rfl⟩

variable {plant : Plant} {rule : AutomationRule}

theorem Effect.commanded
    {around : Surroundings} {after : Plant}
    {allowed : Purpose → Prop}
    (effect : Effect around plant rule allowed after) :
    Commanded rule.node.output plant after := by
  cases effect with
  | idle => exact Commanded.refl _ _
  | dispatch purpose value changed sameNode _ _ =>
      have commanded :=
        automationDispatchOutput_commanded around purpose value plant changed
      rw [sameNode] at commanded
      exact commanded

theorem failsafeGuardCommand_admits
    {failsafe : FailsafeTable} {outputId : UInt16}
    (admits : Admits failsafe outputId) (commanded : UInt16)
    (value : Int32) :
    Admits (failsafeGuardCommand failsafe commanded value).2 outputId := by
  rcases admits with ⟨entry, found, passes⟩
  by_cases same : outputId = commanded
  · subst same
    simp only [failsafeGuardCommand, found, if_neg passes]
    refine
      ⟨{ entry with lastAppliedValue := failsafeBinaryValue value }, ?_, passes⟩
    rw [failsafeFind_update_self, found]
    · rfl
    · intro stored
      rfl
  · refine ⟨entry, ?_, passes⟩
    rw [failsafeGuardCommand_find_other failsafe same]
    exact found

theorem Commanded.admits
    {output : UInt16} {before after : Plant}
    (commanded : Commanded output before after) {outputId : UInt16}
    (admits : Admits before.failsafe outputId) :
    Admits after.failsafe outputId := by
  rcases commanded.failsafe with same | ⟨requested, guarded⟩
  · rw [same]
    exact admits
  · rw [guarded]
    exact failsafeGuardCommand_admits admits _ _

theorem dispatchLocal_written
    {output : UInt16}
    (admits : Admits plant.failsafe output) (value : Int32) :
    (dispatchLocal plant output value).plant.store =
      stateSetInt plant.store output (failsafeBinaryValue value) := by
  rcases admits with ⟨entry, found, passes⟩
  simp [dispatchLocal, failsafeGuardCommand, found, if_neg passes]

theorem automationDispatchOutput_written
    {around : Surroundings}
    (isLocal :
      clusterIoIsLocal around.clusterIo rule.node.output.toUInt32 = true)
    (admits : Admits plant.failsafe rule.node.output) (value : Int32)
    (purpose : Purpose) :
    (automationDispatchOutput around purpose value plant rule).1.store =
      stateSetInt plant.store rule.node.output
        (failsafeBinaryValue value) := by
  rw [automationDispatchOutput]
  simp only
  rw [if_pos isLocal]
  apply dispatchLocal_written
  exact admits

theorem failsafeBinaryValue_valid
    {value : Int32} (binary : automationValidAction value = true) :
    failsafeBinaryValue value = value := by
  have zeroOrOne : value = 0 ∨ value = 1 := by
    simpa [automationValidAction] using binary
  rcases zeroOrOne with rfl | rfl
  · rfl
  · rfl

theorem automationDispatchOutput_admitted
    {around : Surroundings} {value : Int32}
    (isLocal :
      clusterIoIsLocal around.clusterIo rule.node.output.toUInt32 = true)
    (admits : Admits plant.failsafe rule.node.output)
    (binary : automationValidAction value = true) (purpose : Purpose) :
    (automationDispatchOutput around purpose value plant rule).1.store =
      stateSetInt plant.store rule.node.output value := by
  rw [automationDispatchOutput_written isLocal admits,
    failsafeBinaryValue_valid binary]

/-! ## One event -/

/--
The guard admits the output, and the input has a value and waiting changes.
-/
structure Observes
    (node : AutomationNode) (value : Int32) (waiting : List EndapEvent)
    (failsafe : FailsafeTable) (store : StateStore) : Prop where
  admits : Admits failsafe node.output
  input : store.intValues node.input = value
  changes : store.bus.changesOf node.input = waiting

section

variable
    {node : AutomationNode} {value : Int32} {waiting : List EndapEvent}

theorem Commanded.observes
    {output : UInt16} {before after : Plant}
    (commanded : Commanded output before after)
    (notInput : node.input ≠ output)
    (observes : Observes node value waiting before.failsafe before.store) :
    Observes node value waiting after.failsafe after.store := by
  have admits := commanded.admits observes.admits
  rcases commanded.store with same | ⟨written, isWritten⟩
  · rw [same]
    exact ⟨admits, observes.input, observes.changes⟩
  · rw [isWritten]
    refine ⟨admits, ?_, ?_⟩
    · rw [stateSetInt_other _ _ notInput]
      exact observes.input
    · rw [stateSetInt_changesOf_other _ _ notInput]
      exact observes.changes

theorem Commanded.elsewhere
    {output other : UInt16} {before after : Plant}
    (commanded : Commanded output before after)
    (different : other ≠ output) :
    after.store.intValues other = before.store.intValues other := by
  rcases commanded.store with same | ⟨written, isWritten⟩
  · rw [same]
  · rw [isWritten]
    exact stateSetInt_other _ _ different

end

theorem pveGetScaledValue_unbound
    {stateId : UInt16}
    (unbound : ∀ binding ∈ pveBindings, binding.1 ≠ stateId)
    (scaledValue : UInt16 → Int32) (fallback : Int32) :
    pveGetScaledValue scaledValue stateId fallback = fallback := by
  have none :
      (pveBindings.find? fun binding =>
        binding.1 = stateId ∧ binding.2 < maxPveVariables) = none := by
    rw [List.find?_eq_none]
    intro binding member
    simp [unbound binding member]
  rw [pveGetScaledValue, none]

namespace Follower

variable
    {configs : List (AutomationNode × AutomationInterlock)}
    {node : AutomationNode} {interlock : AutomationInterlock}
    (follower : Follower configs node interlock)
    {around : Surroundings}
    (isLocal : clusterIoIsLocal around.clusterIo node.output.toUInt32 = true)

include follower

theorem permits (store : StateStore) :
    automationEvalInterlock store interlock = true := by
  rw [automationEvalInterlock, if_pos follower.free]

theorem drive_valid (value : Int32) :
    automationValidAction (node.drive value) = true := by
  rcases automationRuleIsValid_parts follower.valid with
    ⟨_, _, onTrue, onFalse⟩
  rw [AutomationNode.drive]
  split
  · exact onTrue
  · exact onFalse

include isLocal

theorem triggered
    (tickMs : UInt32) {event : EndapEvent} {plant : Plant}
    {rule : AutomationRule} (isRule : rule.config = (node, interlock))
    (isInput : event.source = node.input)
    (admits : Admits plant.failsafe node.output) :
    (triggerVisit around tickMs event plant rule).1.store.intValues
        node.output =
      node.drive event.data := by
  cases rule with
  | mk ruleNode ruleInterlock runtime diag =>
      cases isRule
      have evaluated :
          pveGetScaledValue around.scaledValue event.source event.data =
            event.data := by
        rw [isInput]
        exact pveGetScaledValue_unbound follower.unbound _ _
      have applied :=
        @triggerVisit_follow around plant
          { node := ruleNode, interlock := ruleInterlock,
            runtime := runtime, diag := diag }
          tickMs event isInput (follower.permits _) follower.follow
      have isOutput := (automationRuleIsValid_parts follower.valid).2.1
      rw [applied, evaluated, automationApplyOutput]
      refine
        (congrArg (fun store => store.intValues ruleNode.output)
          (automationDispatchOutput_admitted (by exact isLocal)
            (by exact admits) (follower.drive_valid event.data) _)).trans
          ?_
      exact stateSetInt_same _ (outputProfile_validId isOutput) _

end Follower

section

variable
    {configs : List (AutomationNode × AutomationInterlock)}
    {node : AutomationNode} {interlock : AutomationInterlock}
    (follower : Follower configs node interlock)
    {visit : Plant → AutomationRule → Plant × AutomationRule}
    (commands :
      ∀ plant rule, Commanded rule.node.output plant (visit plant rule).1)
    {runtime : Runtime} (sameConfigs : runtime.automation.configs = configs)
    {value : Int32} {waiting : List EndapEvent}
    (observes : Observes node value waiting runtime.failsafe runtime.store)

include follower commands sameConfigs

theorem visit_observes
    (plant : Plant) (rule : AutomationRule)
    (member : rule ∈ runtime.automation.rules)
    (before : Observes node value waiting plant.failsafe plant.store) :
    Observes node value waiting (visit plant rule).1.failsafe
      (visit plant rule).1.store := by
  have stored : rule.config ∈ configs := by
    rw [← sameConfigs]
    exact List.mem_map_of_mem member
  exact (commands plant rule).observes (follower.input_ne stored) before

theorem visit_output
    (plant : Plant) (rule : AutomationRule)
    (member : rule ∈ runtime.automation.rules)
    (notRule : rule.config ≠ (node, interlock)) :
    (visit plant rule).1.store.intValues node.output =
      plant.store.intValues node.output := by
  have stored : rule.config ∈ configs := by
    rw [← sameConfigs]
    exact List.mem_map_of_mem member
  exact
    (commands plant rule).elsewhere fun sameOutput =>
      notRule (follower.only stored sameOutput.symm)

include observes

theorem sweep_leaves_output
    (own :
      ∀ plant rule,
        rule.config = (node, interlock) →
        (visit plant rule).1.store.intValues node.output =
          plant.store.intValues node.output) :
    let after := (runtime.sweep visit).1
    Observes node value waiting after.failsafe after.store ∧
    after.store.intValues node.output =
      runtime.store.intValues node.output := by
  refine
    Sweep.run_invariant_of_mem
      (fun plant : Plant =>
        Observes node value waiting plant.failsafe plant.store ∧
        plant.store.intValues node.output = runtime.store.intValues node.output)
      ?_ ⟨observes, rfl⟩
  intro plant rule member before
  refine
    ⟨visit_observes follower commands sameConfigs plant rule member
        before.1, ?_⟩
  by_cases isRule : rule.config = (node, interlock)
  · exact (own plant rule isRule).trans before.2
  · exact
      (visit_output follower commands sameConfigs plant rule member
        isRule).trans before.2

theorem sweep_drives_output
    {target : Int32}
    (own :
      ∀ plant rule,
        rule.config = (node, interlock) →
        Observes node value waiting plant.failsafe plant.store →
        (visit plant rule).1.store.intValues node.output = target) :
    let after := (runtime.sweep visit).1
    Observes node value waiting after.failsafe after.store ∧
    after.store.intValues node.output = target := by
  have stored := follower.stored
  rw [← sameConfigs] at stored
  rcases List.mem_map.mp stored with ⟨rule, member, isRule⟩
  constructor
  · exact
      Sweep.run_invariant_of_mem
        (fun plant : Plant =>
          Observes node value waiting plant.failsafe plant.store)
        (visit_observes follower commands sameConfigs) observes
  · refine
      Sweep.run_establishes
        (fun plant : Plant =>
          Observes node value waiting plant.failsafe plant.store)
        (fun plant => plant.store.intValues node.output = target)
        (visit_observes follower commands sameConfigs) ?_ member
        (fun plant before => own plant rule isRule before) observes
    intro plant visited visitedMember before settled
    by_cases isVisited : visited.config = (node, interlock)
    · exact own plant visited isVisited before
    · exact
        (visit_output follower commands sameConfigs plant visited
          visitedMember isVisited).trans settled

end

theorem Follower.triggerLoop
    {configs : List (AutomationNode × AutomationInterlock)}
    {node : AutomationNode} {interlock : AutomationInterlock}
    (follower : Follower configs node interlock)
    {around : Surroundings}
    (isLocal : clusterIoIsLocal around.clusterIo node.output.toUInt32 = true)
    {runtime : Runtime} (sameConfigs : runtime.automation.configs = configs)
    {value : Int32} {waiting : List EndapEvent}
    (observes : Observes node value waiting runtime.failsafe runtime.store)
    {event : EndapEvent} (isStateChange : event.type = .stateChange) :
    let after :=
      (runtime.sweep (triggerVisit around runtime.automation.tickMs event)).1
    Observes node value waiting after.failsafe after.store ∧
    after.store.intValues node.output =
      if event.ChangeOf node.input then node.drive event.data
      else runtime.store.intValues node.output := by
  by_cases isInput : event.source = node.input
  · have change : event.ChangeOf node.input := ⟨isStateChange, isInput⟩
    rw [if_pos change]
    refine
      sweep_drives_output follower
        (fun _ _ => (triggerVisit_effect _ event).commanded) sameConfigs
        observes ?_
    intro plant rule isRule before
    exact follower.triggered isLocal _ isRule isInput before.admits
  · rw [if_neg fun change : event.ChangeOf node.input => isInput change.2]
    refine
      sweep_leaves_output follower
        (fun _ _ => (triggerVisit_effect _ event).commanded) sameConfigs
        observes ?_
    intro plant rule isRule
    have isNode : rule.node = node := congrArg Prod.fst isRule
    rw [triggerVisit, if_pos]
    rw [isNode]
    exact Ne.symm isInput

theorem Follower.handled
    {configs : List (AutomationNode × AutomationInterlock)}
    {node : AutomationNode} {interlock : AutomationInterlock}
    (follower : Follower configs node interlock)
    {around : Surroundings}
    (isLocal : clusterIoIsLocal around.clusterIo node.output.toUInt32 = true)
    {runtime : Runtime} (sameConfigs : runtime.automation.configs = configs)
    {value : Int32} {waiting : List EndapEvent}
    (observes : Observes node value waiting runtime.failsafe runtime.store)
    (event : EndapEvent) :
    let after := (automationEventHandler around event runtime).1
    Observes node value waiting after.failsafe after.store ∧
    after.store.intValues node.output =
      if event.ChangeOf node.input then node.drive event.data
      else runtime.store.intValues node.output := by
  rw [automationEventHandler]
  split
  · next otherType =>
      rw [if_neg fun change : event.ChangeOf node.input =>
        otherType change.1]
      exact ⟨observes, rfl⟩
  · next sameType =>
      have looped :=
        follower.triggerLoop isLocal sameConfigs observes
          (Decidable.not_not.mp sameType)
      have guarded :=
        sweep_leaves_output follower
          (fun _ _ =>
            (@guardVisit_effect around _ _ event).commanded)
          ((triggered_configs around event runtime).trans sameConfigs)
          looped.1
          (by
            intro plant rule isRule
            have isInterlock : rule.interlock = interlock :=
              congrArg Prod.snd isRule
            rw [guardVisit, if_pos]
            rw [isInterlock]
            exact follower.free)
      exact ⟨guarded.1, guarded.2.trans looped.2⟩

/-! ## Runs -/

/--
The newest waiting change of the input carries its present value; while none
waits, the output agrees with the input.
-/
structure Tracks (node : AutomationNode) (store : StateStore) : Prop where
  newest :
    ∀ last,
      (store.bus.changesOf node.input).getLast? = some last →
      last.data = store.intValues node.input
  settled :
    store.bus.changesOf node.input = [] →
    store.intValues node.output = node.drive (store.intValues node.input)

/-- The last change of an identifier in a run. -/
def lastChange
    (id : UInt16) (past : List (Run.Transition Runtime BusCall Unit)) :
    Option (Run.Transition Runtime BusCall Unit) :=
  (past.filter fun transition =>
    transition.before.store.intValues id ≠
      transition.after.store.intValues id).getLast?

/-- The identifier has changed, and its last change found room in the ring. -/
def LastChangePublished
    (id : UInt16) (past : List (Run.Transition Runtime BusCall Unit)) :
    Prop :=
  ∃ change, lastChange id past = some change ∧ ¬ change.before.store.bus.Full

instance (id : UInt16)
    (past : List (Run.Transition Runtime BusCall Unit)) :
    Decidable (LastChangePublished id past) :=
  inferInstanceAs
    (Decidable (∃ change ∈ lastChange id past, ¬ change.before.store.bus.Full))

theorem lastChange_snoc_same
    {id : UInt16} (past : List (Run.Transition Runtime BusCall Unit))
    {last : Run.Transition Runtime BusCall Unit}
    (same : last.before.store.intValues id = last.after.store.intValues id) :
    lastChange id (past ++ [last]) = lastChange id past := by
  rw [lastChange, List.filter_append, List.filter_cons_of_neg,
    List.filter_nil, List.append_nil]
  · rfl
  · simpa using same

theorem lastChange_snoc_other
    {id : UInt16} (past : List (Run.Transition Runtime BusCall Unit))
    {last : Run.Transition Runtime BusCall Unit}
    (changed : last.before.store.intValues id ≠ last.after.store.intValues id) :
    lastChange id (past ++ [last]) = some last := by
  rw [lastChange, List.filter_append, List.filter_cons_of_pos,
    List.filter_nil, List.getLast?_concat]
  simpa using changed

variable {store : StateStore}

theorem Tracks.congr
    {node : AutomationNode} {after : StateStore}
    (tracks : Tracks node store)
    (sameChanges :
      after.bus.changesOf node.input = store.bus.changesOf node.input)
    (sameInput : after.intValues node.input = store.intValues node.input)
    (sameOutput : after.intValues node.output = store.intValues node.output) :
    Tracks node after where
  newest := by
    rw [sameChanges, sameInput]
    exact tracks.newest
  settled := by
    rw [sameChanges, sameInput, sameOutput]
    exact tracks.settled

theorem Tracks.changed
    {node : AutomationNode} {value : Int32}
    (valid : StateValidId node.input)
    (changes : store.intValues node.input ≠ value)
    (room : ¬ store.bus.Full) :
    Tracks node (stateSetInt store node.input value) := by
  have waiting := stateSetInt_changesOf_same store valid changes room
  constructor
  · intro last isLast
    rw [waiting, List.getLast?_concat] at isLast
    rw [stateSetInt_same store valid, ← Option.some.inj isLast]
  · intro empty
    rw [waiting] at empty
    exact absurd empty (List.concat_ne_nil _ _)

theorem Tracks.dispatched
    {node : AutomationNode} {after : StateStore}
    (tracks : Tracks node store) {event : EndapEvent} {rest : EventBus}
    (taken : store.bus.pending = event :: rest.pending)
    (changes : after.bus.changesOf node.input = rest.changesOf node.input)
    (sameInput : after.intValues node.input = store.intValues node.input)
    (output :
      after.intValues node.output =
        if event.ChangeOf node.input then node.drive event.data
        else store.intValues node.output) :
    Tracks node after := by
  by_cases isChange : event.ChangeOf node.input
  · have before :
        store.bus.changesOf node.input =
          event :: rest.changesOf node.input := by
      rw [EventBus.changesOf, taken, List.filter_cons_of_pos]
      · rfl
      · simpa using isChange
    constructor
    · intro last isLast
      rw [changes] at isLast
      rw [sameInput]
      apply tracks.newest
      rw [before, List.getLast?_cons, isLast]
      rfl
    · intro empty
      rw [changes] at empty
      have isNewest := tracks.newest event
      rw [before, empty] at isNewest
      rw [output, if_pos isChange, sameInput, isNewest rfl]
  · have before :
        store.bus.changesOf node.input = rest.changesOf node.input := by
      rw [EventBus.changesOf, taken, List.filter_cons_of_neg]
      · rfl
      · simpa using isChange
    rw [if_neg isChange] at output
    exact tracks.congr (changes.trans before.symm) sameInput output

/-- What holds along a run that leaves the output to the rule. -/
structure Keeping
    (configs : List (AutomationNode × AutomationInterlock))
    (node : AutomationNode)
    (past : List (Run.Transition Runtime BusCall Unit))
    (runtime : Runtime) : Prop where
  sameConfigs : runtime.automation.configs = configs
  admits : Admits runtime.failsafe node.output
  tracks : LastChangePublished node.input past → Tracks node runtime.store

section

variable
    {configs : List (AutomationNode × AutomationInterlock)}
    {node : AutomationNode} {interlock : AutomationInterlock}
    (follower : Follower configs node interlock)
    {past : List (Run.Transition Runtime BusCall Unit)} {runtime : Runtime}
    (keeping : Keeping configs node past runtime)

include follower keeping

theorem Keeping.stateWrite
    {id : UInt16} (notOutput : id ≠ node.output) (value : Int32) :
    Keeping configs node
      (past ++ [Run.call Runtime.busCall runtime (.stateWrite id value)])
      (runtime.busCall (.stateWrite id value)).1 := by
  have isInputId :=
    inputProfile_validId (automationRuleIsValid_parts follower.valid).1
  refine ⟨keeping.sameConfigs, keeping.admits, ?_⟩
  rintro ⟨change, isLast, room⟩
  change Tracks node (stateSetInt runtime.store id value)
  by_cases isInput : id = node.input
  · subst isInput
    by_cases same : runtime.store.intValues node.input = value
    · have unchanged := stateSetInt_unchanged runtime.store same
      rw [unchanged]
      rw [lastChange_snoc_same] at isLast
      · exact keeping.tracks ⟨change, isLast, room⟩
      · exact
          (congrArg (fun store => store.intValues node.input) unchanged).symm
    · rw [lastChange_snoc_other] at isLast
      · rw [← Option.some.inj isLast] at room
        exact Tracks.changed isInputId same room
      · intro unchanged
        refine same (unchanged.trans ?_)
        exact stateSetInt_same runtime.store isInputId value
  · have sameInput :=
      stateSetInt_other runtime.store value (Ne.symm isInput)
    rw [lastChange_snoc_same _ sameInput.symm] at isLast
    exact
      (keeping.tracks ⟨change, isLast, room⟩).congr
        (stateSetInt_changesOf_other _ _ (Ne.symm isInput)) sameInput
        (stateSetInt_other _ _ (Ne.symm notOutput))

theorem Keeping.runEvents
    {around : Surroundings}
    (isLocal : clusterIoIsLocal around.clusterIo node.output.toUInt32 = true) :
    Keeping configs node
      (past ++ [Run.call Runtime.busCall runtime (.runEvents around)])
      (runtime.busCall (.runEvents around)).1 := by
  rcases eventBusPop_cases runtime.store.bus with
    ⟨nothing, _⟩ | ⟨event, rest, popped, taken⟩
  · have unchanged : (runtime.busCall (.runEvents around)).1 = runtime := by
      simp only [Runtime.busCall, eventBusBudget, eventBusDispatchBudgeted,
        nothing]
    rw [unchanged]
    refine ⟨keeping.sameConfigs, keeping.admits, ?_⟩
    rintro ⟨change, isLast, room⟩
    rw [lastChange_snoc_same] at isLast
    · exact keeping.tracks ⟨change, isLast, room⟩
    · exact
        (congrArg (fun runtime => runtime.store.intValues node.input)
          unchanged).symm
  · let opened : Runtime :=
      { runtime with store := { runtime.store with bus := rest } }
    have handledBy :
        (runtime.busCall (.runEvents around)).1 =
          (automationEventHandler around event opened).1 := by
      simp only [Runtime.busCall, eventBusBudget, eventBusDispatchBudgeted,
        popped]
      rfl
    have observes :
        Observes node (runtime.store.intValues node.input)
          (rest.changesOf node.input) opened.failsafe opened.store :=
      ⟨keeping.admits, rfl, rfl⟩
    have openedConfigs : opened.automation.configs = configs :=
      keeping.sameConfigs
    have handled := follower.handled isLocal openedConfigs observes event
    have configsAfter := automationEventHandler_configs around event opened
    rw [← handledBy] at handled configsAfter
    refine ⟨configsAfter.trans keeping.sameConfigs, handled.1.admits, ?_⟩
    rintro ⟨change, isLast, room⟩
    rw [lastChange_snoc_same _ handled.1.input.symm] at isLast
    exact
      (keeping.tracks ⟨change, isLast, room⟩).dispatched taken
        handled.1.changes handled.1.input handled.2

end

theorem run_keeping
    {configs : List (AutomationNode × AutomationInterlock)}
    {node : AutomationNode} {interlock : AutomationInterlock}
    (follower : Follower configs node interlock)
    {start : Runtime} (sameConfigs : start.automation.configs = configs)
    (admits : Admits start.failsafe node.output)
    {calls : List BusCall}
    (leaves : ∀ call ∈ calls, call.Leaves node.output) :
    Keeping configs node (Run.history Runtime.busCall start calls)
      (Run.final Runtime.busCall start calls) := by
  induction calls using List.reverseRecOn with
  | nil =>
      refine ⟨sameConfigs, admits, ?_⟩
      rintro ⟨change, isLast, _⟩
      cases isLast
  | append_singleton earlier call induction =>
      rw [Run.history_snoc, Run.final_snoc]
      have keeping :=
        induction fun called member =>
          leaves called (List.mem_append_left _ member)
      have last := leaves call (List.mem_append_right _ (by simp))
      cases call with
      | stateWrite id value => exact keeping.stateWrite follower last value
      | runEvents around => exact keeping.runEvents follower last

/--
Whenever the queue is empty, the output of a `FOLLOW` rule agrees with its
input, if the input has changed since the rule was there and its last change
found room in the queue.
-/
theorem follow_output_settles
    (start : Runtime) (node : AutomationNode)
    (interlock : AutomationInterlock)
    (follower : Follower start.automation.configs node interlock)
    (admits : Admits start.failsafe node.output)
    (calls : List BusCall)
    (leaves : ∀ call ∈ calls, call.Leaves node.output) :
    let reached := Run.final Runtime.busCall start calls
    reached.store.bus.pending = [] →
    LastChangePublished node.input
        (Run.history Runtime.busCall start calls) →
      reached.store.intValues node.output =
        if automationEvalRule node
            (reached.store.intValues node.input) then
          node.onTrue.toInt32
        else node.onFalse.toInt32 := by
  intro reached empty published
  have keeping := run_keeping follower rfl admits leaves
  apply (keeping.tracks published).settled
  rw [EventBus.changesOf, empty, List.filter_nil]

/-! ## A full queue -/

def followRule : RuleRequest where
  input := 10
  op := 0
  mode := AutomationMode.follow.code
  threshold := 0
  durationMs := 0
  output := 100
  onTrue := 1
  onFalse := 0

def followRuntime : Runtime :=
  (idleRuntime.call (.addRule standalone.onDevice followRule .committed)).1

theorem followRuntime_follower :
    Follower followRuntime.automation.configs followRule.candidate
      .zero := by
  have configs :
      followRuntime.automation.configs =
        [(followRule.candidate, AutomationInterlock.zero)] := by
    decide +kernel
  rw [configs]
  refine ⟨⟨?_, List.pairwise_singleton _ _⟩, ?_, rfl, Or.inl rfl, ?_⟩
  · intro config member
    rw [List.mem_singleton.mp member]
    decide
  · exact List.mem_singleton_self _
  · have all :
        (pveBindings.all fun binding =>
          binding.1 ≠ followRule.candidate.input) = true := by
      decide
    intro binding member
    exact of_decide_eq_true (List.all_eq_true.mp all binding member)

def handledChange : List BusCall :=
  [.stateWrite 10 1, .runEvents standalone, .runEvents standalone]

/-- With an idle queue the output has caught up after two cycles. -/
theorem handledChange_settles :
    let reached := Run.final Runtime.busCall followRuntime handledChange
    reached.store.intValues 10 = 1 ∧ reached.store.intValues 100 = 1 := by
  intro reached
  have input : reached.store.intValues 10 = 1 := by decide +kernel
  refine ⟨input, ?_⟩
  have settles :=
    follow_output_settles followRuntime followRule.candidate .zero
      followRuntime_follower (by decide +kernel) handledChange
      (by decide +kernel) (by decide +kernel) (by decide +kernel)
  refine settles.trans ?_
  change (if automationEvalRule _ (reached.store.intValues 10) = true then
    _ else _) = _
  rw [input]
  decide

def lostChange : List BusCall :=
  ((List.range 63).map fun count =>
      .stateWrite 11 (Int32.ofNat (count + 1))) ++
    [.stateWrite 10 1] ++ List.replicate 63 (.runEvents standalone)

/--
The ring drops the change of input 10: after the queue has emptied the input
is at one and the output, which should be on, is still off.
-/
theorem lostChange_leaves_output_behind :
    let node := followRule.candidate
    let reached := Run.final Runtime.busCall followRuntime lostChange
    Follower followRuntime.automation.configs node .zero ∧
    Admits followRuntime.failsafe node.output ∧
    (∀ call ∈ lostChange, call.Leaves node.output) ∧
    reached.store.bus.pending = [] ∧
    (lastChange node.input
      (Run.history Runtime.busCall followRuntime lostChange)).isSome ∧
    reached.store.intValues node.input = 1 ∧
    reached.store.intValues node.output ≠
      if automationEvalRule node
          (reached.store.intValues node.input) then
        node.onTrue.toInt32
      else node.onFalse.toInt32 := by
  refine ⟨followRuntime_follower, ?_, ?_, ?_, ?_, ?_, ?_⟩
  · decide +kernel
  · decide +kernel
  · decide +kernel
  · decide +kernel
  · decide +kernel
  · decide +kernel

end Endap.Automation
