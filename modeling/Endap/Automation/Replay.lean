import Endap.Automation.Output

/-!
# What a replay writes

A visit of the trigger loop or of the continuous guard commands a value for
the output of its rule, or nothing.  What it commands depends on the state
table and on the rule; whether the command takes effect, on the fail-safe
entry of the output, on where the output is, and on the room in the queue of
remote commands.

So what an event does can be told before it comes, from the tables and the
rules as they stand: each rule in its turn changes the outlook for the next.
An outlook has no runtime records, no diagnostics and no fail-safe table: a
command does not change what fail-safe admits.
-/

namespace Endap.Automation

open Endap.Cluster
open Endap.Failsafe
open Endap.Library
open Endap.State

/-! ## Writes of an output -/

/-- What the switch over the modes commands, if anything. -/
def modeAction
    (store : StateStore) (node : AutomationNode)
    (conditionNow risingEdge : Bool) : Option Int32 :=
  match AutomationMode.ofCode node.mode with
  | some .follow =>
      some
        (if conditionNow then node.onTrue.toInt32
          else node.onFalse.toInt32)
  | some .pulseMs => if risingEdge then some node.onTrue.toInt32 else none
  | some .onDelayMs => some node.onFalse.toInt32
  | some .offDelayMs =>
      if conditionNow then some node.onTrue.toInt32 else none
  | some .toggle =>
      if risingEdge then
        some (if stateValue store node.output ≠ 0 then 0 else 1)
      else none
  | some .forceOn => if risingEdge then some 1 else none
  | some .forceOff => if risingEdge then some 0 else none
  | none => none

/-- What a visit of the trigger loop commands, if anything. -/
def triggerAction
    (around : Surroundings) (event : EndapEvent) (store : StateStore)
    (rule : AutomationRule) : Option Int32 :=
  if rule.node.input ≠ event.source then none
  else if conditionHolds around event rule.node = true ∧
      automationEvalInterlock store rule.interlock = false then
    none
  else
    modeAction store rule.node (conditionHolds around event rule.node)
      (conditionHolds around event rule.node && !rule.runtime.condition)

/-- What a visit of the continuous guard commands, if anything. -/
def guardAction
    (event : EndapEvent) (store : StateStore)
    (config : AutomationNode × AutomationInterlock) : Option Int32 :=
  if config.2.enabled ≠ 0 ∧ config.2.condCount ≠ 0 ∧
      config.2.watches event.source = true ∧
      stateValue store config.1.output ≠ 0 ∧
      automationEvalInterlock store config.2 = false then
    some config.1.onFalse.toInt32
  else none

/-- The visit commands the value for the output of its rule, or nothing. -/
inductive Commands
    (around : Surroundings) (plant : Plant) (rule : AutomationRule) :
    Option Int32 → Plant → Prop
  | nothing : Commands around plant rule none plant
  | value (purpose : Purpose) (value : Int32) (changed : AutomationRule)
      (sameNode : changed.node = rule.node) :
      Commands around plant rule (some value)
        (automationDispatchOutput around purpose value plant changed).1

section

variable {around : Surroundings} {plant : Plant} {rule : AutomationRule}

theorem triggerMode_commands
    (tickMs : UInt32) (conditionNow risingEdge : Bool)
    (changed : AutomationRule) (sameNode : changed.node = rule.node) :
    Commands around plant rule
      (modeAction plant.store rule.node conditionNow risingEdge)
      (triggerMode around tickMs conditionNow risingEdge plant
        changed).1 := by
  rw [triggerMode, modeAction, ← sameNode]
  cases AutomationMode.ofCode changed.node.mode with
  | none => exact .nothing
  | some mode =>
      cases mode with
      | follow => exact .value _ _ changed sameNode
      | onDelayMs =>
          cases conditionNow with
          | _ => exact .value _ _ _ sameNode
      | offDelayMs =>
          cases conditionNow with
          | false => exact .nothing
          | true => exact .value _ _ _ sameNode
      | pulseMs | toggle | forceOn | forceOff =>
          cases risingEdge with
          | false => exact .nothing
          | true => exact .value _ _ changed sameNode

theorem triggerVisit_commands (tickMs : UInt32) (event : EndapEvent) :
    Commands around plant rule
      (triggerAction around event plant.store rule)
      (triggerVisit around tickMs event plant rule).1 := by
  rw [triggerVisit, triggerAction]
  by_cases other : rule.node.input ≠ event.source
  · rw [if_pos other, if_pos other]
    exact .nothing
  · rw [if_neg other, if_neg other]
    by_cases blocked :
        conditionHolds around event rule.node = true ∧
        automationEvalInterlock plant.store rule.interlock = false
    · rw [if_pos blocked]
      unfold conditionHolds at blocked
      dsimp only
      rw [if_pos (by simp [blocked])]
      exact .nothing
    · rw [if_neg blocked]
      unfold conditionHolds at blocked ⊢
      dsimp only
      rw [if_neg]
      · exact triggerMode_commands tickMs _ _ _ rfl
      · simp only [Bool.and_eq_true, Bool.or_eq_true, Bool.not_eq_true']
        rintro ⟨holds | ⟨holds, _⟩, forbidden⟩
        · exact blocked ⟨holds, forbidden⟩
        · exact blocked ⟨holds, forbidden⟩

theorem guardVisit_commands (event : EndapEvent) :
    Commands around plant rule (guardAction event plant.store rule.config)
      (guardVisit around event plant rule).1 := by
  rw [guardVisit, guardAction, AutomationRule.config]
  by_cases off : rule.interlock.enabled = 0 ∨ rule.interlock.condCount = 0
  · rw [if_pos off, if_neg]
    · exact .nothing
    · rintro ⟨enabled, conditions, _⟩
      rcases off with disabled | empty
      · exact enabled disabled
      · exact conditions empty
  · rw [if_neg off]
    rcases not_or.mp off with ⟨enabled, conditions⟩
    by_cases lost :
        rule.interlock.watches event.source = true ∧
        stateValue plant.store rule.node.output ≠ 0 ∧
        automationEvalInterlock plant.store rule.interlock = false
    · rw [if_pos ⟨enabled, conditions, lost⟩, if_pos (by simp [lost])]
      exact .value _ _ _ rfl
    · rw [if_neg fun all => lost all.2.2, if_neg (by simpa using lost)]
      exact .nothing

end

/-! ## Permissions -/

theorem automationEvalCondition_congr
    {first second : StateStore} {condition : AutomationCondition}
    (same :
      first.intValues condition.channel = second.intValues condition.channel) :
    automationEvalCondition first condition =
      automationEvalCondition second condition := by
  unfold automationEvalCondition stateGetInt
  rw [same]

theorem AutomationInterlock.watches_condition
    (interlock : AutomationInterlock) (index : Fin 2)
    (used : index.val < interlock.condCount.toNat) :
    interlock.watches (interlock.conditions.get index).channel = true := by
  rw [AutomationInterlock.watches, List.any_eq_true]
  refine ⟨interlock.conditions.get index, ?_, by simp⟩
  rw [List.mem_take_iff_getElem]
  refine ⟨index.val, ?_, ?_⟩
  · have inside := index.isLt
    rw [Vector.length_toList, automationMaxInterlockCond]
    omega
  · rw [Vector.getElem_toList]
    rfl

theorem automationEvalInterlock_congr
    {first second : StateStore} {interlock : AutomationInterlock}
    (same :
      ∀ channel, interlock.watches channel = true →
      first.intValues channel = second.intValues channel) :
    automationEvalInterlock first interlock =
      automationEvalInterlock second interlock := by
  unfold automationEvalInterlock
  by_cases off : interlock.enabled = 0 ∨ interlock.condCount = 0
  · rw [if_pos off, if_pos off]
  · rw [if_neg off, if_neg off]
    obtain ⟨_, counted⟩ := not_or.mp off
    have someUsed : 0 < interlock.condCount.toNat := by
      have notZero := mt UInt8.toNat_inj.mp counted
      exact Nat.pos_of_ne_zero notZero
    have first :=
      automationEvalCondition_congr
        (same _ (interlock.watches_condition 0 someUsed))
    rw [first]
    by_cases single : interlock.condCount = 1
    · rw [if_pos single, if_pos single]
    · have bothUsed : 1 < interlock.condCount.toNat := by
        have notOne := mt UInt8.toNat_inj.mp single
        have isOne : (1 : UInt8).toNat = 1 := rfl
        omega
      have second :=
        automationEvalCondition_congr
          (same _ (interlock.watches_condition 1 bothUsed))
      rw [if_neg single, if_neg single, second]

/-! ## Outlooks -/

/-- What decides about a command: the state table, and the free places in the
queue of remote commands. -/
structure Outlook where
  store : StateStore
  places : Nat

/-- The free places of a queue; no queue has none. -/
def freePlaces (queue : Option AutomationRemoteQueue) : Nat :=
  match queue with
  | none => 0
  | some queue => automationRemoteQueueLength - queue.commands.length

/-- The outlook before an event. -/
def Runtime.outlook (runtime : Runtime) : Outlook where
  store := runtime.store
  places := freePlaces runtime.automation.remoteQueue

/-- The owner of the output is another node that is not offline. -/
def RemoteOpen (around : Surroundings) (output : UInt16) : Prop :=
  around.metricsSelfNode ≠ 0 ∧
  clusterIoGetOwner around.clusterIo output.toUInt32 ≠ 0 ∧
  automationOwnerState around
      (clusterIoGetOwner around.clusterIo output.toUInt32) ≠ .offline

instance (around : Surroundings) (output : UInt16) :
    Decidable (RemoteOpen around output) :=
  inferInstanceAs (Decidable (_ ∧ _ ∧ _))

section

variable (around : Surroundings) (failsafe : FailsafeTable)

/-- A command for the output takes effect. -/
def Outlook.Reaches (outlook : Outlook) (output : UInt16) : Prop :=
  if clusterIoIsLocal around.clusterIo output.toUInt32 then
    Admits failsafe output ∧ StateValidId output
  else RemoteOpen around output ∧ 0 < outlook.places

instance (outlook : Outlook) (output : UInt16) :
    Decidable (outlook.Reaches around failsafe output) :=
  inferInstanceAs (Decidable (ite _ _ _))

/-- The outlook behind a command, if there is one. -/
def Outlook.behind (outlook : Outlook) (output : UInt16)
    (action : Option Int32) : Outlook :=
  match action with
  | none => outlook
  | some value =>
      if outlook.Reaches around failsafe output then
        if clusterIoIsLocal around.clusterIo output.toUInt32 then
          { outlook with
            store :=
              stateSetInt outlook.store output (failsafeBinaryValue value) }
        else { outlook with places := outlook.places - 1 }
      else outlook

/-- The outlook behind rules that see an event. -/
def Outlook.afterTriggers (event : EndapEvent) (outlook : Outlook)
    (rules : List AutomationRule) : Outlook :=
  rules.foldl
    (fun outlook rule =>
      outlook.behind around failsafe rule.node.output
        (triggerAction around event outlook.store rule))
    outlook

/-- A command for the output, if there is one and it takes effect, is permitted
by the interlock. -/
def Outlook.Permits (outlook : Outlook) (interlock : AutomationInterlock)
    (output : UInt16) (action : Option Int32) : Prop :=
  action ≠ none → outlook.Reaches around failsafe output →
  automationEvalInterlock outlook.store interlock = true

/-- The outlook is that of the plant. -/
structure Outlook.Of (plant : Plant) (outlook : Outlook) : Prop where
  store : plant.store = outlook.store
  places : freePlaces plant.remoteQueue = outlook.places
  admits : ∀ output, Admits plant.failsafe output ↔ Admits failsafe output

instance (outlook : Outlook) (interlock : AutomationInterlock)
    (output : UInt16) (action : Option Int32) :
    Decidable (outlook.Permits around failsafe interlock output action) :=
  inferInstanceAs (Decidable (_ → _ → _))

end

section

variable {around : Surroundings} {failsafe : FailsafeTable}
    {plant : Plant} {outlook : Outlook}

theorem dispatchRemote_queued
    (around : Surroundings) (plant : Plant) (output : UInt16)
    (value : Int32) :
    ((dispatchRemote around plant output value).result = .dispatchedRemote ↔
        RemoteOpen around output ∧ 0 < freePlaces plant.remoteQueue) ∧
    freePlaces (dispatchRemote around plant output value).plant.remoteQueue =
      if RemoteOpen around output ∧ 0 < freePlaces plant.remoteQueue then
        freePlaces plant.remoteQueue - 1
      else freePlaces plant.remoteQueue := by
  rw [dispatchRemote]
  dsimp only
  by_cases unresolved :
      around.metricsSelfNode = 0 ∨
      clusterIoGetOwner around.clusterIo output.toUInt32 = 0
  · have closed : ¬ RemoteOpen around output := by
      rintro ⟨self, owner, _⟩
      rcases unresolved with noSelf | noOwner
      · exact self noSelf
      · exact owner noOwner
    simp [unresolved, closed]
  · rw [if_neg unresolved]
    rcases not_or.mp unresolved with ⟨self, owner⟩
    by_cases offline :
        automationOwnerState around
            (clusterIoGetOwner around.clusterIo output.toUInt32) = .offline
    · have closed : ¬ RemoteOpen around output :=
        fun isOpen => isOpen.2.2 offline
      simp [offline, closed]
    · have isOpen : RemoteOpen around output := ⟨self, owner, offline⟩
      rw [if_neg offline]
      cases isQueue : plant.remoteQueue with
      | none => simp [freePlaces, isQueue]
      | some queue =>
          dsimp only
          unfold AutomationRemoteQueue.send
          by_cases room : queue.commands.length < automationRemoteQueueLength
          · rw [dif_pos room]
            have free :
                0 < automationRemoteQueueLength - queue.commands.length :=
              Nat.sub_pos_of_lt room
            simp [freePlaces, isOpen, free, Nat.sub_sub]
          · rw [dif_neg room]
            have full :
                automationRemoteQueueLength - queue.commands.length = 0 :=
              Nat.sub_eq_zero_of_le (Nat.le_of_not_lt room)
            simp [freePlaces, isQueue, full]

theorem automationDispatchOutput_local_queue
    {rule : AutomationRule}
    (isLocal :
      clusterIoIsLocal around.clusterIo rule.node.output.toUInt32 = true)
    (purpose : Purpose) (value : Int32) (plant : Plant) :
    (automationDispatchOutput around purpose value plant rule).1.remoteQueue =
      plant.remoteQueue := by
  rw [automationDispatchOutput]
  dsimp only
  rw [if_pos isLocal]
  rcases dispatchLocal_plant _ rule.node.output value with
    refused | ⟨_, _, written⟩
  · rw [refused]
  · rw [written]

variable {action : Option Int32}

theorem Commands.behind
    {rule : AutomationRule} {after : Plant}
    (commands : Commands around plant rule action after)
    (isOutlook : outlook.Of failsafe plant) :
    (outlook.behind around failsafe rule.node.output action).Of failsafe
      after := by
  cases commands with
  | nothing => exact isOutlook
  | value purpose value changed sameNode =>
      rw [← sameNode]
      have admits :
          ∀ output,
            Admits
                (automationDispatchOutput around purpose value plant
                  changed).1.failsafe output ↔
            Admits failsafe output := fun output =>
        ((automationDispatchOutput_commanded around purpose value plant
          changed).admits_iff output).trans (isOutlook.admits output)
      rw [Outlook.behind]
      by_cases isLocal :
          clusterIoIsLocal around.clusterIo changed.node.output.toUInt32 = true
      · have queue :=
          automationDispatchOutput_local_queue isLocal purpose value plant
        by_cases reaches : outlook.Reaches around failsafe changed.node.output
        · rw [if_pos reaches, if_pos isLocal]
          rw [Outlook.Reaches, if_pos isLocal] at reaches
          have admitted := (isOutlook.admits _).mpr reaches.1
          refine ⟨?_, ?_, admits⟩
          · rw [automationDispatchOutput_written isLocal admitted,
              isOutlook.store]
          · rw [queue, isOutlook.places]
        · rw [if_neg reaches]
          rw [Outlook.Reaches, if_pos isLocal] at reaches
          refine ⟨?_, ?_, admits⟩
          · by_cases admitted : Admits plant.failsafe changed.node.output
            · -- The output has no place in the state table.
              have invalid : ¬ StateValidId changed.node.output :=
                fun valid =>
                  reaches ⟨(isOutlook.admits _).mp admitted, valid⟩
              rw [automationDispatchOutput_written isLocal admitted,
                stateSetInt, if_neg invalid, isOutlook.store]
            · rw [automationDispatchOutput_refused isLocal admitted,
                isOutlook.store]
          · rw [queue, isOutlook.places]
      · have store :=
          automationDispatchOutput_remote isLocal purpose value plant
        have queued :
            freePlaces
                (automationDispatchOutput around purpose value plant
                  changed).1.remoteQueue =
              if RemoteOpen around changed.node.output ∧
                  0 < outlook.places then
                outlook.places - 1
              else outlook.places := by
          rw [automationDispatchOutput]
          dsimp only
          rw [if_neg isLocal, (dispatchRemote_queued around _ _ value).2]
          simp only [isOutlook.places]
        have reaches :
            outlook.Reaches around failsafe changed.node.output ↔
            RemoteOpen around changed.node.output ∧
            0 < outlook.places := by
          rw [Outlook.Reaches, if_neg isLocal]
        by_cases isQueued :
            RemoteOpen around changed.node.output ∧ 0 < outlook.places
        · rw [if_pos (reaches.mpr isQueued), if_neg isLocal]
          rw [if_pos isQueued] at queued
          exact ⟨store.trans isOutlook.store, queued, admits⟩
        · rw [if_neg fun does => isQueued (reaches.mp does)]
          rw [if_neg isQueued] at queued
          exact ⟨store.trans isOutlook.store, queued, admits⟩

theorem Outlook.Of.afterTriggers
    (isOutlook : outlook.Of failsafe plant) (tickMs : UInt32)
    (event : EndapEvent) (rules : List AutomationRule) :
    (outlook.afterTriggers around failsafe event rules).Of failsafe
      (Sweep.run (triggerVisit around tickMs event) plant rules).1 := by
  have along :=
    @Sweep.run_fold _ _ (triggerVisit around tickMs event) _ _ id
      (fun outlook rule =>
        Outlook.behind around failsafe outlook rule.node.output
          (triggerAction around event outlook.store rule))
      (fun plant outlook => outlook.Of failsafe plant) ?_ _ _ isOutlook rules
  · rw [List.map_id] at along
    exact along
  · intro found model rule holds
    have behind :=
      (@triggerVisit_commands around found rule tickMs event).behind holds
    rw [holds.store] at behind
    exact behind

theorem Outlook.Of.triggered {runtime : Runtime}
    (isOutlook : outlook.Of failsafe runtime.plant) (event : EndapEvent) :
    (outlook.afterTriggers around failsafe event
        runtime.automation.rules).Of failsafe
      (triggered around event runtime).plant := by
  have swept :=
    @Outlook.Of.afterTriggers around _ _ _ isOutlook
      runtime.automation.tickMs event runtime.automation.rules
  exact ⟨swept.store, swept.places, swept.admits⟩

end

end Endap.Automation
