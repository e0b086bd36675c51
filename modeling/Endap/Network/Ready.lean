import Endap.Cluster.Transport
import Endap.Library.Announce
import Mathlib.Data.List.ReduceOption

/-!
# Which links are ready

Wi-Fi as an access point, Wi-Fi as a station and Ethernet report when they
come up and go down.  From the last reports a snapshot is made that names the
link to use: Ethernet before the station before the access point.  The table
of links, the snapshot and the callbacks are behind one lock.

A report that changes the snapshot is announced to the registered callbacks
after the lock is released, so that the announcements of several tasks can
cross.
-/

namespace Endap.Network

open Endap.Library
open Endap.Library.Announce

/-! ## The table of links -/

/-- `network_ready_link_t`. -/
inductive ReadyLink where
  | none
  | wifiAp
  | wifiSta
  | ethernet
deriving DecidableEq

/-- `network_ready_link_state_t`. -/
structure LinkState where
  up : Bool := false
  ipAddr : UInt32 := 0
  netmaskAddr : UInt32 := 0

/-- `network_ready_snapshot_t`. -/
structure ReadySnapshot where
  ready : Bool := false
  activeLink : ReadyLink := .none
  activeIpAddr : UInt32 := 0
  activeNetmaskAddr : UInt32 := 0
  wifiApUp : Bool := false
  wifiStaUp : Bool := false
  ethernetUp : Bool := false
  wifiApIpAddr : UInt32 := 0
  wifiApNetmaskAddr : UInt32 := 0
  wifiStaIpAddr : UInt32 := 0
  wifiStaNetmaskAddr : UInt32 := 0
  ethernetIpAddr : UInt32 := 0
  ethernetNetmaskAddr : UInt32 := 0
deriving DecidableEq

/-- `network_ready_choose_active_link`. -/
def chooseActiveLink (linkState : ReadyLink → LinkState) : ReadyLink :=
  if (linkState .ethernet).up then .ethernet
  else if (linkState .wifiSta).up then .wifiSta
  else if (linkState .wifiAp).up then .wifiAp
  else .none

/-- What `network_ready_refresh_snapshot` writes. -/
def refreshSnapshot (linkState : ReadyLink → LinkState) : ReadySnapshot where
  activeLink := chooseActiveLink linkState
  ready := chooseActiveLink linkState ≠ .none
  activeIpAddr := (linkState (chooseActiveLink linkState)).ipAddr
  activeNetmaskAddr := (linkState (chooseActiveLink linkState)).netmaskAddr
  wifiApUp := (linkState .wifiAp).up
  wifiStaUp := (linkState .wifiSta).up
  ethernetUp := (linkState .ethernet).up
  wifiApIpAddr := (linkState .wifiAp).ipAddr
  wifiApNetmaskAddr := (linkState .wifiAp).netmaskAddr
  wifiStaIpAddr := (linkState .wifiSta).ipAddr
  wifiStaNetmaskAddr := (linkState .wifiSta).netmaskAddr
  ethernetIpAddr := (linkState .ethernet).ipAddr
  ethernetNetmaskAddr := (linkState .ethernet).netmaskAddr

/-! ## Callbacks -/

/-- Two callbacks are the same when the function and its context are. -/
structure CallbackTable (Callback : Type*) where
  entries : List (Option Callback)
  size : entries.length = 4
  distinct : entries.reduceOption.Nodup

/-- The second loop of `network_ready_register_callback`: the first free
entry is taken. -/
def claimEntry {Callback : Type*} (callback : Callback) :
    List (Option Callback) → Option (List (Option Callback))
  | [] => none
  | none :: rest => some (some callback :: rest)
  | some other :: rest =>
      (claimEntry callback rest).map (some other :: ·)

theorem claimEntry_eq {Callback : Type*} (callback : Callback)
    {entries claimed : List (Option Callback)}
    (claims : claimEntry callback entries = some claimed) :
    ∃ before after,
      entries = before ++ none :: after ∧
      claimed = before ++ some callback :: after := by
  induction entries generalizing claimed with
  | nil => cases claims
  | cons entry rest induction =>
      cases entry with
      | none =>
          cases claims
          exact ⟨[], rest, rfl, rfl⟩
      | some other =>
          rcases Option.map_eq_some_iff.mp claims with
            ⟨claimedRest, claimsRest, rfl⟩
          rcases induction claimsRest with ⟨before, after, rfl, rfl⟩
          exact ⟨some other :: before, after, rfl, rfl⟩

theorem claimEntry_perm {Callback : Type*} (callback : Callback)
    {entries claimed : List (Option Callback)}
    (claims : claimEntry callback entries = some claimed) :
    claimed.reduceOption.Perm (callback :: entries.reduceOption) := by
  rcases claimEntry_eq callback claims with ⟨before, after, rfl, rfl⟩
  simp only [List.reduceOption_append, List.reduceOption_cons_of_some,
    List.reduceOption_cons_of_none]
  exact List.perm_middle

theorem claimEntry_length {Callback : Type*} (callback : Callback)
    {entries claimed : List (Option Callback)}
    (claims : claimEntry callback entries = some claimed) :
    claimed.length = entries.length := by
  rcases claimEntry_eq callback claims with ⟨before, after, rfl, rfl⟩
  simp

section

variable {Callback : Type*} [DecidableEq Callback]

/-- `network_ready_register_callback`: the table after it, and what it
returns. -/
def CallbackTable.register
    (table : CallbackTable Callback) :
    Option Callback → CallbackTable Callback × Bool
  | none => (table, false)
  | some callback =>
      if known : callback ∈ table.entries.reduceOption then (table, true)
      else
        match claims : claimEntry callback table.entries with
        | some claimed =>
            ({ entries := claimed
               size := (claimEntry_length callback claims).trans table.size
               distinct :=
                (claimEntry_perm callback claims).nodup_iff.mpr
                  (List.nodup_cons.mpr ⟨known, table.distinct⟩) },
              true)
        | none => (table, false)

/-- The callbacks of the table, in the order of its entries. -/
def CallbackTable.callbacks (table : CallbackTable Callback) : List Callback :=
  table.entries.reduceOption

omit [DecidableEq Callback] in
theorem CallbackTable.callbacks_nodup (table : CallbackTable Callback) :
    table.callbacks.Nodup :=
  table.distinct

theorem CallbackTable.mem_register
    (table : CallbackTable Callback) (registered : Option Callback)
    {callback : Callback} (member : callback ∈ table.callbacks) :
    callback ∈ (table.register registered).1.callbacks := by
  unfold CallbackTable.register
  split
  · exact member
  · split
    · exact member
    · split
      · next claimed claims =>
          exact
            (claimEntry_perm _ claims).mem_iff.mpr
              (List.mem_cons_of_mem _ member)
      · exact member

end

/-! ## What is behind the lock -/

/-- The static variables of `network_ready.c`. -/
structure NetworkReady (Callback : Type*) where
  linkState : ReadyLink → LinkState
  currentSnapshot : ReadySnapshot
  callbackEntries : CallbackTable Callback

/-- `network_ready_init`. -/
def NetworkReady.init {Callback : Type*} : NetworkReady Callback where
  linkState := fun _ => {}
  currentSnapshot := {}
  callbackEntries :=
    { entries := List.replicate 4 none
      size := List.length_replicate
      distinct := List.nodup_nil }

/-- What a task does to the variables inside of its first section. -/
inductive ReadyOperation (Callback : Type*) where
  | publishUp (link : ReadyLink) (ipAddr netmaskAddr : UInt32)
  | publishDown (link : ReadyLink)
  | registerCallback (callback : Option Callback)

section

variable {Callback : Type*} [DecidableEq Callback]

/-- A link is set to `link` and the snapshot is made anew. -/
def NetworkReady.setLink (network : NetworkReady Callback)
    (link : ReadyLink) (reported : LinkState) : NetworkReady Callback :=
  let linkState := Function.update network.linkState link reported
  { network with
    linkState := linkState
    currentSnapshot := refreshSnapshot linkState }

/-- The section of `network_ready_publish_up`. -/
def NetworkReady.publishUp (network : NetworkReady Callback)
    (link : ReadyLink) (ipAddr netmaskAddr : UInt32) :
    NetworkReady Callback :=
  if link = .none then network
  else
    network.setLink link
      { up := true, ipAddr := ipAddr, netmaskAddr := netmaskAddr }

/-- The section of `network_ready_publish_down`. -/
def NetworkReady.publishDown (network : NetworkReady Callback)
    (link : ReadyLink) : NetworkReady Callback :=
  if link = .none then network
  else network.setLink link { up := false, ipAddr := 0, netmaskAddr := 0 }

/-- `network_ready_register_callback`, on all of the variables. -/
def NetworkReady.registerCallback (network : NetworkReady Callback)
    (callback : Option Callback) : NetworkReady Callback :=
  { network with
    callbackEntries := (network.callbackEntries.register callback).1 }

def NetworkReady.operate (network : NetworkReady Callback) :
    ReadyOperation Callback → NetworkReady Callback
  | .publishUp link ipAddr netmaskAddr =>
      network.publishUp link ipAddr netmaskAddr
  | .publishDown link => network.publishDown link
  | .registerCallback callback => network.registerCallback callback

/-- `network_ready.c` as tasks use it: a section, then `network_ready_notify`
when the snapshot has changed. -/
def networkReady :
    Component (NetworkReady Callback) (ReadyOperation Callback) ReadySnapshot
      Callback where
  operate := NetworkReady.operate
  value := NetworkReady.currentSnapshot
  listeners := fun network => network.callbackEntries.callbacks

end

/-! ## What callbacks hear -/

section

variable {Task Callback : Type*} [DecidableEq Task] [DecidableEq Callback]

/-- Where the tasks and the variables of `network_ready.c` stand. -/
abbrev ReadyState (Task Callback : Type*) :=
  State Task (NetworkReady Callback) ReadySnapshot Callback

/-- The steps that tasks take in `network_ready.c`. -/
def readyStep :
    ReadyState Task Callback → Action Task (ReadyOperation Callback) →
    ReadyState Task Callback × Output Task ReadySnapshot Callback :=
  step networkReady

/-- The variables before anything is reported. -/
def readyBoot : ReadyState Task Callback where
  held := NetworkReady.init
  duty := fun _ => .free

theorem listed_iff (network : NetworkReady Callback) (callback : Callback) :
    Listed networkReady callback network ↔
    callback ∈ network.callbackEntries.callbacks := by
  constructor
  · intro once
    exact List.count_pos_iff.mp (once ▸ Nat.one_pos)
  · exact List.count_eq_one_of_mem network.callbackEntries.callbacks_nodup

theorem operate_mem (network : NetworkReady Callback)
    (operation : ReadyOperation Callback) {callback : Callback}
    (member : callback ∈ network.callbackEntries.callbacks) :
    callback ∈ (network.operate operation).callbackEntries.callbacks := by
  cases operation with
  | publishUp link ipAddr netmaskAddr =>
      simp only [NetworkReady.operate, NetworkReady.publishUp]
      split_ifs <;> exact member
  | publishDown link =>
      simp only [NetworkReady.operate, NetworkReady.publishDown]
      split_ifs <;> exact member
  | registerCallback registered =>
      exact network.callbackEntries.mem_register registered member

theorem networkReady_keepsListed (callback : Callback) :
    KeepsListed networkReady callback := by
  intro network operation listed
  rw [listed_iff] at listed ⊢
  exact operate_mem network operation listed

/--
However tasks interleave their reports, a registered callback hears from each
task every snapshot that a report of the task changed to, once and in the
order of the reports.
-/
theorem callback_hears_exactly
    (start : ReadyState Task Callback) {callback : Callback}
    (registered : callback ∈ start.held.callbackEntries.callbacks)
    (task : Task) (actions : List (Action Task (ReadyOperation Callback))) :
    shown (Output.heard? callback task)
          (Run.history readyStep start actions) ++
        ((Run.final readyStep start actions).duty task).owed callback =
      (start.duty task).owed callback ++
        shown (Output.changed? task) (Run.history readyStep start actions) :=
  heard_exactly (networkReady_keepsListed callback)
    ((listed_iff _ _).mpr registered) task actions

def unannounced : ReadyState Bool Unit :=
  Run.final readyStep readyBoot
    [.operate false (.registerCallback (some ())),
      .operate true (.publishUp .wifiAp 7 8)]

theorem callback_hears_exactly_unannounced :
    shown (Output.heard? () true)
          (Run.history readyStep unannounced [.read true, .call true]) ++
        ((Run.final readyStep unannounced
          [.read true, .call true]).duty true).owed () =
      (unannounced.duty true).owed () ++
        shown (Output.changed? true)
          (Run.history readyStep unannounced [.read true, .call true]) :=
  callback_hears_exactly unannounced (by decide) true [.read true, .call true]

/-! ## The last reports -/

/-- What an operation reports about a link. -/
def ReadyOperation.report? {Callback : Type*} (link : ReadyLink) :
    ReadyOperation Callback → Option LinkState
  | .publishUp published ipAddr netmaskAddr =>
      if published = link ∧ link ≠ .none then
        some { up := true, ipAddr := ipAddr, netmaskAddr := netmaskAddr }
      else none
  | .publishDown published =>
      if published = link ∧ link ≠ .none then some {} else none
  | .registerCallback _ => none

/-- What a step reports about a link.  A task that is announcing enters no
section. -/
def reported? (link : ReadyLink)
    (made :
      Run.Transition (ReadyState Task Callback)
        (Action Task (ReadyOperation Callback))
        (Output Task ReadySnapshot Callback)) :
    Option LinkState :=
  match made.action with
  | .operate task operation =>
      match made.before.duty task with
      | .free => operation.report? link
      | _ => none
  | _ => none

/-- The last report about a link; it is down until something is reported. -/
def lastReport
    (past :
      List
        (Run.Transition (ReadyState Task Callback)
          (Action Task (ReadyOperation Callback))
          (Output Task ReadySnapshot Callback)))
    (link : ReadyLink) : LinkState :=
  (past.filterMap (reported? link)).getLastD {}

omit [DecidableEq Task] [DecidableEq Callback] in
theorem lastReport_snoc
    (past :
      List
        (Run.Transition (ReadyState Task Callback)
          (Action Task (ReadyOperation Callback))
          (Output Task ReadySnapshot Callback)))
    (made :
      Run.Transition (ReadyState Task Callback)
        (Action Task (ReadyOperation Callback))
        (Output Task ReadySnapshot Callback))
    (link : ReadyLink) :
    lastReport (past ++ [made]) link =
      (reported? link made).getD (lastReport past link) := by
  rw [lastReport, List.filterMap_append]
  cases shows : reported? link made with
  | none => simp [shows, lastReport]
  | some report => simp [shows]

omit [DecidableEq Callback] in
theorem setLink_linkState
    (network : NetworkReady Callback) (published link : ReadyLink)
    (report : LinkState) :
    (if published = .none then network
      else network.setLink published report).linkState link =
      (if published = link ∧ link ≠ .none then some report
        else none).getD (network.linkState link) := by
  by_cases isNone : published = .none
  · rw [if_pos isNone, if_neg (by rintro ⟨rfl, other⟩; exact other isNone)]
    rfl
  · rw [if_neg isNone]
    by_cases own : link = published
    · subst own
      rw [if_pos ⟨rfl, isNone⟩]
      exact Function.update_self ..
    · rw [if_neg (by rintro ⟨same, _⟩; exact own same.symm)]
      exact Function.update_of_ne own ..

theorem operate_linkState
    (network : NetworkReady Callback)
    (operation : ReadyOperation Callback) (link : ReadyLink) :
    (network.operate operation).linkState link =
      (operation.report? link).getD (network.linkState link) := by
  cases operation with
  | publishUp published ipAddr netmaskAddr =>
      exact setLink_linkState network published link _
  | publishDown published => exact setLink_linkState network published link _
  | registerCallback callback => rfl

theorem readyStep_linkState
    (state : ReadyState Task Callback)
    (action : Action Task (ReadyOperation Callback)) (link : ReadyLink) :
    (readyStep state action).1.held.linkState link =
      (reported? link (Run.call readyStep state action)).getD
        (state.held.linkState link) := by
  rw [readyStep, step_held]
  cases action with
  | operate task operation =>
      cases duty : state.duty task with
      | free =>
          simp only [reported?, Run.call, duty]
          exact operate_linkState state.held operation link
      | _ => simp [reported?, Run.call, duty]
  | _ => rfl

/-- The snapshot is the one that the table of links gives. -/
def NetworkReady.Fresh (network : NetworkReady Callback) : Prop :=
  network.currentSnapshot = refreshSnapshot network.linkState

theorem operate_fresh
    (network : NetworkReady Callback) (operation : ReadyOperation Callback)
    (fresh : network.Fresh) : (network.operate operation).Fresh := by
  cases operation with
  | publishUp link ipAddr netmaskAddr =>
      simp only [NetworkReady.operate, NetworkReady.publishUp]
      split_ifs
      · exact fresh
      · rfl
  | publishDown link =>
      simp only [NetworkReady.operate, NetworkReady.publishDown]
      split_ifs
      · exact fresh
      · rfl
  | registerCallback callback => exact fresh

theorem snapshot_of_lastReport
    (actions : List (Action Task (ReadyOperation Callback))) :
    (Run.final readyStep readyBoot actions).held.currentSnapshot =
      refreshSnapshot
        (lastReport
          (Run.history readyStep
            (readyBoot : ReadyState Task Callback) actions)) := by
  have along :
      (Run.final readyStep
          (readyBoot : ReadyState Task Callback) actions).held.Fresh ∧
      (Run.final readyStep
          (readyBoot : ReadyState Task Callback) actions).held.linkState =
        lastReport (Run.history readyStep readyBoot actions) := by
    refine
      Run.history_induction
        (motive := fun past state =>
          state.held.Fresh ∧ state.held.linkState = lastReport past)
        ?_ ?_ actions
    · exact ⟨rfl, rfl⟩
    · rintro past state action ⟨fresh, reports⟩
      have effect := step_effect networkReady state action
      refine ⟨effect.held _ operate_fresh fresh, funext fun link => ?_⟩
      rw [readyStep_linkState, lastReport_snoc, reports]
  rw [along.1, along.2]

/-! ## The link that is used -/

/-- How much a link is preferred. -/
def ReadyLink.priority : ReadyLink → Nat
  | .none => 0
  | .wifiAp => 1
  | .wifiSta => 2
  | .ethernet => 3

/-- The snapshot names the most preferred of the links that are up, with its
address, and is not ready when none is. -/
structure NamesBest
    (linkState : ReadyLink → LinkState) (snapshot : ReadySnapshot) : Prop where
  up : snapshot.activeLink ≠ .none → (linkState snapshot.activeLink).up = true
  best :
    ∀ link, link ≠ .none → (linkState link).up = true →
    link.priority ≤ snapshot.activeLink.priority
  ready : snapshot.ready = true ↔ snapshot.activeLink ≠ .none
  address :
    snapshot.activeIpAddr = (linkState snapshot.activeLink).ipAddr ∧
    snapshot.activeNetmaskAddr = (linkState snapshot.activeLink).netmaskAddr

theorem chooseActiveLink_up (linkState : ReadyLink → LinkState)
    (chosen : chooseActiveLink linkState ≠ .none) :
    (linkState (chooseActiveLink linkState)).up = true := by
  unfold chooseActiveLink at chosen ⊢
  split_ifs at chosen ⊢ with ethernet wifiSta wifiAp
  · exact ethernet
  · exact wifiSta
  · exact wifiAp
  · exact absurd rfl chosen

theorem chooseActiveLink_best (linkState : ReadyLink → LinkState)
    {link : ReadyLink} (some : link ≠ .none)
    (up : (linkState link).up = true) :
    link.priority ≤ (chooseActiveLink linkState).priority := by
  unfold chooseActiveLink
  cases link with
  | none => exact absurd rfl some
  | ethernet =>
      rw [if_pos up]
  | wifiAp | wifiSta =>
      rw [if_pos up]
      split_ifs <;> decide

theorem refreshSnapshot_namesBest (linkState : ReadyLink → LinkState) :
    NamesBest linkState (refreshSnapshot linkState) where
  up := chooseActiveLink_up linkState
  best := fun _ some up => chooseActiveLink_best linkState some up
  ready := by simp [refreshSnapshot]
  address := ⟨rfl, rfl⟩

/--
When no task reports while another is still announcing, a registered callback
that is owed nothing has heard of every change in order, and what it heard
last is the current snapshot: the most preferred link among those whose last
report was that they are up, with the address of that report.
-/
theorem callback_holds_best_link
    {callback : Callback}
    {earlier later : List (Action Task (ReadyOperation Callback))}
    {middle last : ReadyState Task Callback}
    (reached : Run.final readyStep readyBoot earlier = middle)
    (ends : Run.final readyStep middle later = last)
    (registered : callback ∈ middle.held.callbackEntries.callbacks)
    (atRest : ∀ task, middle.duty task = .free)
    (alone : ∀ made ∈ Run.history readyStep middle later, Alone made)
    (settled : ∀ task, last.duty task = .free) :
    shown (Output.heardFromAny? callback) (Run.history readyStep middle later) =
        shown Output.changedByAny? (Run.history readyStep middle later) ∧
    last.held.currentSnapshot =
      (shown (Output.heardFromAny? callback)
        (Run.history readyStep middle later)).getLastD
          middle.held.currentSnapshot ∧
    NamesBest
      (lastReport
        (Run.history readyStep
          (readyBoot : ReadyState Task Callback) (earlier ++ later)))
      last.held.currentSnapshot := by
  subst reached ends
  rcases
    heard_in_order (networkReady_keepsListed callback)
      ((listed_iff _ _).mpr registered) atRest later alone settled with
    ⟨heard, holds⟩
  refine ⟨heard, holds, ?_⟩
  rw [← Run.final_append, snapshot_of_lastReport]
  exact refreshSnapshot_namesBest _

def upThenDown : List (Action Bool (ReadyOperation Unit)) :=
  [.operate false (.publishUp .ethernet 7 8), .read false, .call false, .call false,
    .operate true (.publishDown .ethernet), .read true, .call true, .call true]

theorem callback_holds_best_link_upThenDown :
    NamesBest
      (lastReport
        (Run.history readyStep (readyBoot : ReadyState Bool Unit)
          ([.operate false (.registerCallback (some ()))] ++ upThenDown)))
      {} :=
  (@callback_holds_best_link Bool Unit _ _ ()
    [.operate false (.registerCallback (some ()))] upThenDown _ _ rfl rfl
    (by decide) (by decide) (by decide) (by decide)).2.2

/-- When the second report comes before the first is announced, the callback
may hear of them the other way round. -/
example :
    shown (Output.heardFromAny? ())
        (Run.history readyStep (readyBoot : ReadyState Bool Unit)
          [.operate false (.registerCallback (some ())),
            .operate false (.publishUp .wifiAp 7 8),
            .operate true (.publishDown .wifiAp), .read true, .call true, .call true,
            .read false, .call false, .call false]) =
      [refreshSnapshot fun _ => {},
        refreshSnapshot
          (Function.update (fun _ => {}) .wifiAp ⟨true, 7, 8⟩)] := by
  decide

end

end Endap.Network
