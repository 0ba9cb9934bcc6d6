/-
This file is about the links and the topology: which links `ApplyTopology`, the handler that
`OnLinkDone` posts and the timer that it sets leave in the map, when they run on several
threads.

A step is one region under `linksMutex`, or a call between two of them. The handlers are
numbered in the order in which they are posted; a handler that sets a timer goes on as the
callback of the timer. Delays are left out, a timer may fire at any time.

`ApplyTopology` takes out what does not agree with the new topology and replaces
`configuredNodes` in one region. The callback of a timer looks at `configuredNodes` in one
region and puts its link into the map in the next, and what it has seen need not hold any
more.
-/

import Wimi.Gateway.LinkTable

namespace Wimi.Gateway

open Function List Option Transition MessageLink

/-! ### The manager -/

/-- Where `ApplyTopology` stands: the links it has taken out and not stopped yet, the nodes it has
not looked at yet, the node it is about to start a link for, the link it is about to start. -/
inductive TopologyPhase where
  | idle
  | stopRemoved (removed : List Nat) (nodes : List Node)
  | check (nodes : List Node)
  | startLink (node : Node) (rest : List Node)
  | start (index : Nat) (rest : List Node)
deriving DecidableEq, Repr

inductive Handler where
  | posted (nodeId : String) (source : Nat)
  | retryPending (node : Node)
  | timer (node : Node)
  | startLink (node : Node)
  | start (index : Nat)
  | finished
deriving DecidableEq, Repr

structure LinkManager where
  table : LinkTable := {}
  configuredNodes : List Node := []
  stopping : Bool := false
  topology : TopologyPhase := .idle
  handlers : List Handler := []

inductive TopologyAction where
  | applyTopology (nodes : List Node)
  | stopRemoved
  | check
  | startLink
  | start
  | linkDone (index : Nat)
  | onLinkDone (handler : Nat)
  | setTimer (handler : Nat)
  | fire (handler : Nat) (failed : Bool)
  | startLinkAgain (handler : Nat)
  | startAgain (handler : Nat)
  | stopLink (index : Nat)
  | stop
deriving DecidableEq, Repr

/-! ### The regions -/

def outdated (configuredNodes nodes : List Node) (nodeId : String) : Bool :=
  match findNode nodes nodeId, findNode configuredNodes nodeId with
  | none, _ => true
  | some wanted, some configured =>
    decide (wanted.host ≠ configured.host) || decide (wanted.port ≠ configured.port)
  | some _, none => false

def applyTopology (manager : LinkManager) (nodes : List Node) : LinkManager :=
  { manager with
    table :=
      { manager.table with
        links := manager.table.links.filter fun entry =>
          !outdated manager.configuredNodes nodes entry.1 }
    configuredNodes := nodes
    topology := .stopRemoved
      ((manager.table.links.filter fun entry =>
        outdated manager.configuredNodes nodes entry.1).map Prod.snd) nodes }

def onLinkDone (manager : LinkManager) (nodeId : String) (source : Nat) :
    LinkTable × Handler :=
  if manager.stopping then (manager.table, .finished)
  else if manager.table.find nodeId = some source then
    (manager.table.erase nodeId,
      match findNode manager.configuredNodes nodeId with
      | some node => .retryPending node
      | none => .finished)
  else (manager.table, .finished)

def onTimer (manager : LinkManager) (node : Node) (failed : Bool) : Handler :=
  if failed || manager.stopping then .finished
  else if !configuredAs manager.configuredNodes node || (manager.table.find node.id).isSome then
    .finished
  else .startLink node

def topologyStep (manager : LinkManager) : TopologyAction → Option LinkManager
  | .applyTopology nodes =>
    match manager.topology with
    | .idle => some (applyTopology manager nodes)
    | _ => none
  | .stopRemoved =>
    match manager.topology with
    | .stopRemoved (index :: removed) nodes =>
      some
        { manager with
          table := manager.table.update index stop
          topology := .stopRemoved removed nodes }
    | .stopRemoved [] nodes => some { manager with topology := .check nodes }
    | _ => none
  | .check =>
    match manager.topology with
    | .check (node :: rest) =>
      some
        { manager with
          topology :=
            if (manager.table.find node.id).isSome then .check rest else .startLink node rest }
    | .check [] => some { manager with topology := .idle }
    | _ => none
  | .startLink =>
    match manager.topology with
    | .startLink node rest =>
      some
        { manager with
          table := manager.table.startLink node
          topology := .start manager.table.created rest }
    | _ => none
  | .start =>
    match manager.topology with
    | .start index rest =>
      some { manager with table := manager.table.start index, topology := .check rest }
    | _ => none
  | .linkDone index =>
    match manager.table.objects index with
    | some link =>
      if link.started ∧ ¬ link.done then
        some
          { manager with
            table := manager.table.finish index
            handlers := manager.handlers ++ [.posted link.node.id index] }
      else none
    | none => none
  | .onLinkDone handler =>
    match manager.handlers[handler]? with
    | some (.posted nodeId source) =>
      let (table, next) := onLinkDone manager nodeId source
      some { manager with table, handlers := manager.handlers.set handler next }
    | _ => none
  | .setTimer handler =>
    match manager.handlers[handler]? with
    | some (.retryPending node) =>
      some { manager with handlers := manager.handlers.set handler (.timer node) }
    | _ => none
  | .fire handler failed =>
    match manager.handlers[handler]? with
    | some (.timer node) =>
      some { manager with handlers := manager.handlers.set handler (onTimer manager node failed) }
    | _ => none
  | .startLinkAgain handler =>
    match manager.handlers[handler]? with
    | some (.startLink node) =>
      some
        { manager with
          table := manager.table.startLink node
          handlers := manager.handlers.set handler (.start manager.table.created) }
    | _ => none
  | .startAgain handler =>
    match manager.handlers[handler]? with
    | some (.start index) =>
      some
        { manager with
          table := manager.table.start index
          handlers := manager.handlers.set handler .finished }
    | _ => none
  | .stopLink index => some { manager with table := manager.table.update index stop }
  | .stop => some { manager with stopping := true }

/-! ### The table and the configured nodes -/

theorem configuredAs_of_current {nodes wanted : List Node} {node : Node}
    (configured : configuredAs nodes node = true)
    (current : outdated nodes wanted node.id = false) : configuredAs wanted node = true := by
  obtain ⟨known, found, host, port⟩ := configuredAs_iff.mp configured
  unfold outdated at current
  rw [found] at current
  cases sought : findNode wanted node.id with
  | none =>
    rw [sought] at current
    cases current
  | some next =>
    rw [sought] at current
    simp only [Bool.or_eq_false_iff, decide_eq_false_iff_not, not_not] at current
    exact configuredAs_iff.mpr ⟨next, sought, current.1.trans host, current.2.trans port⟩

structure Sound (table : LinkTable) (nodes : List Node) (removed : List Nat) : Prop where
  fresh : ∀ index, table.created ≤ index → table.objects index = none
  keys : (table.links.map Prod.fst).Nodup
  entries : ∀ nodeId index, (nodeId, index) ∈ table.links →
    ∃ link, table.objects index = some link ∧ link.node.id = nodeId ∧
      configuredAs nodes link.node = true
  live : ∀ index link, table.objects index = some link → link.stopped = false →
    (link.node.id, index) ∈ table.links ∨ index ∈ removed

def StaysStopped (table next : LinkTable) : Prop :=
  ∀ index link, table.objects index = some link → link.stopped = true →
    ∃ now, next.objects index = some now ∧ now.stopped = true ∧ now.node = link.node

structure Onward (change : MessageLink → MessageLink) : Prop where
  node : ∀ link, (change link).node = link.node
  stopped : ∀ link, link.stopped = true → (change link).stopped = true

theorem onward_stop : Onward stop where
  node := by
    intro link
    unfold stop
    split <;> rfl
  stopped := by
    intro link stopped
    rw [stop, if_pos stopped]
    exact stopped

theorem stopped_stop (link : MessageLink) : link.stop.stopped = true := by
  unfold stop
  split
  · assumption
  · rfl

variable {table next : LinkTable}

theorem staysStopped_update {index : Nat} {change : MessageLink → MessageLink}
    (onward : Onward change) : StaysStopped table (table.update index change) := by
  intro other link present stopped
  refine ⟨_, exists_objects_update change present, ?_⟩
  split
  · exact ⟨onward.stopped link stopped, onward.node link⟩
  · exact ⟨stopped, rfl⟩

namespace Sound

variable {nodes : List Node} {removed : List Nat}

theorem update (sound : Sound table nodes removed) (index : Nat)
    {change : MessageLink → MessageLink} (onward : Onward change) :
    Sound (table.update index change) nodes removed where
  fresh := by
    intro other late
    unfold LinkTable.update
    by_cases same : other = index
    · subst same
      simp only [update_self, sound.fresh other late, map_none]
    · simp only [update_of_ne same]
      exact sound.fresh other late
  keys := sound.keys
  entries := by
    intro nodeId other member
    obtain ⟨link, present, id, configured⟩ := sound.entries nodeId other member
    refine ⟨_, exists_objects_update change present, ?_⟩
    split
    · rw [onward.node]
      exact ⟨id, configured⟩
    · exact ⟨id, configured⟩
  live := by
    intro other link present running
    obtain ⟨before, old, ⟨rfl, rfl⟩ | ⟨-, rfl⟩⟩ := objects_update_eq_some present
    · rw [onward.node]
      refine sound.live other before old (Bool.eq_false_iff.mpr fun stopped => ?_)
      rw [onward.stopped before stopped] at running
      cases running
    · exact sound.live other link old running

theorem stop_removed {index : Nat} (sound : Sound table nodes (index :: removed)) :
    Sound (table.update index stop) nodes removed := by
  have stopped := sound.update index onward_stop
  refine ⟨stopped.fresh, stopped.keys, stopped.entries, fun other link present running => ?_⟩
  refine (stopped.live other link present running).imp_right fun member => ?_
  refine (List.mem_cons.mp member).resolve_left fun same => ?_
  subst same
  obtain ⟨before, -, ⟨-, rfl⟩ | ⟨different, -⟩⟩ := objects_update_eq_some present
  · rw [stopped_stop] at running
    cases running
  · exact different rfl

theorem erase (sound : Sound table nodes removed) {nodeId : String}
    (stopped : ∀ index link, (nodeId, index) ∈ table.links → table.objects index = some link →
      link.stopped = true) : Sound (table.erase nodeId) nodes removed where
  fresh := sound.fresh
  keys := sound.keys.sublist (filter_sublist.map Prod.fst)
  entries := fun other index member => sound.entries other index (mem_erase.mp member).1
  live := by
    intro index link present running
    refine (sound.live index link present running).imp_left fun member => ?_
    refine mem_erase.mpr ⟨member, fun same => ?_⟩
    have halted := stopped index link (same ▸ member) present
    rw [halted] at running
    cases running

theorem insert (sound : Sound table nodes removed) {node : Node}
    (free : ∀ index, (node.id, index) ∉ table.links) (configured : configuredAs nodes node = true) :
    Sound
      ⟨table.created + 1, Function.update table.objects table.created (some { node }),
        (node.id, table.created) :: table.links⟩ nodes removed where
  fresh := by
    intro index (late : table.created + 1 ≤ index)
    have different : index ≠ table.created := by omega
    exact (update_of_ne different _ _).trans (sound.fresh index (by omega))
  keys := by
    refine nodup_cons.mpr ⟨fun member => ?_, sound.keys⟩
    obtain ⟨⟨_, index⟩, present, rfl⟩ := mem_map.mp member
    exact free index present
  entries := by
    intro nodeId index member
    rcases List.mem_cons.mp member with now | before
    · cases now
      exact ⟨{ node }, update_self _ _ _, rfl, configured⟩
    obtain ⟨link, present, id, known⟩ := sound.entries nodeId index before
    have different : index ≠ table.created := by
      intro same
      rw [same, sound.fresh _ (Nat.le_refl _)] at present
      cases present
    exact ⟨link, (update_of_ne different _ _).trans present, id, known⟩
  live := by
    intro index link present running
    obtain ⟨rfl, rfl⟩ | ⟨-, old⟩ := Transition.update_eq_some present
    · exact .inl List.mem_cons_self
    · exact (sound.live index link old running).imp_left (List.mem_cons_of_mem _)

theorem startLink (sound : Sound table nodes removed) {node : Node}
    (configured : configuredAs nodes node = true) :
    Sound (table.startLink node) nodes removed := by
  have absent {retired : LinkTable} (index : Nat) :
      (node.id, index) ∉ (retired.erase node.id).links :=
    fun member => (mem_erase.mp member).2 rfl
  unfold LinkTable.startLink
  cases found : table.find node.id with
  | none =>
    have cleared : Sound (table.erase node.id) nodes removed :=
      sound.erase fun index _ member => absurd member (not_mem_of_find found index)
    exact cleared.insert absent configured
  | some old =>
    have retired := sound.update old onward_stop
    have cleared : Sound ((table.update old stop).erase node.id) nodes removed := by
      refine retired.erase fun index link member present => ?_
      have same : index = old := by
        have entry := inj_on_of_nodup_map sound.keys member (mem_of_find found) rfl
        exact congrArg Prod.snd entry
      obtain ⟨before, -, ⟨-, rfl⟩ | ⟨different, -⟩⟩ := objects_update_eq_some present
      · exact stopped_stop before
      · exact absurd same different
    exact cleared.insert absent configured

theorem applyTopology {manager : LinkManager} {wanted : List Node}
    (sound : Sound manager.table manager.configuredNodes []) :
    Sound (applyTopology manager wanted).table wanted
      ((manager.table.links.filter fun entry =>
        outdated manager.configuredNodes wanted entry.1).map Prod.snd) where
  fresh := sound.fresh
  keys := sound.keys.sublist (filter_sublist.map Prod.fst)
  entries := by
    intro nodeId index member
    obtain ⟨member, kept⟩ := mem_filter.mp member
    obtain ⟨link, present, rfl, configured⟩ := sound.entries nodeId index member
    exact ⟨link, present, rfl, configuredAs_of_current configured (by simpa using kept)⟩
  live := by
    intro index link present running
    have member := (sound.live index link present running).resolve_right not_mem_nil
    cases late : outdated manager.configuredNodes wanted link.node.id with
    | false => exact .inl (mem_filter.mpr ⟨member, by rw [late]; rfl⟩)
    | true =>
      exact .inr (mem_map.mpr ⟨_, mem_filter.mpr ⟨member, late⟩, rfl⟩)

end Sound

theorem staysStopped_startLink (fresh : ∀ index, table.created ≤ index → table.objects index = none)
    (node : Node) : StaysStopped table (table.startLink node) := by
  intro index link present stopped
  have different : index ≠ table.created := by grind
  unfold LinkTable.startLink
  simp only [update_of_ne different]
  split
  · exact staysStopped_update onward_stop index link present stopped
  · exact ⟨link, present, stopped, rfl⟩

/-! ### What the threads rely on -/

namespace TopologyPhase

def removed : TopologyPhase → List Nat
  | .stopRemoved removed _ => removed
  | _ => []

def nodes : TopologyPhase → List Node
  | .stopRemoved _ nodes => nodes
  | .check nodes => nodes
  | .startLink node rest => node :: rest
  | .start _ rest => rest
  | .idle => []

end TopologyPhase

def Handler.Sound (table : LinkTable) (nodes : List Node) : Handler → Prop
  | .posted nodeId source =>
    ∃ link, table.objects source = some link ∧ link.stopped = true ∧ link.node.id = nodeId
  | .startLink node => configuredAs nodes node = true
  | _ => True

structure Managed (manager : LinkManager) : Prop where
  sound : Sound manager.table manager.configuredNodes manager.topology.removed
  wanted : ∀ node ∈ manager.topology.nodes, configuredAs manager.configuredNodes node = true
  handlers : ∀ handler ∈ manager.handlers, handler.Sound manager.table manager.configuredNodes

def Handler.undisturbed (nodes : List Node) : Handler → Bool
  | .startLink node => configuredAs nodes node
  | _ => true

/-- The topology names a node once, or always with the same host and port; and it does not come
between the look of a timer at a node and the link it starts, unless it leaves the node where it
is. -/
def Undisturbed (manager : LinkManager) : TopologyAction → Prop
  | .applyTopology nodes =>
    (∀ node ∈ nodes, configuredAs nodes node = true) ∧
      ∀ handler ∈ manager.handlers, handler.undisturbed nodes = true
  | _ => True

instance (manager : LinkManager) : ∀ action, Decidable (Undisturbed manager action)
  | .applyTopology nodes =>
    inferInstanceAs (Decidable ((∀ node ∈ nodes, configuredAs nodes node = true) ∧
      ∀ handler ∈ manager.handlers, handler.undisturbed nodes = true))
  | .stopRemoved | .check | .startLink | .start | .linkDone _ | .onLinkDone _ | .setTimer _
  | .fire _ _ | .startLinkAgain _ | .startAgain _ | .stopLink _ | .stop => isTrue trivial

theorem Handler.Sound.mono {nodes : List Node} {handler : Handler}
    (sound : handler.Sound table nodes) (stays : StaysStopped table next) :
    handler.Sound next nodes := by
  cases handler with
  | posted nodeId source =>
    obtain ⟨link, present, stopped, id⟩ := sound
    obtain ⟨now, there, halted, node⟩ := stays source link present stopped
    exact ⟨now, there, halted, node ▸ id⟩
  | startLink node => exact sound
  | retryPending | timer | start | finished => trivial

theorem managed_initial : Managed {} where
  sound := ⟨fun _ _ => rfl, nodup_nil, fun _ _ member => (by cases member),
    fun _ _ present => (by cases present)⟩
  wanted := forall_mem_nil _
  handlers := forall_mem_nil _

namespace Managed

variable {manager : LinkManager}

section

variable (managed : Managed manager)
include managed

theorem set (handler : Nat) {table : LinkTable} {phase : Handler}
    (sound : Gateway.Sound table manager.configuredNodes manager.topology.removed)
    (stays : StaysStopped manager.table table)
    (relies : phase.Sound table manager.configuredNodes) :
    Managed { manager with table, handlers := manager.handlers.set handler phase } where
  sound := sound
  wanted := managed.wanted
  handlers := by
    intro other member
    rcases mem_or_eq_of_mem_set member with before | now
    · exact (managed.handlers other before).mono stays
    · exact now ▸ relies

theorem advance {before : TopologyPhase} (was : manager.topology = before) (phase : TopologyPhase)
    {table : LinkTable}
    (sound : Gateway.Sound manager.table manager.configuredNodes before.removed →
      Gateway.Sound table manager.configuredNodes phase.removed)
    (stays : StaysStopped manager.table table) (nodes : phase.nodes ⊆ before.nodes) :
    Managed { manager with table, topology := phase } := by
  subst was
  exact ⟨sound managed.sound, fun node member => managed.wanted node (nodes member),
    fun handler member => (managed.handlers handler member).mono stays⟩

theorem applyTopology {nodes : List Node} (idle : manager.topology = .idle)
    (undisturbed : Undisturbed manager (.applyTopology nodes)) :
    Managed (Gateway.applyTopology manager nodes) where
  sound := by
    have sound := managed.sound
    rw [idle] at sound
    exact sound.applyTopology
  wanted := undisturbed.1
  handlers := by
    intro handler member
    have relies := managed.handlers handler member
    cases handler with
    | posted nodeId source => exact relies
    | startLink node => exact undisturbed.2 _ member
    | retryPending | timer | start | finished => trivial

theorem onLinkDone {handler : Nat} {nodeId : String} {source : Nat}
    (posted : manager.handlers[handler]? = some (.posted nodeId source)) : Managed
      { manager with
        table := (Gateway.onLinkDone manager nodeId source).1
        handlers := manager.handlers.set handler
          (Gateway.onLinkDone manager nodeId source).2 } := by
  obtain ⟨link, present, stopped, id⟩ := managed.handlers _ (mem_of_getElem? posted)
  have unchanged : StaysStopped manager.table manager.table :=
    fun _ link present stopped => ⟨link, present, stopped, rfl⟩
  unfold Gateway.onLinkDone
  split
  · exact managed.set handler managed.sound unchanged trivial
  split
  · rename_i found
    refine managed.set handler (managed.sound.erase fun index other member there => ?_)
      unchanged ?_
    · have same := inj_on_of_nodup_map managed.sound.keys member (mem_of_find found) rfl
      cases same
      rw [present] at there
      cases there
      exact stopped
    · split <;> trivial
  · exact managed.set handler managed.sound unchanged trivial

end

end Managed

theorem managed_step (manager : LinkManager) (action : TopologyAction) (next : LinkManager)
    (managed : Managed manager) (undisturbed : Undisturbed manager action)
    (taken : topologyStep manager action = some next) : Managed next := by
  have unchanged : StaysStopped manager.table manager.table :=
    fun _ link present stopped => ⟨link, present, stopped, rfl⟩
  have started : Onward fun link => { link with started := true } :=
    ⟨fun _ => rfl, fun _ stopped => stopped⟩
  cases action with simp only [topologyStep] at taken
  | applyTopology nodes =>
    split at taken <;> cases taken
    exact managed.applyTopology ‹_› undisturbed
  | stopRemoved =>
    split at taken <;> cases taken
    · rename_i phase
      exact managed.advance phase (.stopRemoved _ _) Sound.stop_removed
        (staysStopped_update onward_stop) (List.Subset.refl _)
    · rename_i phase
      exact managed.advance phase (.check _) id unchanged (List.Subset.refl _)
  | check =>
    split at taken <;> cases taken
    · rename_i phase
      split
      · exact managed.advance phase (.check _) id unchanged (subset_cons_self _ _)
      · exact managed.advance phase (.startLink _ _) id unchanged (List.Subset.refl _)
    · rename_i phase
      exact managed.advance phase .idle id unchanged (List.Subset.refl _)
  | startLink =>
    split at taken <;> cases taken
    rename_i node rest phase
    have configured : configuredAs manager.configuredNodes node = true :=
      managed.wanted node (by rw [phase]; exact List.mem_cons_self)
    exact managed.advance phase (.start _ _) (fun sound => sound.startLink configured)
      (staysStopped_startLink managed.sound.fresh node) (subset_cons_self _ _)
  | start =>
    split at taken <;> cases taken
    rename_i phase
    exact managed.advance phase (.check _) (fun sound => sound.update _ started)
      (staysStopped_update started) (List.Subset.refl _)
  | linkDone index =>
    split at taken
    · rename_i link present
      split at taken <;> cases taken
      have finished : Onward fun link =>
          { link with stopped := true, healthy := false, done := true } :=
        ⟨fun _ => rfl, fun _ _ => rfl⟩
      refine ⟨managed.sound.update index finished, managed.wanted, ?_⟩
      refine forall_mem_append.mpr ⟨fun handler member =>
        (managed.handlers handler member).mono (staysStopped_update finished),
        forall_mem_singleton.mpr ⟨_, exists_objects_update _ present, ?_⟩⟩
      rw [if_pos rfl]
      exact ⟨rfl, rfl⟩
    · cases taken
  | onLinkDone handler =>
    split at taken <;> cases taken
    exact managed.onLinkDone ‹_›
  | setTimer handler =>
    split at taken <;> cases taken
    exact managed.set handler managed.sound unchanged trivial
  | fire handler failed =>
    split at taken <;> cases taken
    rename_i node phase
    refine managed.set handler managed.sound unchanged ?_
    unfold onTimer
    split
    · trivial
    split
    · trivial
    rename_i passed
    have free : configuredAs manager.configuredNodes node = true ∧
        manager.table.find node.id = none := by simpa using passed
    exact free.1
  | startLinkAgain handler =>
    split at taken <;> cases taken
    rename_i node phase
    have configured : configuredAs manager.configuredNodes node = true :=
      managed.handlers _ (mem_of_getElem? phase)
    exact managed.set handler (managed.sound.startLink configured)
      (staysStopped_startLink managed.sound.fresh node) trivial
  | startAgain handler =>
    split at taken <;> cases taken
    exact managed.set handler (managed.sound.update _ started) (staysStopped_update started) trivial
  | stopLink index =>
    cases taken
    exact ⟨managed.sound.update index onward_stop, managed.wanted, fun handler member =>
      (managed.handlers handler member).mono (staysStopped_update onward_stop)⟩
  | stop =>
    cases taken
    exact ⟨managed.sound, managed.wanted, managed.handlers⟩

/-! ### Links and topology -/

def Handler.resting : Handler → Bool
  | .posted _ _ => true
  | .timer _ => true
  | .finished => true
  | _ => false

def LinkManager.resting (manager : LinkManager) : Bool :=
  manager.topology = .idle && manager.handlers.all Handler.resting

/-- Every link in the map was made for a host and port that are configured under its node id, and a
node has at most one link that was not stopped. -/
structure MatchesTopology (manager : LinkManager) : Prop where
  configured : ∀ nodeId index, (nodeId, index) ∈ manager.table.links →
    ∃ link node, manager.table.objects index = some link ∧
      findNode manager.configuredNodes nodeId = some node ∧
        node.host = link.node.host ∧ node.port = link.node.port
  single : ∀ first second one two, manager.table.objects first = some one →
    manager.table.objects second = some two → one.node.id = two.node.id →
      one.stopped = false → two.stopped = false → first = second

theorem Sound.single {nodes : List Node} (sound : Sound table nodes []) {first second : Nat}
    {one two : MessageLink} (onePresent : table.objects first = some one)
    (twoPresent : table.objects second = some two) (same : one.node.id = two.node.id)
    (oneRuns : one.stopped = false) (twoRuns : two.stopped = false) : first = second := by
  have oneListed := (sound.live first one onePresent oneRuns).resolve_right not_mem_nil
  have twoListed := (sound.live second two twoPresent twoRuns).resolve_right not_mem_nil
  exact congrArg Prod.snd (inj_on_of_nodup_map sound.keys oneListed twoListed same)

/-- In an undisturbed run the links match the topology whenever nothing is executing. -/
theorem links_match_topology (actions : List TopologyAction) (final : LinkManager)
    (taken : Transition.run topologyStep {} actions = some final)
    (undisturbed : Transition.Along topologyStep Undisturbed {} actions)
    (resting : final.resting = true) : MatchesTopology final := by
  have managed := run_invariant_along Managed Undisturbed managed_step managed_initial
    undisturbed taken
  have idle : final.topology = .idle := of_decide_eq_true (Bool.and_eq_true_iff.mp resting).1
  have sound := managed.sound
  rw [idle] at sound
  refine ⟨fun nodeId index member => ?_, fun _ _ _ _ one two same oneRuns twoRuns =>
    sound.single one two same oneRuns twoRuns⟩
  obtain ⟨link, present, rfl, configured⟩ := sound.entries nodeId index member
  obtain ⟨node, found, host, port⟩ := configuredAs_iff.mp configured
  exact ⟨link, node, present, found, host, port⟩

def managerAfter (actions : List TopologyAction) : LinkManager :=
  (Transition.run topologyStep {} actions).getD {}

def nodeA : Node := ⟨"a", "10.0.0.1", 7000⟩

def timerFires : List TopologyAction :=
  [.applyTopology [nodeA], .stopRemoved, .check, .startLink, .start, .check, .linkDone 0,
    .onLinkDone 0, .setTimer 0, .fire 0 false]

def reconnected : List TopologyAction := timerFires ++ [.startLinkAgain 0, .startAgain 0]

theorem links_match_topology_reconnected :
    (managerAfter reconnected).table.links = [("a", 1)] ∧
      MatchesTopology (managerAfter reconnected) :=
  ⟨by decide +kernel,
    links_match_topology reconnected _ rfl (by decide +kernel) (by decide +kernel)⟩

def nodeLeaves : List TopologyAction :=
  timerFires ++ [.applyTopology [], .stopRemoved, .check, .startLinkAgain 0, .startAgain 0]

def nodeNamedTwice : List TopologyAction :=
  [.applyTopology [nodeA, { nodeA with host := "10.0.0.2" }], .stopRemoved, .check, .startLink,
    .start, .check, .check]

/-- A link to a node that has left the topology, and a link to another host than the configured
one. -/
theorem link_outlives_its_node :
    (Transition.run topologyStep {} nodeLeaves = some (managerAfter nodeLeaves) ∧
      (managerAfter nodeLeaves).resting = true ∧
      (managerAfter nodeLeaves).table.links = [("a", 1)] ∧
      ((managerAfter nodeLeaves).table.objects 1).map stopped = some false ∧
      findNode (managerAfter nodeLeaves).configuredNodes "a" = none) ∧
    Transition.run topologyStep {} nodeNamedTwice = some (managerAfter nodeNamedTwice) ∧
      (managerAfter nodeNamedTwice).resting = true ∧
      (managerAfter nodeNamedTwice).table.links = [("a", 0)] ∧
      ((managerAfter nodeNamedTwice).table.objects 0).map node = some nodeA ∧
      (findNode (managerAfter nodeNamedTwice).configuredNodes "a").map Node.host =
        some "10.0.0.2" := by
  refine ⟨⟨rfl, ?_⟩, rfl, ?_⟩ <;> decide +kernel

end Wimi.Gateway
