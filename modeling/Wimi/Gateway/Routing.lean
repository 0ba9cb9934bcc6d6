/-
This file is about the links that new commands are routed to. `SelectLink` looks at the flag
`healthy` of the links in the map and at nothing else. The flag is set by the result of the
registration, and taken back by `Drain`, by `Stop` and by the callbacks of a stream that ends.

The flags are atomics of their own, so a step is one store. The frames of a stream are read
in the order in which the Message node has queued them, and the Message node may drain its
streams between the registration of a stream and the answer to it.
-/

import Wimi.Gateway.Topology
import Wimi.Server.GatewayStream

namespace Wimi.Gateway

open Function List Option Transition MessageLink

open Server (MessageToGatewayFrame)

/-! ### The choice of a link -/

namespace LinkTable

def candidate (table : LinkTable) (excluded : String) (entry : String × Nat) :
    Option (Nat × MessageLink) :=
  match table.objects entry.2 with
  | some link => if entry.1 ≠ excluded ∧ link.healthy = true then some (entry.2, link) else none
  | none => none

/-- `SelectLink`, with the hash of the standard library as a parameter. -/
def selectLink (table : LinkTable) (hash : String → Nat) (conversationId : Int)
    (excluded : String) : Option Nat :=
  let healthy := table.links.filterMap (table.candidate excluded)
  if 0 < conversationId then
    (healthy.argmax fun found =>
      hash (toString conversationId ++ ":" ++ found.2.node.id)).map Prod.fst
  else (healthy.argmin fun found => found.2.inflight).map Prod.fst

end LinkTable

variable {index : Nat} {link : MessageLink}

section Select

variable {table : LinkTable} {excluded : String}

theorem candidate_eq_some {nodeId : String} {found : Nat × MessageLink} :
    table.candidate excluded (nodeId, index) = some found ↔
      index = found.1 ∧ table.objects found.1 = some found.2 ∧ nodeId ≠ excluded ∧
        found.2.healthy = true := by
  unfold LinkTable.candidate
  constructor
  · grind
  · grind

/-- `SelectLink` takes one of the candidates, and takes one if there are any. -/
theorem selectLink_spec (hash : String → Nat) (conversationId : Int) :
    (∀ index, table.selectLink hash conversationId excluded = some index →
      ∃ found ∈ table.links.filterMap (table.candidate excluded), found.1 = index) ∧
    (table.selectLink hash conversationId excluded = none →
      table.links.filterMap (table.candidate excluded) = []) := by
  unfold LinkTable.selectLink
  split
  · refine ⟨fun index chosen => ?_, fun none =>
      argmax_eq_none.mp (map_eq_none_iff.mp none)⟩
    obtain ⟨found, best, rfl⟩ := map_eq_some_iff.mp chosen
    exact ⟨found, argmax_mem best, rfl⟩
  refine ⟨fun index chosen => ?_, fun none =>
    argmin_eq_none.mp (map_eq_none_iff.mp none)⟩
  obtain ⟨found, best, rfl⟩ := map_eq_some_iff.mp chosen
  exact ⟨found, argmin_mem best, rfl⟩

theorem selectLink_eq_some {hash : String → Nat} {conversationId : Int}
    (chosen : table.selectLink hash conversationId excluded = some index) :
    ∃ nodeId link, (nodeId, index) ∈ table.links ∧ nodeId ≠ excluded ∧
      table.objects index = some link ∧ link.healthy = true := by
  obtain ⟨found, member, rfl⟩ := (selectLink_spec hash conversationId).1 index chosen
  obtain ⟨⟨nodeId, index⟩, listed, taken⟩ := mem_filterMap.mp member
  obtain ⟨rfl, present, allowed, healthy⟩ := candidate_eq_some.mp taken
  exact ⟨nodeId, found.2, listed, allowed, present, healthy⟩

theorem selectLink_ne_none {hash : String → Nat} {conversationId : Int} {nodeId : String}
    (listed : (nodeId, index) ∈ table.links) (allowed : nodeId ≠ excluded)
    (present : table.objects index = some link) (healthy : link.healthy = true) :
    table.selectLink hash conversationId excluded ≠ none := by
  intro none
  have member : (index, link) ∈ table.links.filterMap (table.candidate excluded) :=
    mem_filterMap.mpr ⟨_, listed, candidate_eq_some.mpr ⟨rfl, present, allowed, healthy⟩⟩
  rw [(selectLink_spec hash conversationId).2 none] at member
  cases member

end Select

/-! ### The choice for a conversation -/

def LinkTable.healthyLinks (table : LinkTable) (excluded : String) : List (Nat × MessageLink) :=
  table.links.filterMap (table.candidate excluded)

def linkScore (hash : String → Nat) (conversationId : Int) (found : Nat × MessageLink) : Nat :=
  hash (toString conversationId ++ ":" ++ found.2.node.id)

def scoreTurn (score : Nat × MessageLink → Nat) (state : Option (Nat × MessageLink) × Nat)
    (link : Nat × MessageLink) : Option (Nat × MessageLink) × Nat :=
  if state.1 = none ∨ state.2 < score link then (some link, score link) else state

/-- After the loop, `best` is the score of the link that was selected, the first with the highest
score. -/
theorem foldl_scoreTurn (score : Nat × MessageLink → Nat) (links : List (Nat × MessageLink)) :
    links.foldl (scoreTurn score) (none, 0) =
      (links.argmax score, ((links.argmax score).map score).getD 0) := by
  induction links using reverseRecOn with
  | nil => rfl
  | append_singleton links link inductionHypothesis =>
    rw [foldl_concat, inductionHypothesis, argmax_concat]
    cases links.argmax score with
    | none => exact if_pos (.inl rfl)
    | some selected =>
      simp only [scoreTurn, reduceCtorEq, false_or, map_some, getD_some]
      split
      · rfl
      · rfl

theorem selectLink_eq_foldl {table : LinkTable} {hash : String → Nat} {conversationId : Int}
    {excluded : String} (positive : 0 < conversationId) :
    table.selectLink hash conversationId excluded =
      ((table.healthyLinks excluded).foldl (scoreTurn (linkScore hash conversationId))
        (none, 0)).1.map Prod.fst := by
  rw [foldl_scoreTurn]
  exact if_pos positive

section Rendezvous

variable {hash : String → Nat} {conversationId : Int} {excluded : String}

theorem selectLink_eq_argmax (positive : 0 < conversationId) (table : LinkTable) :
    table.selectLink hash conversationId excluded =
      ((table.healthyLinks excluded).argmax (linkScore hash conversationId)).map Prod.fst :=
  if_pos positive

/-- The choice for a conversation depends on the set of healthy links only; it does not change
when another link goes, and changes to no other link than a new one. -/
theorem selectLink_stable (hash : String → Nat) (conversationId : Int)
    (positive : 0 < conversationId) (excluded : String) (table : LinkTable)
    (distinct : ((table.healthyLinks excluded).map (linkScore hash conversationId)).Nodup) :
    (∀ reordered : LinkTable,
      (reordered.healthyLinks excluded).Perm (table.healthyLinks excluded) →
        reordered.selectLink hash conversationId excluded =
          table.selectLink hash conversationId excluded) ∧
    (∀ (smaller : LinkTable) (removed : Nat × MessageLink),
      (table.healthyLinks excluded).Perm (removed :: smaller.healthyLinks excluded) →
        table.selectLink hash conversationId excluded ≠ some removed.1 →
          smaller.selectLink hash conversationId excluded =
            table.selectLink hash conversationId excluded) ∧
    (∀ (larger : LinkTable) (added : Nat × MessageLink),
      (larger.healthyLinks excluded).Perm (added :: table.healthyLinks excluded) →
        larger.selectLink hash conversationId excluded =
            table.selectLink hash conversationId excluded ∨
          larger.selectLink hash conversationId excluded = some added.1) := by
  refine ⟨fun reordered same => ?_, fun smaller removed without other => ?_,
    fun larger added extended => ?_⟩
  · rw [selectLink_eq_argmax positive, selectLink_eq_argmax positive,
      Lists.argmax_perm distinct same]
  · rw [selectLink_eq_argmax positive] at other ⊢
    rw [selectLink_eq_argmax positive]
    rw [Lists.argmax_of_perm_cons distinct without fun chosen => other (by rw [chosen]; rfl)]
  · rw [selectLink_eq_argmax positive, selectLink_eq_argmax positive]
    rcases Lists.argmax_of_cons_perm distinct extended with kept | new
    · exact .inl (by rw [kept])
    · exact .inr (by rw [new]; rfl)

def healthyPair : LinkTable where
  created := 2
  objects := fun index =>
    [{ node := ⟨"m1", "10.0.0.1", 7000⟩, healthy := true },
      { node := ⟨"m22", "10.0.0.2", 7000⟩, healthy := true }][index]?
  links := [("m1", 0), ("m22", 1)]

/-- With the length for a hash, the longer id is chosen, and stays when the other node goes. -/
theorem selectLink_stable_healthyPair :
    ((healthyPair.healthyLinks "").map (linkScore String.length 5)).Nodup ∧
      healthyPair.selectLink String.length 5 "" = some 1 ∧
      (healthyPair.erase "m1").selectLink String.length 5 "" =
        healthyPair.selectLink String.length 5 "" := by
  have distinct : ((healthyPair.healthyLinks "").map (linkScore String.length 5)).Nodup := by
    decide +kernel
  have chosen : healthyPair.selectLink String.length 5 "" = some 1 := by decide +kernel
  refine ⟨distinct, chosen, ?_⟩
  refine (selectLink_stable String.length 5 (by decide) "" healthyPair distinct).2.1
    (healthyPair.erase "m1") (0, { node := ⟨"m1", "10.0.0.1", 7000⟩, healthy := true }) ?_ ?_
  · exact List.Perm.of_eq (by decide +kernel)
  · exact fun same => absurd (some.inj same) Nat.one_ne_zero

end Rendezvous

/-! ### Streams and flags -/

inductive Registration where
  | waiting
  | checked (valid : Bool)
  | entered (valid : Bool)
  | answered
deriving DecidableEq, Repr

/-- The next store of a call that takes a link out of service: `Drain` and the `Stop` it ends
with, `Stop`, or a callback of a stream that has ended. -/
inductive HaltPhase where
  | drain
  | stop
  | release
  | close
  | closing
deriving DecidableEq, Repr

/-- A call that takes a link out of service. A call of `Drain` is made by the reader of a link. -/
structure HaltCall where
  index : Nat
  phase : HaltPhase
  reader : Option Nat := none
deriving DecidableEq, Repr

/-- The links, the Message nodes at their other ends, and the calls that are executing. `halted`
notes the links on which `Drain` or `Stop` has returned. -/
structure Router where
  table : LinkTable := {}
  draining : String → Bool := fun _ => false
  streams : String → Option Nat := fun _ => none
  registrations : Nat → Registration := fun _ => .waiting
  frames : Nat → List MessageToGatewayFrame := fun _ => []
  calls : List HaltCall := []
  halted : Nat → Bool := fun _ => false

inductive RouterAction where
  | startLink (node : Node)
  | erase (nodeId : String)
  | incrementInflight (index : Nat)
  | checkRegister (index : Nat) (acceptable : Bool)
  | register (index : Nat)
  | answerRegister (index : Nat) (streamEpoch : UInt64)
  | startDraining (nodeId : String)
  | notifyDrain (nodeId reason : String)
  | send (index : Nat) (frame : MessageToGatewayFrame)
  | onReadDone (index : Nat)
  | stop (index : Nat)
  | close (index : Nat)
  | advance (call : Nat)
deriving DecidableEq, Repr

def ordinaryFrame : MessageToGatewayFrame → Bool
  | .commandResult _ => true
  | .heartbeatAck _ _ => true
  | .delivery _ => true
  | _ => false

namespace Router

variable (router : Router)

def queue (index : Nat) (frame : MessageToGatewayFrame) : Router :=
  { router with
    frames := update router.frames index (router.frames index ++ [frame]) }

def registerResult (node : Node) (valid : Bool) (streamEpoch : UInt64) : MessageToGatewayFrame :=
  .registerResult valid node.id streamEpoch
    (if valid then ""
      else "unsupported protocol or gateway identity does not match mTLS peer")

def startLink (node : Node) : Router :=
  { router with
    table := router.table.startLink node
    halted :=
      match router.table.find node.id with
      | some old => update router.halted old true
      | none => router.halted }

def onReadDone (index : Nat) (link : MessageLink) (frame : MessageToGatewayFrame)
    (rest : List MessageToGatewayFrame) : Router :=
  let read := { router with frames := update router.frames index rest }
  match frame with
  | .registerResult accepted _ _ _ =>
    { read with table := read.table.update index fun link => { link with healthy := accepted } }
  | .commandResult _ =>
    match read.table.find link.node.id with
    | some other =>
      { read with
        table := read.table.update other fun link =>
          { link with inflight := link.inflight - 1 } }
    | none => read
  | .drainNotice _ _ =>
    match read.table.find link.node.id with
    | some other => { read with calls := read.calls ++ [⟨other, .drain, some index⟩] }
    | none => read
  | .heartbeatAck _ _ => read
  | .delivery _ => read

def advance (position : Nat) (call : HaltCall) (link : MessageLink) : Router :=
  let goOn (phase : HaltPhase) (change : MessageLink → MessageLink) : Router :=
    { router with
      table := router.table.update call.index change
      calls := router.calls.set position { call with phase } }
  let unhealthy := router.table.update call.index fun link => { link with healthy := false }
  match call.phase with
  | .drain => goOn .stop fun link => { link with healthy := false }
  | .stop =>
    if link.stopped then
      { router with
        calls := router.calls.eraseIdx position
        halted := update router.halted call.index true }
    else goOn .release fun link => { link with stopped := true }
  | .release =>
    { router with
      table := unhealthy
      calls := router.calls.eraseIdx position
      halted := update router.halted call.index true }
  | .close => goOn .closing fun link => { link with stopped := true }
  | .closing =>
    { router with table := unhealthy, calls := router.calls.eraseIdx position }

end Router

def routerStep (router : Router) : RouterAction → Option Router
  | .startLink node => some (router.startLink node)
  | .erase nodeId => some { router with table := router.table.erase nodeId }
  | .incrementInflight index =>
    some
      { router with
        table := router.table.update index fun link => { link with inflight := link.inflight + 1 } }
  | .checkRegister index acceptable =>
    match router.table.objects index, router.registrations index with
    | some link, .waiting =>
      some
        { router with
          registrations := update router.registrations index
            (.checked (acceptable && !router.draining link.node.id)) }
    | _, _ => none
  | .register index =>
    match router.table.objects index, router.registrations index with
    | some link, .checked valid =>
      some
        { router with
          streams := if valid then update router.streams link.node.id (some index)
            else router.streams
          registrations := update router.registrations index (.entered valid) }
    | _, _ => none
  | .answerRegister index streamEpoch =>
    match router.table.objects index, router.registrations index with
    | some link, .entered valid =>
      some
        { router.queue index (Router.registerResult link.node valid streamEpoch) with
          registrations := update router.registrations index .answered }
    | _, _ => none
  | .startDraining nodeId =>
    some { router with draining := update router.draining nodeId true }
  | .notifyDrain nodeId reason =>
    match router.streams nodeId with
    | some index => if router.draining nodeId then
        some (router.queue index (.drainNotice nodeId reason)) else none
    | none => none
  | .send index frame => if ordinaryFrame frame then some (router.queue index frame) else none
  | .onReadDone index =>
    match router.table.objects index, router.frames index with
    | some link, frame :: rest =>
      if router.calls.all fun call => call.reader ≠ some index then
        some (router.onReadDone index link frame rest)
      else none
    | _, _ => none
  | .stop index => some { router with calls := router.calls ++ [⟨index, .stop, none⟩] }
  | .close index => some { router with calls := router.calls ++ [⟨index, .close, none⟩] }
  | .advance position =>
    match router.calls[position]? with
    | some call =>
      match router.table.objects call.index with
      | some link => some (router.advance position call link)
      | none => none
    | none => none

/-! ### Halted links stay unhealthy -/

def acceptsRegistration : MessageToGatewayFrame → Bool
  | .registerResult accepted _ _ _ => accepted
  | _ => false

def LinkTable.lists (table : LinkTable) (index : Nat) : Prop :=
  index ∈ table.links.map Prod.snd

instance (table : LinkTable) (index : Nat) : Decidable (table.lists index) :=
  inferInstanceAs (Decidable (_ ∈ _))

/-- No accepted registration is read from a link of the map on which `Drain` or `Stop` has
returned, and `Stop` finds no link of the map that is marked as stopped and still healthy. -/
def Timely (router : Router) : RouterAction → Prop
  | .onReadDone index =>
    ∀ frame ∈ (router.frames index).head?, acceptsRegistration frame = true →
      router.table.lists index → router.halted index = false
  | .advance position =>
    ∀ call ∈ router.calls[position]?, call.phase = .stop → router.table.lists call.index →
      ∀ link ∈ router.table.objects call.index, link.stopped = true → link.healthy = false
  | _ => True

structure Routed (router : Router) : Prop where
  fresh : ∀ index, router.table.created ≤ index → router.table.objects index = none
  entries : ∀ nodeId index, (nodeId, index) ∈ router.table.links →
    ∃ link, router.table.objects index = some link ∧ link.node.id = nodeId
  made : ∀ index, router.halted index = true → router.table.objects index ≠ none
  unhealthy : ∀ nodeId index, (nodeId, index) ∈ router.table.links →
    router.halted index = true → ∀ link, router.table.objects index = some link →
      link.healthy = false

theorem healthy_of_healthy_stop (link : MessageLink) (healthy : link.stop.healthy = true) :
    link.healthy = true := by
  unfold stop at healthy
  split at healthy
  · exact healthy
  · cases healthy

theorem routed_initial : Routed {} where
  fresh := fun _ _ => rfl
  entries := fun _ _ member => (by cases member)
  made := fun _ halted => (by cases halted)
  unhealthy := fun _ _ member => (by cases member)

namespace Routed

variable {router : Router}

section

variable (routed : Routed router)
include routed

/-- A change of a link that keeps its node and does not make a halted link healthy. -/
theorem update (index : Nat) (change : MessageLink → MessageLink)
    (node : ∀ link, (change link).node = link.node)
    (healthy : router.table.lists index → router.halted index = true →
      ∀ link, (change link).healthy = true → link.healthy = true) :
    Routed { router with table := router.table.update index change } where
  fresh := by
    intro other late
    refine eq_none_iff_forall_ne_some.mpr fun link present => ?_
    obtain ⟨before, old, -⟩ := objects_update_eq_some present
    rw [routed.fresh other late] at old
    cases old
  entries := by
    intro nodeId other member
    obtain ⟨link, present, id⟩ := routed.entries nodeId other member
    refine ⟨_, exists_objects_update change present, ?_⟩
    split
    · rw [node]
      exact id
    · exact id
  made := by
    intro other halted none
    obtain ⟨link, present⟩ := ne_none_iff_exists'.mp (routed.made other halted)
    cases none.symm.trans (exists_objects_update change present)
  unhealthy := by
    intro nodeId other member halted link present
    obtain ⟨before, old, ⟨rfl, rfl⟩ | ⟨-, rfl⟩⟩ := objects_update_eq_some present
    · have listed : router.table.lists other := mem_map_of_mem member
      refine Bool.eq_false_iff.mpr fun nowHealthy => ?_
      have sick := routed.unhealthy nodeId other member halted before old
      rw [healthy listed halted before nowHealthy] at sick
      cases sick
    · exact routed.unhealthy nodeId other member halted link old

theorem halt (present : router.table.objects index = some link)
    (healthy : router.table.lists index → link.healthy = false) :
    Routed { router with halted := Function.update router.halted index true } where
  fresh := routed.fresh
  entries := routed.entries
  made := by
    intro other halted
    by_cases same : other = index
    · subst same
      rw [present]
      exact some_ne_none link
    · exact routed.made other ((update_of_ne same _ _).symm.trans halted)
  unhealthy := by
    intro nodeId other member halted found foundPresent
    by_cases same : other = index
    · subst same
      rw [present] at foundPresent
      cases foundPresent
      exact healthy (mem_map_of_mem member)
    · exact routed.unhealthy nodeId other member
        ((update_of_ne same _ _).symm.trans halted) found foundPresent

theorem erase (nodeId : String) : Routed { router with table := router.table.erase nodeId } where
  fresh := routed.fresh
  entries := fun other index member => routed.entries other index (mem_erase.mp member).1
  made := routed.made
  unhealthy := fun other index member => routed.unhealthy other index (mem_erase.mp member).1

theorem insert (node : Node) : Routed
      { router with
        table :=
          ⟨router.table.created + 1,
            Function.update router.table.objects router.table.created (some { node }),
            (node.id, router.table.created) :: router.table.links⟩ } where
  fresh := by
    intro index (late : router.table.created + 1 ≤ index)
    have different : index ≠ router.table.created := by omega
    exact (update_of_ne different _ _).trans (routed.fresh index (by omega))
  entries := by
    intro nodeId index member
    rcases List.mem_cons.mp member with now | before
    · cases now
      exact ⟨{ node }, update_self _ _ _, rfl⟩
    obtain ⟨link, present, id⟩ := routed.entries nodeId index before
    have different : index ≠ router.table.created := by
      intro same
      rw [same, routed.fresh _ (Nat.le_refl _)] at present
      cases present
    exact ⟨link, (update_of_ne different _ _).trans present, id⟩
  made := by
    intro index halted none
    by_cases same : index = router.table.created
    · grind
    · exact routed.made index halted ((update_of_ne same _ _).symm.trans none)
  unhealthy := by
    intro nodeId index member halted link present
    obtain ⟨rfl, rfl⟩ | ⟨different, old⟩ := update_eq_some present
    · rfl
    rcases List.mem_cons.mp member with now | before
    · cases now
      exact absurd rfl different
    · exact routed.unhealthy nodeId index before halted link old

theorem startLink (node : Node) : Routed (router.startLink node) := by
  unfold Router.startLink LinkTable.startLink
  cases found : router.table.find node.id with
  | none => exact (routed.erase node.id).insert node
  | some old =>
    obtain ⟨link, present, id⟩ := routed.entries node.id old (mem_of_find found)
    have retired := (routed.update old stop onward_stop.node
      fun _ _ link => healthy_of_healthy_stop link).erase node.id
    have gone : ¬ LinkTable.lists ((router.table.update old stop).erase node.id)
        old := by
      intro listed
      obtain ⟨⟨other, index⟩, member, rfl⟩ := mem_map.mp listed
      obtain ⟨member, different⟩ := mem_erase.mp member
      obtain ⟨again, there, otherId⟩ := routed.entries other _ member
      rw [present] at there
      cases there
      exact different (otherId.symm.trans id)
    have halted := retired.halt (exists_objects_update stop present)
      fun listed => absurd listed gone
    exact halted.insert node

theorem onReadDone (link : MessageLink) {frame : MessageToGatewayFrame}
    {rest : List MessageToGatewayFrame}
    (timely : acceptsRegistration frame = true → router.table.lists index →
      router.halted index = false) :
    Routed (router.onReadDone index link frame rest) := by
  have read : Routed { router with frames := Function.update router.frames index rest } :=
    { routed with }
  unfold Router.onReadDone
  cases frame with
  | registerResult accepted nodeId streamEpoch reason =>
    refine read.update index _ (fun _ => rfl) fun listed halted _ nowHealthy => ?_
    have running := timely nowHealthy listed
    cases halted.symm.trans running
  | commandResult result =>
    dsimp only
    split
    · exact read.update _ _ (fun _ => rfl) fun _ _ _ healthy => healthy
    · exact read
  | drainNotice nodeId reason =>
    dsimp only
    split
    · exact { read with }
    · exact read
  | heartbeatAck | delivery => exact read

theorem advance (position : Nat) {call : HaltCall}
    (present : router.table.objects call.index = some link)
    (timely : call.phase = .stop → router.table.lists call.index → link.stopped = true →
      link.healthy = false) :
    Routed (router.advance position call link) := by
  have unhealthy := routed.update call.index (fun link => { link with healthy := false })
    (fun _ => rfl) fun _ _ _ wrong => by cases wrong
  have stopped := routed.update call.index (fun link => { link with stopped := true })
    (fun _ => rfl) fun _ _ _ healthy => healthy
  unfold Router.advance
  split
  · exact { unhealthy with }
  · rename_i phase
    split
    · rename_i already
      exact { routed.halt present fun listed => timely phase listed already with }
    · exact { stopped with }
  · have sick : (router.table.update call.index fun link =>
        { link with healthy := false }).objects call.index =
          some { link with healthy := false } :=
      (exists_objects_update _ present).trans (congrArg some (if_pos rfl))
    exact { unhealthy.halt sick fun _ => rfl with }
  · exact { stopped with }
  · exact { unhealthy with }

end

end Routed

theorem routed_step (router : Router) (action : RouterAction) (next : Router)
    (routed : Routed router) (timely : Timely router action)
    (taken : routerStep router action = some next) : Routed next := by
  cases action with simp only [routerStep] at taken
  | startLink node =>
    cases taken
    exact routed.startLink node
  | erase nodeId =>
    cases taken
    exact routed.erase nodeId
  | incrementInflight index =>
    cases taken
    exact routed.update index _ (fun _ => rfl) fun _ _ _ healthy => healthy
  | checkRegister | register | answerRegister | send =>
    split at taken <;> cases taken
    exact { routed with }
  | startDraining | stop | close =>
    cases taken
    exact { routed with }
  | notifyDrain nodeId reason =>
    split at taken
    · split at taken <;> cases taken
      exact { routed with }
    · cases taken
  | onReadDone index =>
    split at taken
    · rename_i link frame rest present frames
      split at taken <;> cases taken
      refine routed.onReadDone link fun accepted => timely frame ?_ accepted
      rw [frames]
      rfl
    · cases taken
  | advance position =>
    split at taken
    · rename_i call found
      split at taken <;> cases taken
      rename_i link present
      exact routed.advance position present fun phase listed =>
        timely call found phase listed link present
    · cases taken

/-! ### Where new commands go -/

/-- In a timely run `SelectLink` never returns a link on which `Drain` or `Stop` has returned,
whatever the conversation, the excluded node and the hash; and it returns a link that is not one of
these whenever the map has a healthy link that is not excluded. -/
theorem halted_links_not_routed_to (actions : List RouterAction) (final : Router)
    (taken : run routerStep {} actions = some final)
    (timely : Along routerStep Timely {} actions) (hash : String → Nat)
    (conversationId : Int) (excluded : String) :
    (∀ index, final.table.selectLink hash conversationId excluded = some index →
      final.halted index = false) ∧
    ((∃ nodeId index link, (nodeId, index) ∈ final.table.links ∧ nodeId ≠ excluded ∧
        final.table.objects index = some link ∧ link.healthy = true) →
      ∃ index, final.table.selectLink hash conversationId excluded = some index ∧
        final.halted index = false) := by
  have routed := run_invariant_along Routed Timely routed_step routed_initial timely taken
  have avoids (index : Nat)
      (chosen : final.table.selectLink hash conversationId excluded = some index) :
      final.halted index = false := by
    obtain ⟨nodeId, link, listed, -, present, healthy⟩ := selectLink_eq_some chosen
    refine Bool.eq_false_iff.mpr fun halted => ?_
    have sick := routed.unhealthy nodeId index listed halted link present
    rw [healthy] at sick
    cases sick
  refine ⟨avoids, fun ⟨nodeId, index, link, listed, allowed, present, healthy⟩ => ?_⟩
  obtain ⟨chosen, selected⟩ := ne_none_iff_exists'.mp
    (selectLink_ne_none listed allowed present healthy)
  exact ⟨chosen, selected, avoids chosen selected⟩

def routerAfter (actions : List RouterAction) : Router :=
  (run routerStep {} actions).getD {}

instance (router : Router) : ∀ action, Decidable (Timely router action)
  | .onReadDone index =>
    inferInstanceAs (Decidable (∀ frame ∈ (router.frames index).head?, _))
  | .advance position =>
    inferInstanceAs (Decidable (∀ call ∈ router.calls[position]?, _ → _ →
      ∀ link ∈ router.table.objects call.index, _))
  | .startLink _ | .erase _ | .incrementInflight _ | .checkRegister _ _ | .register _
  | .answerRegister _ _ | .startDraining _ | .notifyDrain _ _ | .send _ _ | .stop _
  | .close _ => isTrue trivial

def twoLinks : List RouterAction :=
  [.startLink ⟨"m1", "10.0.0.1", 7000⟩, .startLink ⟨"m2", "10.0.0.2", 7000⟩,
    .checkRegister 1 true, .register 1, .answerRegister 1 1, .onReadDone 1,
    .checkRegister 0 true, .register 0]

def drainedInTime : List RouterAction :=
  twoLinks ++ [.answerRegister 0 1, .onReadDone 0, .startDraining "m1",
    .notifyDrain "m1" "message node is shutting down", .onReadDone 0, .advance 0, .advance 0,
    .advance 0]

theorem halted_links_not_routed_to_drained :
    (routerAfter drainedInTime).halted 0 = true ∧
      ∀ index, (routerAfter drainedInTime).table.selectLink String.length 5 "" = some index →
        (routerAfter drainedInTime).halted index = false :=
  ⟨by decide +kernel, (halted_links_not_routed_to drainedInTime _ rfl (by decide +kernel)
    String.length 5 "").1⟩

/-- The first node is drained between the registration of the stream and the answer. -/
def drainedEarly : List RouterAction :=
  twoLinks ++ [.startDraining "m1", .notifyDrain "m1" "message node is shutting down",
    .answerRegister 0 1, .onReadDone 0, .advance 0, .advance 0, .advance 0, .onReadDone 0]

/-- The read side of the link has ended, and `Stop` comes between its two stores. -/
def stoppedBetween : List RouterAction :=
  twoLinks ++ [.answerRegister 0 1, .onReadDone 0, .close 0, .advance 0, .stop 0, .advance 1]

/-- A hash under which conversation 5 belongs to the first node. -/
def hashToFirst (text : String) : Nat := if text = "5:m1" then 1 else 0

/-- The answer to the registration makes a drained link healthy again, and `Stop` returns from a
link that is still healthy. Both are routed to, although there is another healthy link. -/
theorem drained_link_routed_to :
    (run routerStep {} drainedEarly = some (routerAfter drainedEarly) ∧
      (routerAfter drainedEarly).halted 0 = true ∧
      ((routerAfter drainedEarly).table.objects 1).map healthy = some true ∧
      (routerAfter drainedEarly).table.selectLink hashToFirst 5 "" = some 0) ∧
    run routerStep {} stoppedBetween = some (routerAfter stoppedBetween) ∧
      (routerAfter stoppedBetween).halted 0 = true ∧
      ((routerAfter stoppedBetween).table.objects 1).map healthy = some true ∧
      (routerAfter stoppedBetween).table.selectLink hashToFirst 5 "" = some 0 := by
  refine ⟨⟨rfl, ?_⟩, rfl, ?_⟩ <;> decide +kernel

end Wimi.Gateway
