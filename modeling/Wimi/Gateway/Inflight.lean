/-
This file is about `inflight`, the number that `SelectLink` compares when a command has no
conversation.

`Forward` and `RetryPending` queue a command on a link and then count it there. `OnFrame`
gets a result with the id of the node whose stream it was read from, looks that id up in
`links`, and takes one off the count of the link it finds; a count of zero stays. Between
two of these steps anything may happen: the result of a command may be read before the
command is counted, and the link in the map may be another one than the one the result was
read from.

So the count is not always the number of commands without a result. It is, if every result
finds the link it comes from with a positive count, or another link with the count zero.
-/

import Wimi.Gateway.Routing

namespace Wimi.Gateway

open Function List Option Transition

/-! ### Commands and results -/

inductive CommandStage where
  | selected
  | enqueued
  | returned
deriving DecidableEq, Repr

structure CommandCall where
  link : Nat
  stage : CommandStage
deriving DecidableEq, Repr

structure ResultRead where
  source : Nat
  finished : Bool
deriving DecidableEq, Repr

/-- The links with the calls that use them. Noted beside are the commands enqueued on each link
and the results read from it. -/
structure InflightSystem where
  table : LinkTable := {}
  calls : List CommandCall := []
  reads : List ResultRead := []
  enqueued : Nat → Nat := fun _ => 0
  results : Nat → Nat := fun _ => 0

/-- `flags` stands for the stores of `stopped` and `healthy` by registration, `Drain`, `Stop` and
the callbacks of a stream; `room` says whether the queue of the link is below its limit. -/
inductive InflightAction where
  | startLink (node : Node)
  | erase (nodeId : String)
  | flags (index : Nat) (stopped healthy : Bool)
  | select (conversationId : Int) (excluded : String)
  | enqueue (call : Nat) (room : Bool)
  | incrementInflight (call : Nat)
  | readResult (index : Nat)
  | decrementInflight (read : Nat)
deriving DecidableEq, Repr

namespace InflightSystem

variable (system : InflightSystem)

def lookup (source : Nat) : Option (Nat × MessageLink) :=
  match system.table.objects source with
  | none => none
  | some link =>
    match system.table.find link.node.id with
    | none => none
    | some found => (system.table.objects found).map fun current => (found, current)

def enqueue (call : Nat) (state : CommandCall) (accepted : Bool) : InflightSystem :=
  if accepted then
    { system with
      calls := system.calls.set call { state with stage := .enqueued }
      enqueued := update system.enqueued state.link (system.enqueued state.link + 1) }
  else { system with calls := system.calls.set call { state with stage := .returned } }

def incrementInflight (call : Nat) (state : CommandCall) : InflightSystem :=
  { system with
    table := system.table.update state.link fun link =>
      { link with inflight := link.inflight + 1 }
    calls := system.calls.set call { state with stage := .returned } }

def readResult (index : Nat) : InflightSystem :=
  { system with
    reads := system.reads ++ [⟨index, false⟩]
    results := update system.results index (system.results index + 1) }

def decrementInflight (read source : Nat) : InflightSystem :=
  { system with
    table :=
      match system.lookup source with
      | none => system.table
      | some (found, _) => system.table.update found fun link =>
          { link with inflight := link.inflight - 1 }
    reads := system.reads.set read ⟨source, true⟩ }

end InflightSystem

def inflightStep (hash : String → Nat) (system : InflightSystem) :
    InflightAction → Option InflightSystem
  | .startLink node => some { system with table := system.table.startLink node }
  | .erase nodeId => some { system with table := system.table.erase nodeId }
  | .flags index stopped healthy =>
    some { system with
      table := system.table.update index fun link =>
        { link with stopped, healthy } }
  | .select conversationId excluded =>
    match system.table.selectLink hash conversationId excluded with
    | some link => some { system with calls := system.calls ++ [⟨link, .selected⟩] }
    | none => none
  | .enqueue call room =>
    match system.calls[call]? with
    | some ⟨link, .selected⟩ =>
      (system.table.objects link).map fun object =>
        system.enqueue call ⟨link, .selected⟩ (!object.stopped && room)
    | _ => none
  | .incrementInflight call =>
    match system.calls[call]? with
    | some ⟨link, .enqueued⟩ => some (system.incrementInflight call ⟨link, .enqueued⟩)
    | _ => none
  | .readResult index =>
    (system.table.objects index).map fun _ => system.readResult index
  | .decrementInflight read =>
    match system.reads[read]? with
    | some ⟨source, false⟩ => some (system.decrementInflight read source)
    | _ => none

/-! ### What is to hold -/

variable {call : Nat}

namespace InflightSystem

def Quiet (system : InflightSystem) : Prop :=
  (∀ call ∈ system.calls, call.stage = .returned) ∧ ∀ read ∈ system.reads, read.finished = true

/-- The count of every link in the map is the number of commands enqueued on it without the
results read from it. -/
def Exact (system : InflightSystem) : Prop :=
  ∀ entry ∈ system.table.links, ∀ link, system.table.objects entry.2 = some link →
    (link.inflight : Int) = system.enqueued entry.2 - system.results entry.2

/-- A result finds the link it was read from with a positive count, another link with the count
zero, or none. -/
def fits (system : InflightSystem) (source : Nat) : Bool :=
  match system.lookup source with
  | none => true
  | some (found, current) =>
    if found = source then 0 < current.inflight else current.inflight = 0

/-- At the lookup of `OnFrame`. -/
def Fitting (system : InflightSystem) : InflightAction → Prop
  | .decrementInflight read =>
    ∀ source ∈ system.reads[read]?.map ResultRead.source, system.fits source = true
  | _ => True

instance (system : InflightSystem) : ∀ action, Decidable (Fitting system action)
  | .decrementInflight read => inferInstanceAs (Decidable
      (∀ source ∈ system.reads[read]?.map ResultRead.source, system.fits source = true))
  | .startLink _ => isTrue trivial
  | .erase _ => isTrue trivial
  | .flags _ _ _ => isTrue trivial
  | .select _ _ => isTrue trivial
  | .enqueue _ _ => isTrue trivial
  | .incrementInflight _ => isTrue trivial
  | .readResult _ => isTrue trivial

/-! ### The balance of a link -/

def uncounted (calls : List CommandCall) (index : Nat) : Nat :=
  calls.countP fun call => call.link = index ∧ call.stage = .enqueued

def unsettled (reads : List ResultRead) (index : Nat) : Nat :=
  reads.countP fun read => read.source = index ∧ read.finished = false

structure Balanced (system : InflightSystem) : Prop where
  keyed : ∀ entry ∈ system.table.links, ∃ link,
    system.table.objects entry.2 = some link ∧ link.node.id = entry.1
  unique : (system.table.links.map Prod.fst).Nodup
  fresh : ∀ index, system.table.created ≤ index →
    system.table.objects index = none ∧ system.enqueued index = 0 ∧ system.results index = 0
  calls : ∀ call ∈ system.calls, ∃ link, system.table.objects call.link = some link
  reads : ∀ read ∈ system.reads, ∃ link, system.table.objects read.source = some link
  balance : ∀ entry ∈ system.table.links, ∀ link, system.table.objects entry.2 = some link →
    (link.inflight : Int) + uncounted system.calls entry.2 + system.results entry.2 =
      system.enqueued entry.2 + unsettled system.reads entry.2

theorem Balanced.exact {system : InflightSystem} (balanced : Balanced system)
    (quiet : Quiet system) : Exact system := by
  intro entry member link present
  have noneUncounted : uncounted system.calls entry.2 = 0 := by
    refine countP_eq_zero.mpr fun call inCalls enqueued => ?_
    have stages := (of_decide_eq_true enqueued).2
    cases (quiet.1 call inCalls).symm.trans stages
  have noneUnsettled : unsettled system.reads entry.2 = 0 := by
    refine countP_eq_zero.mpr fun read inReads waiting => ?_
    have unfinished := (of_decide_eq_true waiting).2
    cases (quiet.2 read inReads).symm.trans unfinished
  have balance := balanced.balance entry member link present
  omega

/-! ### Steps of the table -/

section Table

variable {system : InflightSystem}

/-- Links leave the map, and flags of links change. -/
theorem Balanced.withTable (balanced : Balanced system) {table : LinkTable}
    (created : table.created = system.table.created)
    (links : table.links.Sublist system.table.links)
    (objects : ∀ index, (table.objects index).map (fun link => (link.node, link.inflight)) =
      (system.table.objects index).map fun link => (link.node, link.inflight)) :
    Balanced { system with table } := by
  have back {index : Nat} {link : MessageLink} (present : table.objects index = some link) :
      ∃ before, system.table.objects index = some before ∧ before.node = link.node ∧
        before.inflight = link.inflight := by
    have same := objects index
    rw [present] at same
    obtain ⟨before, found, equal⟩ := map_eq_some_iff.mp same.symm
    exact ⟨before, found, (Prod.mk.inj equal).1, (Prod.mk.inj equal).2⟩
  have forth {index : Nat} {link : MessageLink}
      (present : system.table.objects index = some link) :
      ∃ after, table.objects index = some after ∧ after.node = link.node := by
    have same := objects index
    rw [present] at same
    obtain ⟨after, found, equal⟩ := map_eq_some_iff.mp same
    exact ⟨after, found, (Prod.mk.inj equal).1⟩
  refine ⟨?_, ?_, ?_, ?_, ?_, ?_⟩
  · intro entry member
    obtain ⟨link, present, key⟩ := balanced.keyed entry (links.subset member)
    obtain ⟨after, found, node⟩ := forth present
    exact ⟨after, found, node ▸ key⟩
  · exact (links.map Prod.fst).nodup balanced.unique
  · intro index unused
    obtain ⟨absent, noCommands, noResults⟩ := balanced.fresh index (created ▸ unused)
    refine ⟨?_, noCommands, noResults⟩
    have same := objects index
    rw [absent] at same
    exact map_eq_none_iff.mp same
  · intro call member
    obtain ⟨link, present⟩ := balanced.calls call member
    obtain ⟨after, found, _⟩ := forth present
    exact ⟨after, found⟩
  · intro read member
    obtain ⟨link, present⟩ := balanced.reads read member
    obtain ⟨after, found, _⟩ := forth present
    exact ⟨after, found⟩
  intro entry member link present
  obtain ⟨before, found, _, same⟩ := back present
  rw [← same]
  exact balanced.balance entry (links.subset member) before found

theorem map_objects_update {Image : Type} {image : MessageLink → Image} (table : LinkTable)
    (index : Nat) {change : MessageLink → MessageLink}
    (same : ∀ link, image (change link) = image link) (other : Nat) :
    ((table.update index change).objects other).map image =
      (table.objects other).map image := by
  simp only [LinkTable.update]
  by_cases changed : other = index
  · subst changed
    rw [update_self, Option.map_map]
    exact congrArg (Option.map · _) (funext same)
  · rw [update_of_ne changed]

theorem Balanced.erase (balanced : Balanced system) (nodeId : String) :
    Balanced { system with table := system.table.erase nodeId } :=
  balanced.withTable rfl filter_sublist fun _ => rfl

theorem Balanced.insert (balanced : Balanced system) {node : Node}
    (absent : ∀ entry ∈ system.table.links, entry.1 ≠ node.id) :
    Balanced { system with
      table :=
        { created := system.table.created + 1
          objects := update system.table.objects system.table.created
            (some { node })
          links := (node.id, system.table.created) :: system.table.links } } := by
  obtain ⟨unused, noCommands, noResults⟩ := balanced.fresh system.table.created (Nat.le_refl _)
  have other {index : Nat} {link : MessageLink} (present : system.table.objects index = some link) :
      update system.table.objects system.table.created (some { node }) index =
        some link := by
    have different : index ≠ system.table.created := by
      rintro rfl
      cases unused.symm.trans present
    rw [update_of_ne different, present]
  refine ⟨?_, ?_, ?_, ?_, ?_, ?_⟩
  · refine forall_mem_cons.mpr ⟨⟨_, update_self _ _ _, rfl⟩, fun entry member => ?_⟩
    obtain ⟨link, present, key⟩ := balanced.keyed entry member
    exact ⟨link, other present, key⟩
  · refine nodup_cons.mpr ⟨fun member => ?_, balanced.unique⟩
    obtain ⟨entry, inLinks, same⟩ := mem_map.mp member
    exact absent entry inLinks same
  · intro index beyond
    obtain ⟨nothing, counts⟩ := balanced.fresh index (Nat.le_of_succ_le beyond)
    have different : index ≠ system.table.created := Nat.ne_of_gt beyond
    exact ⟨(update_of_ne different _ _).trans nothing, counts⟩
  · intro call member
    obtain ⟨link, present⟩ := balanced.calls call member
    exact ⟨link, other present⟩
  · intro read member
    obtain ⟨link, present⟩ := balanced.reads read member
    exact ⟨link, other present⟩
  refine forall_mem_cons.mpr ⟨fun link present => ?_, fun entry member link present => ?_⟩
  · cases (update_self _ _ _).symm.trans present
    have noneUncounted : uncounted system.calls system.table.created = 0 := by
      refine countP_eq_zero.mpr fun call inCalls enqueued => ?_
      obtain ⟨link, present⟩ := balanced.calls call inCalls
      cases unused.symm.trans ((of_decide_eq_true enqueued).1 ▸ present)
    have noneUnsettled : unsettled system.reads system.table.created = 0 := by
      refine countP_eq_zero.mpr fun read inReads waiting => ?_
      obtain ⟨link, present⟩ := balanced.reads read inReads
      cases unused.symm.trans ((of_decide_eq_true waiting).1 ▸ present)
    have counts : (0 : Int) + uncounted system.calls system.table.created +
        system.results system.table.created = system.enqueued system.table.created +
          unsettled system.reads system.table.created := by
      rw [noneUncounted, noneUnsettled, noCommands, noResults]
      rfl
    exact counts
  obtain ⟨before, found, _⟩ := balanced.keyed entry member
  obtain rfl := some.inj ((other found).symm.trans present)
  exact balanced.balance entry member before found

theorem Balanced.startLink (balanced : Balanced system) (node : Node) :
    Balanced { system with table := system.table.startLink node } := by
  have gone {table : LinkTable} (entry : String × Nat)
      (member : entry ∈ (table.erase node.id).links) : entry.1 ≠ node.id :=
    (mem_erase.mp member).2
  simp only [LinkTable.startLink]
  cases system.table.find node.id with
  | none => exact (balanced.erase node.id).insert gone
  | some old =>
    have stopped : Balanced { system with table := system.table.update old MessageLink.stop } := by
      refine balanced.withTable rfl (List.Sublist.refl _) (map_objects_update _ old fun link => ?_)
      rw [MessageLink.stop]
      split_ifs <;> rfl
    exact (stopped.erase node.id).insert gone

end Table

/-! ### Steps of the calls -/

section Calls

variable {system : InflightSystem}

theorem update_succ (counts : Nat → Nat) (index other : Nat) :
    update counts index (counts index + 1) other =
      counts other + if index = other then 1 else 0 := by
  by_cases same : index = other
  · rw [if_pos same, same, update_self]
  · rw [if_neg same, update_of_ne (Ne.symm same), Nat.add_zero]

theorem uncounted_set {calls : List CommandCall} {state : CommandCall}
    (found : calls[call]? = some state) (next : CommandStage) (index : Nat) :
    uncounted (calls.set call { state with stage := next }) index +
      (if state.link = index ∧ state.stage = .enqueued then 1 else 0) =
    uncounted calls index + (if state.link = index ∧ next = .enqueued then 1 else 0) := by
  have moved := Lists.countP_set_add found { state with stage := next } fun call =>
    decide (call.link = index ∧ call.stage = .enqueued)
  simpa only [uncounted, decide_eq_true_eq] using moved

section

variable (balanced : Balanced system)
include balanced

theorem calls_set {state : CommandCall} (found : system.calls[call]? = some state)
    (next : CommandStage) : ∀ other ∈ system.calls.set call { state with stage := next }, ∃ link,
      system.table.objects other.link = some link := by
  intro other member
  obtain inCalls | rfl := mem_or_eq_of_mem_set member
  · exact balanced.calls other inCalls
  · exact balanced.calls state (mem_of_getElem? found)

theorem Balanced.select {link : Nat} {object : MessageLink}
    (present : system.table.objects link = some object) :
    Balanced { system with calls := system.calls ++ [⟨link, .selected⟩] } := by
  have same (index : Nat) :
      uncounted (system.calls ++ [⟨link, .selected⟩]) index = uncounted system.calls index := by
    refine countP_append.trans ?_
    exact Nat.add_eq_left.mpr (countP_eq_zero.mpr (by simp))
  refine ⟨balanced.keyed, balanced.unique, balanced.fresh, ?_, balanced.reads, ?_⟩
  · intro call member
    obtain early | late := mem_append.mp member
    · exact balanced.calls call early
    · grind
  intro entry member other found
  rw [same]
  exact balanced.balance entry member other found

theorem Balanced.enqueue {link : Nat} (found : system.calls[call]? = some ⟨link, .selected⟩)
    (accepted : Bool) : Balanced (system.enqueue call ⟨link, .selected⟩ accepted) := by
  rw [InflightSystem.enqueue]
  obtain ⟨object, present⟩ := balanced.calls _ (mem_of_getElem? found)
  split_ifs
  · refine ⟨balanced.keyed, balanced.unique, ?_, calls_set balanced found _, balanced.reads, ?_⟩
    · intro index unused
      obtain ⟨absent, noCommands, noResults⟩ := balanced.fresh index unused
      refine ⟨absent, ?_, noResults⟩
      have different : index ≠ link := by
        rintro rfl
        cases absent.symm.trans present
      exact (update_of_ne different _ _).trans noCommands
    intro entry member other inTable
    have balance := balanced.balance entry member other inTable
    have moved := uncounted_set found .enqueued entry.2
    dsimp only at moved ⊢
    rw [update_succ]
    simp only [reduceCtorEq, and_false, and_true, if_false] at moved
    split_ifs at moved ⊢
    · omega
    · omega
  refine ⟨balanced.keyed, balanced.unique, balanced.fresh, calls_set balanced found _,
    balanced.reads, ?_⟩
  intro entry member other inTable
  have moved := uncounted_set found .returned entry.2
  rw [if_neg (fun wrong => by cases wrong.2), if_neg (fun wrong => by cases wrong.2)] at moved
  exact (Nat.add_right_cancel moved) ▸ balanced.balance entry member other inTable

/-- The count of one link changes, and calls go on. -/
theorem Balanced.adjust (index : Nat) (change : MessageLink → MessageLink)
    (nodes : ∀ link, (change link).node = link.node) {calls : List CommandCall}
    {reads : List ResultRead}
    (callsKnown : ∀ call ∈ calls, ∃ link, system.table.objects call.link = some link)
    (readsKnown : ∀ read ∈ reads, ∃ link, system.table.objects read.source = some link)
    (balance : ∀ entry ∈ system.table.links, ∀ link, system.table.objects entry.2 = some link →
      ((if entry.2 = index then change link else link).inflight : Int) +
          uncounted calls entry.2 + system.results entry.2 =
        system.enqueued entry.2 + unsettled reads entry.2) :
    Balanced { system with
      table := system.table.update index change
      calls
      reads } := by
  have kept {other : Nat} : (∃ link, system.table.objects other = some link) →
      ∃ link, (system.table.update index change).objects other = some link :=
    fun ⟨_, present⟩ => ⟨_, exists_objects_update change present⟩
  refine ⟨?_, balanced.unique, ?_, fun call member => kept (callsKnown call member),
    fun read member => kept (readsKnown read member), ?_⟩
  · intro entry member
    obtain ⟨link, present, key⟩ := balanced.keyed entry member
    refine ⟨_, exists_objects_update change present, ?_⟩
    split_ifs
    · exact (congrArg Node.id (nodes link)).trans key
    · exact key
  · intro other unused
    obtain ⟨absent, counts⟩ := balanced.fresh other unused
    refine ⟨?_, counts⟩
    refine map_eq_none_iff.mp ((map_objects_update system.table index nodes other).trans ?_)
    rw [absent, map_none]
  intro entry member link present
  obtain ⟨before, found, _⟩ := balanced.keyed entry member
  obtain rfl := some.inj
    ((exists_objects_update change found).symm.trans present)
  exact balance entry member before found

theorem Balanced.incrementInflight {link : Nat}
    (found : system.calls[call]? = some ⟨link, .enqueued⟩) :
    Balanced (system.incrementInflight call ⟨link, .enqueued⟩) := by
  refine balanced.adjust link (fun link => { link with inflight := link.inflight + 1 })
    (fun _ => rfl) (calls_set balanced found .returned) balanced.reads ?_
  intro entry member other present
  have balance := balanced.balance entry member other present
  have moved := uncounted_set found .returned entry.2
  simp only [reduceCtorEq, and_false, and_true, if_false] at moved
  by_cases same : entry.2 = link
  · grind
  · grind

end

theorem objects_of_lookup {source target : Nat} {current : MessageLink}
    (looked : system.lookup source = some (target, current)) :
    system.table.objects target = some current := by
  simp only [lookup] at looked
  split at looked
  · cases looked
  · grind [map_eq_some_iff]

theorem Balanced.lookup_listed (balanced : Balanced system) {entry : String × Nat}
    (member : entry ∈ system.table.links) {link : MessageLink}
    (present : system.table.objects entry.2 = some link) :
    system.lookup entry.2 = some (entry.2, link) := by
  obtain ⟨_, found, key⟩ := balanced.keyed entry member
  cases found.symm.trans present
  have listed : system.table.find link.node.id = some entry.2 := by
    rw [key, LinkTable.find, Lists.find?_key balanced.unique member, map_some]
  simp only [lookup, present, listed, map_some]

theorem Balanced.readResult (balanced : Balanced system) {index : Nat} {object : MessageLink}
    (present : system.table.objects index = some object) : Balanced (system.readResult index) := by
  refine ⟨balanced.keyed, balanced.unique, ?_, balanced.calls, ?_, ?_⟩
  · intro other unused
    obtain ⟨absent, noCommands, noResults⟩ := balanced.fresh other unused
    have different : index ≠ other := by
      rintro rfl
      cases absent.symm.trans present
    refine ⟨absent, noCommands, (update_succ system.results index other).trans ?_⟩
    rw [if_neg different, noResults]
  · intro read member
    obtain early | late := mem_append.mp member
    · exact balanced.reads read early
    · obtain rfl := mem_singleton.mp late
      exact ⟨object, present⟩
  intro entry member link inTable
  have balance := balanced.balance entry member link inTable
  have more : unsettled (system.reads ++ [⟨index, false⟩]) entry.2 =
      unsettled system.reads entry.2 + if index = entry.2 then 1 else 0 := by
    refine countP_append.trans ?_
    simp only [countP_singleton, and_true, decide_eq_true_eq]
    rfl
  simp only [InflightSystem.readResult]
  rw [update_succ, more]
  split_ifs
  · omega
  · exact balance

theorem unsettled_set {reads : List ResultRead} {read source : Nat}
    (found : reads[read]? = some ⟨source, false⟩) (index : Nat) :
    unsettled (reads.set read ⟨source, true⟩) index + (if source = index then 1 else 0) =
      unsettled reads index := by
  have moved := Lists.countP_set_add found ⟨source, true⟩ fun read =>
    decide (read.source = index ∧ read.finished = false)
  simpa only [unsettled, decide_eq_true_eq, and_true, reduceCtorEq, and_false, if_false,
    Nat.add_zero] using moved

theorem Balanced.decrementInflight (balanced : Balanced system) {read source : Nat}
    (found : system.reads[read]? = some ⟨source, false⟩) (fits : system.fits source = true) :
    Balanced (system.decrementInflight read source) := by
  have known : ∀ other ∈ system.reads.set read ⟨source, true⟩, ∃ link,
      system.table.objects other.source = some link := by
    intro other member
    obtain inReads | rfl := mem_or_eq_of_mem_set member
    · exact balanced.reads other inReads
    · exact balanced.reads ⟨source, false⟩ (mem_of_getElem? found)
  have moved := unsettled_set found
  rw [InflightSystem.fits] at fits
  simp only [InflightSystem.decrementInflight]
  split at fits
  · next nothing =>
    refine ⟨balanced.keyed, balanced.unique, balanced.fresh, balanced.calls, known, ?_⟩
    intro entry member link present
    have other : source ≠ entry.2 := by
      rintro rfl
      cases nothing.symm.trans (balanced.lookup_listed member present)
    have settled := moved entry.2
    rw [if_neg other, Nat.add_zero] at settled
    rw [settled]
    exact balanced.balance entry member link present
  next target current looked =>
  refine balanced.adjust target (fun link => { link with inflight := link.inflight - 1 })
    (fun _ => rfl) balanced.calls known ?_
  intro entry member link present
  have balance := balanced.balance entry member link present
  have settled := moved entry.2
  -- a result of this link would have found it
  have own : source = entry.2 → target = entry.2 ∧ current = link := by
    rintro rfl
    obtain ⟨rfl, rfl⟩ := Prod.mk.inj
      (some.inj (looked.symm.trans (balanced.lookup_listed member present)))
    exact ⟨rfl, rfl⟩
  have counted : entry.2 = target → current = link := by
    rintro rfl
    exact some.inj ((objects_of_lookup looked).symm.trans present)
  by_cases same : source = entry.2
  · grind
  · grind

theorem balanced_step (hash : String → Nat) (system : InflightSystem) (action : InflightAction)
    (next : InflightSystem) (balanced : Balanced system) (fitting : Fitting system action)
    (taken : inflightStep hash system action = some next) : Balanced next := by
  cases action with simp only [inflightStep] at taken
  | startLink node =>
    cases taken
    exact balanced.startLink node
  | erase nodeId =>
    cases taken
    exact balanced.erase nodeId
  | flags index stopped healthy =>
    cases taken
    exact balanced.withTable rfl (List.Sublist.refl _)
      (map_objects_update system.table index (by intro link; rfl))
  | select conversationId excluded =>
    split at taken
    · next link chosen =>
      cases taken
      obtain ⟨_, object, _, _, present, _⟩ := selectLink_eq_some chosen
      exact balanced.select present
    · cases taken
  | enqueue call room =>
    split at taken
    · next link found =>
      obtain ⟨object, _, rfl⟩ := map_eq_some_iff.mp taken
      exact balanced.enqueue found _
    · cases taken
  | incrementInflight call =>
    split at taken
    · next link found =>
      cases taken
      exact balanced.incrementInflight found
    · cases taken
  | readResult index =>
    obtain ⟨object, present, rfl⟩ := map_eq_some_iff.mp taken
    exact balanced.readResult present
  | decrementInflight read =>
    split at taken
    · next source found =>
      cases taken
      exact balanced.decrementInflight found
        (fitting source (map_eq_some_iff.mpr ⟨_, found, rfl⟩))
    · cases taken

end Calls

theorem balanced_start : Balanced {} where
  keyed := fun _ member => absurd member not_mem_nil
  unique := nodup_nil
  fresh := fun _ _ => ⟨rfl, rfl, rfl⟩
  calls := fun _ member => absurd member not_mem_nil
  reads := fun _ member => absurd member not_mem_nil
  balance := fun _ member => absurd member not_mem_nil

/-! ### The count -/

/-- If every result finds the link it comes from with a positive count, or another one with the
count zero, then the counts are exact whenever no call is executing. -/
theorem inflight_exact_when_quiet (hash : String → Nat) {actions : List InflightAction}
    {system : InflightSystem}
    (fitting : Along (inflightStep hash) Fitting {} actions)
    (taken : run (inflightStep hash) {} actions = some system)
    (quiet : Quiet system) : Exact system :=
  (run_invariant_along Balanced Fitting (balanced_step hash) balanced_start fitting
    taken).exact quiet

def inflightAfter (actions : List InflightAction) : InflightSystem :=
  (run (inflightStep fun _ => 0) {} actions).getD {}

def nodeOne : Node := ⟨"m1", "10.0.0.1", 8080⟩

def commandQueued : List InflightAction :=
  [.startLink nodeOne, .flags 0 false true, .select 0 "", .enqueue 0 true]

def answeredInOrder : List InflightAction :=
  commandQueued ++ [.incrementInflight 0, .readResult 0, .decrementInflight 0]

theorem inflight_exact_when_quiet_answered :
    run (inflightStep fun _ => 0) {} answeredInOrder =
        some (inflightAfter answeredInOrder) ∧
      Quiet (inflightAfter answeredInOrder) ∧ Exact (inflightAfter answeredInOrder) := by
  have taken : run (inflightStep fun _ => 0) {} answeredInOrder =
      some (inflightAfter answeredInOrder) := rfl
  have quiet : Quiet (inflightAfter answeredInOrder) := ⟨by decide +kernel, by decide +kernel⟩
  exact ⟨taken, quiet, inflight_exact_when_quiet (fun _ => 0) (by decide +kernel) taken quiet⟩

def answeredEarly : List InflightAction :=
  commandQueued ++ [.readResult 0, .decrementInflight 0, .incrementInflight 0]

/-- The link is replaced while a command is on it, and its result comes when the new link has a
command too. -/
def answeredOnOldStream : List InflightAction :=
  commandQueued ++ [.incrementInflight 0, .startLink nodeOne, .flags 1 false true, .select 0 "",
    .enqueue 1 true, .incrementInflight 1, .readResult 0, .decrementInflight 0]

/-- Nothing is in flight and the count stays one; and the command of the new link is in flight and
the count is zero. -/
theorem inflight_count_wrong :
    (run (inflightStep fun _ => 0) {} answeredEarly =
        some (inflightAfter answeredEarly) ∧
      Quiet (inflightAfter answeredEarly) ∧ ¬ Exact (inflightAfter answeredEarly)) ∧
    run (inflightStep fun _ => 0) {} answeredOnOldStream =
        some (inflightAfter answeredOnOldStream) ∧
      Quiet (inflightAfter answeredOnOldStream) ∧
      ¬ Exact (inflightAfter answeredOnOldStream) := by
  have early : (inflightAfter answeredEarly).table.objects 0 =
      some { node := nodeOne, healthy := true, inflight := 1 } := rfl
  have late : (inflightAfter answeredOnOldStream).table.objects 1 =
      some { node := nodeOne, healthy := true, inflight := 0 } := rfl
  refine ⟨⟨rfl, ⟨by decide +kernel, by decide +kernel⟩, fun exact => ?_⟩, rfl,
    ⟨by decide +kernel, by decide +kernel⟩, fun exact => ?_⟩
  · exact absurd (exact ("m1", 0) mem_cons_self _ early) (by decide +kernel)
  · exact absurd (exact ("m1", 1) mem_cons_self _ late) (by decide +kernel)

end InflightSystem

end Wimi.Gateway
