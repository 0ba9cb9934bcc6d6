/-
This file proves that a forwarded command is completed exactly once.

The argument keeps a ledger of the calls of `Forward`: the calls whose entry is in
the map, those whose entry some thread has taken out and is about to call back,
and those whose callback has run. `Forward` enters a call once, when it puts the
entry into the map; after that every step only moves it from one part of the
ledger to the next. The deadline wait is tied to the first part: as long as the
entry is in the map, the wait of its call can still take it out.
-/

import Wimi.Lib.Lists
import Wimi.Gateway.MessageLink

namespace Wimi.Gateway

open Function List Option Transition ForwardCall

/-! ### Taking entries out of the map -/

def PendingCommand.key (entry : PendingCommand) : Nat × String :=
  (entry.forward, entry.command.requestId)

open PendingCommand

theorem takePending_eq_some {requestId : String} {pending rest : List PendingCommand}
    {entry : PendingCommand} (found : takePending requestId pending = some (entry, rest)) :
    entry.command.requestId = requestId ∧ pending.Perm (entry :: rest) := by
  induction pending generalizing rest with
  | nil => cases found
  | cons first others inductionHypothesis =>
    unfold takePending at found
    split at found
    · grind
    obtain ⟨⟨taken, left⟩, deeper, equal⟩ := map_eq_some_iff.mp found
    cases equal
    obtain ⟨named, permuted⟩ := inductionHypothesis deeper
    exact ⟨named, (permuted.cons first).trans (List.Perm.swap _ first left)⟩

theorem takePending_eq_none {requestId : String} {pending : List PendingCommand}
    (absent : takePending requestId pending = none) :
    ∀ entry ∈ pending, entry.command.requestId ≠ requestId := by
  induction pending with
  | nil => exact fun _ member => nomatch member
  | cons first others inductionHypothesis =>
    unfold takePending at absent
    split at absent
    · cases absent
    · grind [map_eq_none_iff]

theorem map_key_amendPending (requestId : String) (change : PendingCommand → PendingCommand)
    (keeps : ∀ entry, (change entry).key = entry.key) (pending : List PendingCommand) :
    (amendPending requestId change pending).map key =
      pending.map key := by
  unfold amendPending
  rw [List.map_map]
  refine map_congr_left fun entry _ => ?_
  simp only [comp]
  split
  · exact keeps entry
  · rfl

/-! ### The ledger -/

def Work.completes : Work → Option Nat
  | .invoke completion => some completion.forward
  | _ => none

open Work

namespace LinkSystem

variable (system : LinkSystem)

def keys : List (Nat × String) := system.pending.map key

def works : List Work := system.threads.flatten

def owed : List Nat := system.works.filterMap completes

def answered : List Nat := system.invoked.map Completion.forward

def ledger : List Nat := system.keys.map Prod.fst ++ (system.owed ++ system.answered)

end LinkSystem

namespace ForwardCall

def admitted : ForwardCall → Bool
  | .idle => false
  | .returned accepted => accepted
  | _ => true

def requestId : ForwardCall → Option String
  | .registered command _ => some command.requestId
  | .waiting command _ => some command.requestId
  | .rejected command => some command.requestId
  | _ => none

def arming : ForwardCall → Bool
  | .registered _ _ => true
  | _ => false

def settled (call : ForwardCall) : Bool := call.admitted && !call.arming

end ForwardCall

def DeadlineTimer.requestId : DeadlineTimer → Option String
  | .waiting requestId => some requestId
  | .queued requestId => some requestId
  | _ => none

/-- What the ledger says of a state: the map has one entry a request id, every call that was
admitted is entered exactly once and no other call is, a call at work looks for its own
entry's id, and only a call that has registered its wait is about to return true. -/
structure Accounted (system : LinkSystem) : Prop where
  ids : (system.keys.map Prod.snd).Nodup
  balance : ∀ call, system.ledger.count call = if (system.calls call).admitted then 1 else 0
  named : ∀ call requestId, (call, requestId) ∈ system.keys →
    ∀ sought, (system.calls call).requestId = some sought → sought = requestId
  finishing : ∀ call, finish call ∈ system.works → (system.calls call).settled = true

variable {system next : LinkSystem}

theorem accounted_initial : Accounted {} where
  ids := nodup_nil
  balance := fun _ => rfl
  named := fun _ _ member => nomatch member
  finishing := fun _ member => nomatch member

/-- A step that keeps the map and the work, up to the order, and moves calls forward. -/
theorem Accounted.of_moved (accounted : Accounted system)
    (keys : next.keys = system.keys) (ledger : next.ledger.Perm system.ledger)
    (admitted : ∀ call, (next.calls call).admitted = (system.calls call).admitted)
    (settled : ∀ call, (system.calls call).settled = true → (next.calls call).settled = true)
    (sought : ∀ call requestId, (next.calls call).requestId = some requestId →
      (system.calls call).requestId = some requestId)
    (works : ∀ call, finish call ∈ next.works → finish call ∈ system.works) :
    Accounted next where
  ids := keys ▸ accounted.ids
  balance := by
    intro call
    rw [ledger.count_eq, admitted, accounted.balance]
  named := by
    intro call requestId member other looks
    rw [keys] at member
    exact accounted.named call requestId member other (sought call other looks)
  finishing := fun call member => settled call (accounted.finishing call (works call member))

theorem Accounted.of_call (accounted : Accounted system) (call : Nat) (phase : ForwardCall)
    (admitted : phase.admitted = (system.calls call).admitted)
    (settled : (system.calls call).settled = true → phase.settled = true)
    (sought : ∀ requestId, phase.requestId = some requestId →
      (system.calls call).requestId = some requestId) :
    Accounted { system with calls := update system.calls call phase } := by
  refine accounted.of_moved rfl (List.Perm.refl _) ?_ ?_ ?_ fun _ member => member
  · grind
  · grind
  · grind

theorem keys_of_takePending {requestId : String} {entry : PendingCommand}
    {rest : List PendingCommand}
    (found : takePending requestId system.pending = some (entry, rest)) :
    system.keys.Perm ((entry.forward, requestId) :: rest.map key) := by
  obtain ⟨named, permuted⟩ := takePending_eq_some found
  have mapped := permuted.map key
  rw [map_cons, key, named] at mapped
  exact mapped

/-- Taking an entry out moves its call from the map to the work of the thread. -/
theorem Accounted.remove (accounted : Accounted system) {requestId : String}
    {unmatched : List Work} {matched : PendingCommand → List Work}
    (silent : unmatched.filterMap completes = [])
    (speaks : ∀ entry, (matched entry).filterMap completes = [entry.forward])
    (finishes : ∀ call, (finish call ∈ unmatched ∨ ∃ entry, finish call ∈ matched entry) →
      (system.calls call).settled = true) :
    Accounted (system.remove requestId unmatched matched) := by
  unfold LinkSystem.remove
  split
  · have ledger : LinkSystem.ledger { system with threads := unmatched :: system.threads } =
        system.ledger := by
      simp only [LinkSystem.ledger, LinkSystem.owed, LinkSystem.works, LinkSystem.keys,
        LinkSystem.answered, flatten_cons, filterMap_append, silent, nil_append]
    refine ⟨accounted.ids, ?_, accounted.named, ?_⟩
    · exact fun call => ledger ▸ accounted.balance call
    intro call member
    rcases mem_append.mp member with now | before
    · exact finishes call (Or.inl now)
    · exact accounted.finishing call before
  rename_i entry rest found
  have permuted := keys_of_takePending found
  refine ⟨?_, ?_, ?_, ?_⟩
  · have ids := (permuted.map Prod.snd).nodup_iff.mp accounted.ids
    exact (nodup_cons.mp ids).2
  · intro call
    rw [← accounted.balance call]
    refine List.Perm.count_eq ?_ call
    simp only [LinkSystem.ledger, LinkSystem.owed, LinkSystem.works, flatten_cons,
      filterMap_append, speaks]
    exact perm_middle.trans ((permuted.map Prod.fst).symm.append_right _)
  · intro call other member
    exact accounted.named call other (permuted.mem_iff.mpr (mem_cons_of_mem _ member))
  intro call member
  rcases mem_append.mp member with now | before
  · exact finishes call (Or.inr ⟨entry, now⟩)
  · exact accounted.finishing call before

variable {call : Nat} {command : CommandEnvelope}

section

variable (accounted : Accounted system)
include accounted

theorem Accounted.register (linkId : String) (idle : system.calls call = .idle)
    (free : ∀ entry ∈ system.pending, entry.command.requestId ≠ command.requestId) : Accounted
      { system with
        pending := ⟨command, call, linkId, 0⟩ :: system.pending
        calls := update system.calls call (.registered command linkId) } := by
  have absent : ∀ requestId, (call, requestId) ∉ system.keys := by
    intro requestId member
    have count := accounted.balance call
    rw [idle] at count
    have listed : call ∈ system.ledger :=
      mem_append_left _ (mem_map_of_mem member)
    exact count_eq_zero.mp count listed
  refine ⟨?_, ?_, ?_, ?_⟩
  · refine nodup_cons.mpr ⟨fun member => ?_, accounted.ids⟩
    obtain ⟨key, inside, equal⟩ := mem_map.mp member
    obtain ⟨entry, present, rfl⟩ := mem_map.mp inside
    exact free entry present equal
  · intro other
    have before := accounted.balance other
    show count other (call :: system.ledger) = _
    by_cases same : other = call
    · subst same
      rw [idle] at before
      rw [count_cons_self, before]
      simp only [update_self]
      rfl
    · grind
  · intro other requestId member sought looks
    rcases mem_cons.mp member with equal | before
    · cases equal
      simp only [update_self] at looks
      exact (some.inj looks).symm
    have different : other ≠ call := fun same => absent requestId (same ▸ before)
    simp only [update_of_ne different] at looks
    exact accounted.named other requestId before sought looks
  intro other member
  have before := accounted.finishing other member
  have different : other ≠ call := by
    rintro rfl
    rw [idle] at before
    cases before
  simpa only [update_of_ne different] using before

theorem Accounted.drain : Accounted (Gateway.drain system) := by
  have spoken : ∀ pending : List PendingCommand,
      (pending.flatMap fun entry =>
        [cancel entry.forward,
          .invoke ⟨entry.forward, stoppingResult entry.command, entry.forward⟩]).filterMap
        completes = (pending.map key).map Prod.fst := by
    intro pending
    induction pending with
    | nil => rfl
    | cons entry rest inductionHypothesis =>
      rw [flatMap_cons, filterMap_append, inductionHypothesis]
      rfl
  refine ⟨nodup_nil, ?_, fun _ _ member => (nomatch member), ?_⟩
  · intro call
    refine Eq.trans (congrArg (count call) ?_) (accounted.balance call)
    simp only [Gateway.drain, LinkSystem.ledger, LinkSystem.owed, LinkSystem.works,
      LinkSystem.keys, LinkSystem.answered, flatten_cons, filterMap_append, spoken,
      map_nil, nil_append, append_assoc]
  intro call member
  rcases mem_append.mp member with now | before
  · grind
  · exact accounted.finishing call before

theorem Accounted.work {thread : Nat} {first : Work} {rest : List Work}
    (running : system.threads[thread]? = some (first :: rest)) :
    Accounted ({ system with threads := system.threads.set thread rest }.perform first) := by
  have works : system.works.Perm (first :: (system.threads.set thread rest).flatten) :=
    Lists.flatten_set_perm running
  have owed := works.filterMap completes
  have kept : ∀ piece, piece ∈ (system.threads.set thread rest).flatten → piece ∈ system.works :=
    fun piece member => works.mem_iff.mpr (mem_cons_of_mem _ member)
  cases first with
  | cancel timer =>
    refine accounted.of_moved rfl ?_ (fun _ => rfl) (fun _ => id) (fun _ _ looks => looks)
      fun _ => kept _
    exact ((owed.symm.append_right _).append_left _)
  | invoke completion =>
    refine accounted.of_moved rfl ?_ (fun _ => rfl) (fun _ => id) (fun _ _ looks => looks)
      fun _ => kept _
    refine List.Perm.append_left _ ?_
    exact perm_middle.trans (owed.symm.append_right _)
  | finish call =>
    have settled : (system.calls call).settled = true :=
      accounted.finishing call (works.mem_iff.mpr mem_cons_self)
    have admitted : (system.calls call).admitted = true := (Bool.and_eq_true_iff.mp settled).1
    have moved : Accounted { system with threads := system.threads.set thread rest } := by
      refine accounted.of_moved rfl ?_ (fun _ => rfl) (fun _ => id) (fun _ _ looks => looks)
        fun _ => kept _
      exact ((owed.symm.append_right _).append_left _)
    exact moved.of_call call (.returned true) admitted.symm (fun _ => rfl) fun _ looks =>
      nomatch looks

theorem Accounted.reject (rejected : system.calls call = .rejected command) :
    Accounted (Gateway.reject system call command) := by
  have moved := accounted.of_call call .withdrawing (by rw [rejected]; rfl) (fun _ => rfl)
    fun _ looks => nomatch looks
  refine moved.remove rfl (fun _ => rfl) ?_
  intro other finishes
  have same : other = call := by grind
  simp only [same, update_self]
  rfl

theorem Accounted.amend (requestId : String) (change : PendingCommand → PendingCommand)
    (keeps : ∀ entry, (change entry).key = entry.key) (passes : Nat → RetryPass) : Accounted
      { system with
        pending := amendPending requestId change system.pending
        passes } := by
  have keys := map_key_amendPending requestId change keeps system.pending
  refine accounted.of_moved keys ?_ (fun _ => rfl) (fun _ => id) (fun _ _ looks => looks)
    fun _ member => member
  simp only [LinkSystem.ledger, LinkSystem.keys, keys]
  rfl

end

/-- Every step keeps the books. -/
theorem accounted_step (system : LinkSystem) (action : LinkAction) (next : LinkSystem)
    (accounted : Accounted system) (taken : linkStep system action = some next) :
    Accounted next := by
  cases linkStep_outcome taken with
  | turnedAway idle =>
    exact accounted.of_call _ (.returned false) (by rw [idle]; rfl) (by rw [idle]; exact id)
      fun _ looks => nomatch looks
  | registered idle free => exact accounted.register _ idle free
  | @asyncWait call command linkId phase =>
    have moved := accounted.of_call call (.waiting command linkId) (by rw [phase]; rfl)
      (fun _ => rfl) (by rw [phase]; exact fun _ looks => looks)
    exact { moved with }
  | @enqueued call command linkId phase =>
    have moved := accounted.of_call call (.returned true) (by rw [phase]; rfl)
      (fun _ => rfl) fun _ looks => nomatch looks
    exact { moved with }
  | @refused call command linkId phase =>
    exact accounted.of_call call (.rejected command) (by rw [phase]; rfl)
      (fun _ => rfl) (by rw [phase]; exact fun _ looks => looks)
  | reject phase => exact accounted.reject phase
  | onFrame sent answers => exact accounted.remove rfl (fun _ => rfl) (by simp)
  | @expirePending timer requestId queued =>
    have disarmed : Accounted { system with timers := update system.timers timer .done } :=
      { accounted with }
    exact disarmed.remove rfl (fun _ => rfl) (by simp)
  | copied | relink =>
    refine accounted.amend _ _ ?_ _
    exact fun _ => rfl
  | fire | release | collected | skipped | resent | stop =>
    exact { accounted with }
  | drain => exact accounted.drain
  | work running => exact accounted.work running

/-! ### The deadline wait -/

/-- While the entry of a call is in the map, its deadline wait is registered or about to be,
and no thread is about to cancel it. -/
structure Guarded (system : LinkSystem) : Prop where
  armed : ∀ call requestId, (call, requestId) ∈ system.keys →
    (system.calls call).arming = true ∨ (system.timers call).requestId = some requestId
  disarmed : ∀ call requestId, cancel call ∈ system.works → (call, requestId) ∉ system.keys
  cancelling : ∀ call, cancel call ∈ system.works → (system.calls call).admitted = true

theorem guarded_initial : Guarded {} where
  armed := fun _ _ member => nomatch member
  disarmed := fun _ _ member => nomatch member
  cancelling := fun _ member => nomatch member

theorem Accounted.count_key_le (accounted : Accounted system) (call : Nat) :
    (system.keys.map Prod.fst).count call ≤ 1 := by
  have balance := accounted.balance call
  rw [LinkSystem.ledger, count_append] at balance
  split at balance <;> omega

theorem Accounted.admitted_of_key (accounted : Accounted system) {requestId : String}
    (member : (call, requestId) ∈ system.keys) : (system.calls call).admitted = true := by
  have listed : call ∈ system.ledger := mem_append_left _ (mem_map_of_mem member)
  have positive := count_pos_iff.mpr listed
  rw [accounted.balance call] at positive
  split at positive
  · assumption
  · cases positive

theorem ne_of_admitted {other : Nat} (idle : system.calls call = .idle)
    (admitted : (system.calls other).admitted = true) : other ≠ call := by
  rintro rfl
  rw [idle] at admitted
  cases admitted

theorem Guarded.of_kept (guarded : Guarded system) (keys : next.keys = system.keys)
    (works : ∀ call, cancel call ∈ next.works → cancel call ∈ system.works)
    (admitted : ∀ call, (system.calls call).admitted = true → (next.calls call).admitted = true)
    (armed : ∀ call requestId, (call, requestId) ∈ system.keys →
      (system.calls call).arming = true ∨ (system.timers call).requestId = some requestId →
      (next.calls call).arming = true ∨ (next.timers call).requestId = some requestId) :
    Guarded next where
  armed := by
    intro call requestId member
    rw [keys] at member
    exact armed call requestId member (guarded.armed call requestId member)
  disarmed := by
    intro call requestId cancel
    rw [keys]
    exact guarded.disarmed call requestId (works call cancel)
  cancelling := fun call cancel => admitted call (guarded.cancelling call (works call cancel))

/-- Taking an entry out keeps the guard when the entries under other ids are armed and each
call whose wait the thread will cancel has no other entry. -/
theorem guarded_remove (accounted : Accounted system) {requestId : String}
    {unmatched : List Work} {matched : PendingCommand → List Work}
    (armed : ∀ call other, (call, other) ∈ system.keys → other ≠ requestId →
      (system.calls call).arming = true ∨ (system.timers call).requestId = some other)
    (disarmed : ∀ call other, cancel call ∈ system.works → (call, other) ∉ system.keys)
    (cancelling : ∀ call, cancel call ∈ system.works → (system.calls call).admitted = true)
    (withdraws : ∀ call, cancel call ∈ unmatched → (system.calls call).admitted = true ∧
      ∀ other, (call, other) ∈ system.keys → other = requestId)
    (takes : ∀ entry call, cancel call ∈ matched entry → call = entry.forward ∨
      (system.calls call).admitted = true ∧
        ∀ other, (call, other) ∈ system.keys → other = requestId) :
    Guarded (system.remove requestId unmatched matched) := by
  unfold LinkSystem.remove
  split
  · rename_i absent
    have missing : ∀ call, (call, requestId) ∉ system.keys := by
      intro call member
      obtain ⟨entry, inside, equal⟩ := mem_map.mp member
      exact takePending_eq_none absent entry inside (congrArg Prod.snd equal)
    refine ⟨?_, ?_, ?_⟩
    · intro call other member
      exact armed call other member fun same => missing call (same ▸ member)
    · intro call other cancel member
      rcases mem_append.mp cancel with now | before
      · exact missing call ((withdraws call now).2 other member ▸ member)
      · exact disarmed call other before member
    intro call cancel
    rcases mem_append.mp cancel with now | before
    · exact (withdraws call now).1
    · exact cancelling call before
  rename_i entry rest found
  have permuted := keys_of_takePending found
  have kept : ∀ key, key ∈ rest.map PendingCommand.key → key ∈ system.keys :=
    fun key member => permuted.mem_iff.mpr (mem_cons_of_mem _ member)
  have present : (entry.forward, requestId) ∈ system.keys :=
    permuted.mem_iff.mpr mem_cons_self
  have otherId : ∀ call, (call, requestId) ∉ rest.map PendingCommand.key := by
    intro call member
    have ids := (permuted.map Prod.snd).nodup_iff.mp accounted.ids
    exact (nodup_cons.mp ids).1 (mem_map.mpr ⟨(call, requestId), member, rfl⟩)
  have otherCall : ∀ other, (entry.forward, other) ∉ rest.map PendingCommand.key := by
    intro other member
    have single := accounted.count_key_le entry.forward
    have inside : entry.forward ∈ (rest.map PendingCommand.key).map Prod.fst :=
      mem_map_of_mem member
    have again := count_pos_iff.mpr inside
    rw [(permuted.map Prod.fst).count_eq, map_cons, count_cons_self] at single
    omega
  refine ⟨?_, ?_, ?_⟩
  · intro call other member
    exact armed call other (kept _ member) fun same => otherId call (same ▸ member)
  · intro call other cancel member
    rcases mem_append.mp cancel with now | before
    · rcases takes entry call now with rfl | ⟨_, own⟩
      · exact otherCall other member
      · exact otherId call (own other (kept _ member) ▸ member)
    · exact disarmed call other before (kept _ member)
  intro call cancel
  rcases mem_append.mp cancel with now | before
  · rcases takes entry call now with rfl | ⟨admitted, _⟩
    · exact accounted.admitted_of_key present
    · exact admitted
  · exact cancelling call before

section

variable (guarded : Guarded system)
include guarded

theorem Guarded.turnAway (accounted : Accounted system) (idle : system.calls call = .idle) :
    Guarded { system with calls := update system.calls call (.returned false) } := by
  refine guarded.of_kept rfl (fun _ cancel => cancel) ?_ ?_
  · grind [admitted]
  intro other requestId member armed
  have different := ne_of_admitted idle (accounted.admitted_of_key member)
  simpa only [update_of_ne different] using armed

theorem Guarded.register (accounted : Accounted system) (linkId : String)
    (idle : system.calls call = .idle) : Guarded
      { system with
        pending := ⟨command, call, linkId, 0⟩ :: system.pending
        calls := update system.calls call (.registered command linkId) } := by
  refine ⟨?_, ?_, ?_⟩
  · intro other requestId member
    rcases mem_cons.mp member with equal | before
    · cases equal
      exact Or.inl (by simp only [update_self, arming])
    · have different := ne_of_admitted idle (accounted.admitted_of_key before)
      simpa only [update_of_ne different] using guarded.armed other requestId before
  · intro other requestId cancel member
    rcases mem_cons.mp member with equal | before
    · cases equal
      exact ne_of_admitted idle (guarded.cancelling _ cancel) rfl
    · exact guarded.disarmed other requestId cancel before
  intro other cancel
  have admitted := guarded.cancelling other cancel
  simpa only [update_of_ne (ne_of_admitted idle admitted)] using admitted

theorem Guarded.of_call (call : Nat) (phase : ForwardCall) (sent : List SentCommand)
    (armedBefore : (system.calls call).arming = false) (admitted : phase.admitted = true) :
    Guarded { system with sent, calls := update system.calls call phase } := by
  refine guarded.of_kept rfl (fun _ cancel => cancel) ?_ ?_
  · grind
  · grind

theorem Guarded.of_timer (timer : Nat) (state : DeadlineTimer)
    (kept : ∀ requestId, (timer, requestId) ∈ system.keys →
      (system.timers timer).requestId = some requestId → state.requestId = some requestId) :
    Guarded { system with timers := update system.timers timer state } := by
  refine guarded.of_kept rfl (fun _ cancel => cancel) (fun _ admitted => admitted) ?_
  intro other requestId member armed
  by_cases same : other = timer
  · grind
  · simpa only [update_of_ne same] using armed

section

variable (accounted : Accounted system)
include accounted

theorem Guarded.asyncWait {linkId : String}
    (phase : system.calls call = .registered command linkId) :
    Guarded
      { system with
        timers := update system.timers call (.waiting command.requestId)
        calls := update system.calls call (.waiting command linkId) } := by
  refine guarded.of_kept rfl (fun _ cancel => cancel) ?_ ?_
  · grind [update_self, admitted, update_of_ne]
  intro other requestId member armed
  by_cases same : other = call
  · subst same
    have own := accounted.named other requestId member command.requestId (by rw [phase]; rfl)
    exact Or.inr (by simp only [update_self, DeadlineTimer.requestId, own])
  · simpa only [update_of_ne same] using armed

theorem Guarded.reject (rejected : system.calls call = .rejected command) :
    Guarded (Gateway.reject system call command) := by
  have booked := accounted.of_call call .withdrawing (by rw [rejected]; rfl) (fun _ => rfl)
    fun _ looks => nomatch looks
  have moved := guarded.of_call call .withdrawing system.sent (by rw [rejected]; rfl) rfl
  have own : ∀ other, (call, other) ∈ system.keys → other = command.requestId :=
    fun other member => (accounted.named call other member _ (by rw [rejected]; rfl)).symm
  refine guarded_remove booked (fun other requestId member _ => moved.armed other requestId member)
    moved.disarmed moved.cancelling ?_ ?_
  · intro other cancel
    have same : other = call := by simpa using cancel
    subst same
    exact ⟨by simp only [update_self, admitted], own⟩
  intro entry other cancel
  have same : other = call := by simpa using cancel
  subst same
  exact Or.inr ⟨by simp only [update_self, admitted], own⟩

theorem Guarded.expirePending {timer : Nat} {requestId : String}
    (queued : system.timers timer = .queued requestId) :
    Guarded (Gateway.expirePending system timer requestId) := by
  have booked : Accounted { system with timers := update system.timers timer .done } :=
    { accounted with }
  refine guarded_remove booked ?_ guarded.disarmed guarded.cancelling (by simp) (by simp)
  intro call other member different
  have armed := guarded.armed call other member
  by_cases same : call = timer
  · subst same
    rw [queued] at armed
    exact Or.inl (armed.resolve_right fun equal => different (some.inj equal).symm)
  · simpa only [update_of_ne same] using armed

theorem Guarded.drain : Guarded (Gateway.drain system) where
  armed := fun _ _ member => nomatch member
  disarmed := fun _ _ _ member => nomatch member
  cancelling := by
    intro call cancel
    rcases mem_append.mp cancel with now | before
    · obtain ⟨entry, member, piece⟩ := mem_flatMap.mp now
      have same : call = entry.forward := by simpa using piece
      subst same
      exact accounted.admitted_of_key
        (mem_map.mpr ⟨entry, member, rfl⟩ :
          (entry.forward, entry.command.requestId) ∈ system.keys)
    · exact guarded.cancelling call before

theorem Guarded.work {thread : Nat} {first : Work} {rest : List Work}
    (running : system.threads[thread]? = some (first :: rest)) :
    Guarded ({ system with threads := system.threads.set thread rest }.perform first) := by
  have works : system.works.Perm (first :: (system.threads.set thread rest).flatten) :=
    Lists.flatten_set_perm running
  have moved : Guarded { system with threads := system.threads.set thread rest } :=
    guarded.of_kept rfl (fun _ cancel => works.mem_iff.mpr (mem_cons_of_mem _ cancel))
      (fun _ admitted => admitted) fun _ _ _ armed => armed
  have begins : first ∈ system.works := works.mem_iff.mpr mem_cons_self
  cases first with
  | cancel timer =>
    refine moved.of_timer timer _ fun requestId member => ?_
    exact absurd member (guarded.disarmed timer requestId begins)
  | invoke completion =>
    exact moved.of_kept rfl (fun _ cancel => cancel) (fun _ admitted => admitted)
      fun _ _ _ armed => armed
  | finish call =>
    have settled := (Bool.and_eq_true_iff.mp (accounted.finishing call begins)).2
    exact moved.of_call call (.returned true) system.sent (by simpa using settled) rfl

end

end

/-- Every step keeps the guard. -/
theorem guarded_step (system : LinkSystem) (action : LinkAction) (next : LinkSystem)
    (accounted : Accounted system) (guarded : Guarded system)
    (taken : linkStep system action = some next) : Guarded next := by
  have amended : ∀ (requestId : String) (change : PendingCommand → PendingCommand)
      (passes : Nat → RetryPass), (∀ entry, (change entry).key = entry.key) →
      Guarded { system with
        pending := amendPending requestId change system.pending, passes } :=
    fun requestId change _ keeps =>
      guarded.of_kept (map_key_amendPending requestId change keeps system.pending)
        (fun _ cancel => cancel) (fun _ admitted => admitted) fun _ _ _ armed => armed
  cases linkStep_outcome taken with
  | turnedAway idle => exact guarded.turnAway accounted idle
  | registered idle => exact guarded.register accounted _ idle
  | asyncWait phase => exact guarded.asyncWait accounted phase
  | @enqueued call command linkId phase =>
    exact guarded.of_call call (.returned true) _ (by rw [phase]; rfl) rfl
  | @refused call command linkId phase =>
    exact guarded.of_call call (.rejected command) system.sent (by rw [phase]; rfl) rfl
  | reject phase => exact guarded.reject accounted phase
  | onFrame sent answers =>
    exact guarded_remove accounted (fun call other member _ => guarded.armed call other member)
      guarded.disarmed guarded.cancelling (by simp) (by simp)
  | @fire timer requestId waiting =>
    refine guarded.of_timer timer (.queued requestId) fun other _ armed => ?_
    rw [waiting] at armed
    exact armed
  | expirePending queued => exact guarded.expirePending accounted queued
  | @release timer unneeded =>
    refine guarded.of_timer timer _ fun requestId member => ?_
    obtain ⟨entry, inside, equal⟩ := mem_map.mp member
    refine absurd (any_eq_true.mpr ⟨entry, inside, ?_⟩) unneeded
    exact decide_eq_true (congrArg Prod.fst equal)
  | copied | relink => exact amended _ _ _ fun _ => rfl
  | collected | skipped | resent | stop => exact { guarded with }
  | drain => exact guarded.drain accounted
  | work running => exact guarded.work accounted running

theorem accounted_run {actions : List LinkAction} {final : LinkSystem}
    (taken : run linkStep {} actions = some final) :
    Accounted final ∧ Guarded final :=
  run_invariant (fun system => Accounted system ∧ Guarded system)
    (fun system action next holds step =>
      ⟨accounted_step system action next holds.1 step,
        guarded_step system action next holds.1 holds.2 step⟩)
    ⟨accounted_initial, guarded_initial⟩ taken

/-! ### Completion -/

/-- Exactly-once completion. After any interleaving, a call of `Forward` that returned false
has not been called back, no call has been called back twice, and a call that was admitted
(one that returned true, or will) is in exactly one of three places: it has been called back
once; or its entry is in the map, with its deadline wait registered or about to be registered
by the call itself; or one thread has taken the entry out and is about to call back. -/
theorem forward_completes_once (actions : List LinkAction) (final : LinkSystem)
    (taken : run linkStep {} actions = some final) (call : Nat) :
    (final.calls call = .returned false → call ∉ final.answered) ∧
      final.answered.count call ≤ 1 ∧
      ((final.calls call).admitted = true →
        (final.answered.count call = 1 ∧ call ∉ final.keys.map Prod.fst ∧ call ∉ final.owed) ∨
        (call ∉ final.answered ∧ call ∉ final.owed ∧
          ∃ requestId, (call, requestId) ∈ final.keys ∧
            ((final.calls call).arming = true ∨
              (final.timers call).requestId = some requestId)) ∨
        (call ∉ final.answered ∧ call ∉ final.keys.map Prod.fst ∧ final.owed.count call = 1)) := by
  obtain ⟨accounted, guarded⟩ := accounted_run taken
  have balance := accounted.balance call
  simp only [LinkSystem.ledger, count_append] at balance
  refine ⟨?_, ?_, ?_⟩
  · intro refused
    rw [refused] at balance
    refine count_eq_zero.mp ?_
    have none : (returned false).admitted = false := rfl
    rw [none] at balance
    simp only [Bool.false_eq_true, if_false] at balance
    omega
  · split at balance <;> omega
  · intro admitted
    rw [if_pos admitted] at balance
    simp only [← count_eq_zero]
    by_cases entered : 0 < (final.keys.map Prod.fst).count call
    · refine Or.inr (Or.inl ⟨by omega, by omega, ?_⟩)
      obtain ⟨key, member, rfl⟩ := mem_map.mp (count_pos_iff.mp entered)
      exact ⟨key.2, member, guarded.armed key.1 key.2 member⟩
    · by_cases called : final.answered.count call = 1
      · exact Or.inl ⟨called, by omega, by omega⟩
      · exact Or.inr (Or.inr ⟨by omega, by omega, by omega⟩)

def sampleCommand : CommandEnvelope where
  requestId := "x"
  actorUid := 1
  connectionId := "c1"
  connectionGeneration := 1
  serviceId := ServiceId.textSendReq
  conversationId := 0
  deadlineUnixMs := 1000
  packet := "hello"

def sampleResult : CommandResult where
  requestId := "x"
  responseServiceId := getServiceResponseId ServiceId.textSendReq
  error := ErrorCode.success.code
  retryable := false
  packet := .serialized "accepted"

def linksAfter (actions : List LinkAction) : LinkSystem :=
  (run linkStep {} actions).getD {}

/-- A command is sent, and a thread has taken out its entry for the result. -/
def resultArrives : List LinkAction :=
  [.forward 1 sampleCommand 0 (some "m1"), .asyncWait 1, .enqueue 1 true,
    .onFrame ⟨"m1", 1, sampleCommand⟩ sampleResult]

/-- A second call with the request id of a command that was sent. -/
def sentTwice : List LinkAction :=
  resultArrives.take 3 ++ [.forward 2 sampleCommand 0 (some "m1")]

def calledBack : List LinkAction := sentTwice ++ resultArrives.drop 3 ++ [.work 0, .work 0]

theorem forward_completes_once_after_callback :
    (∃ requestId, (1, requestId) ∈ (linksAfter sentTwice).keys ∧
      (((linksAfter sentTwice).calls 1).arming = true ∨
        ((linksAfter sentTwice).timers 1).requestId = some requestId)) ∧
      2 ∉ (linksAfter calledBack).answered ∧ (linksAfter calledBack).answered.count 1 ≤ 1 ∧
      (linksAfter calledBack).answered = [1] := by
  have done := forward_completes_once calledBack _ rfl
  refine ⟨?_, (done 2).1 rfl, (done 1).2.1, rfl⟩
  rcases (forward_completes_once sentTwice _ rfl 1).2.2 rfl with wrong | ⟨_, _, entered⟩ | wrong
  · exact absurd wrong.1 (by decide)
  · exact entered
  · exact absurd wrong.2.1 (by decide)

/-- Between the lock and the callback the entry is gone and the callback has not run. -/
theorem entry_gone_before_callback :
    run linkStep {} resultArrives = some (linksAfter resultArrives) ∧
      (linksAfter resultArrives).calls 1 = .returned true ∧
      (linksAfter resultArrives).answered = [] ∧ (linksAfter resultArrives).keys = [] :=
  ⟨rfl, rfl, rfl, rfl⟩

end Wimi.Gateway
