/-
This file is about whose command a callback of `Forward` is called for.

The map `pending` is shared by all client sessions and keyed by a request id the
client chooses, and nothing but the id ties a result, a queued expiry or the
refusal of a queue to the call it belongs to. So a call that reuses the id of an
earlier one can be completed by what is left of the earlier. The file says what
can be left of a call, and proves that a run in which no call is registered under
an id that something is left of calls every callback for its own command.
-/

import Wimi.Gateway.Completion

namespace Wimi.Gateway

open Function List Option Transition

/-! ### What is left of a call -/

/-- Something of a call of `Forward` can still reach the entry under a request id: the entry
is its own, its command is on a link and may be answered, the handler of its deadline may
run, the call itself may withdraw the entry, or a retry holds a copy of its command. -/
inductive Concerns (system : LinkSystem) (requestId : String) (call : Nat) : Prop where
  | pending (member : (call, requestId) ∈ system.keys)
  | sent (command : SentCommand) (member : command ∈ system.sent)
      (own : command.forward = call) (named : command.command.requestId = requestId)
  | timer (live : (system.timers call).requestId = some requestId)
  | running (sought : (system.calls call).requestId = some requestId)
  | retry (pass : Nat) (failed : PendingCommand)
      (copied : (system.passes pass).phase = .resend failed)
      (own : failed.key = (call, requestId))

/-- No call is registered under a request id that something is left of. -/
def FreshRequest (system : LinkSystem) : LinkAction → Prop
  | .forward _ command _ _ => (∀ call, (call, command.requestId) ∉ system.keys) →
      ∀ call, ¬ Concerns system command.requestId call
  | _ => True

/-- Whatever can reach an entry is of the call whose entry it is. -/
def Isolated (system : LinkSystem) : Prop :=
  ∀ call requestId, (call, requestId) ∈ system.keys →
    ∀ other, Concerns system requestId other → other = call

/-- Every callback that has run or is about to run is called for its own command. -/
structure Attributed (system : LinkSystem) : Prop where
  owed : ∀ completion, Work.invoke completion ∈ system.works →
    completion.producedFor = completion.forward
  invoked : ∀ completion ∈ system.invoked, completion.producedFor = completion.forward

variable {system next : LinkSystem}

structure Quiet (system next : LinkSystem) : Prop where
  keys : ∀ key, key ∈ next.keys → key ∈ system.keys
  sent : ∀ command, command ∈ next.sent →
    Concerns system command.command.requestId command.forward
  timers : ∀ call requestId, (next.timers call).requestId = some requestId →
    Concerns system requestId call
  calls : ∀ call requestId, (next.calls call).requestId = some requestId →
    Concerns system requestId call
  passes : ∀ pass failed, (next.passes pass).phase = .resend failed →
    Concerns system failed.command.requestId failed.forward

variable {requestId : String} {action : LinkAction}

theorem Quiet.concerns (quiet : Quiet system next) {call : Nat}
    (concerns : Concerns next requestId call) : Concerns system requestId call := by
  cases concerns with
  | pending member => exact .pending (quiet.keys _ member)
  | sent command member own named =>
    subst own named
    exact quiet.sent command member
  | timer live => exact quiet.timers call requestId live
  | running sought => exact quiet.calls call requestId sought
  | retry pass failed copied own =>
    cases own
    exact quiet.passes pass failed copied

theorem Isolated.of_quiet (isolated : Isolated system) (quiet : Quiet system next) :
    Isolated next := by
  intro call requestId member other concerns
  exact isolated call requestId (quiet.keys _ member) other (quiet.concerns concerns)

theorem quiet_refl (system : LinkSystem) : Quiet system system where
  keys := fun _ member => member
  sent := fun command member => .sent command member rfl rfl
  timers := fun _ _ live => .timer live
  calls := fun _ _ sought => .running sought
  passes := fun pass failed copied => .retry pass failed copied rfl

theorem quiet_calls (call : Nat) (phase : ForwardCall)
    (sought : ∀ requestId, phase.requestId = some requestId →
      Concerns system requestId call) :
    ∀ other requestId,
      (update system.calls call phase other).requestId = some requestId →
      Concerns system requestId other :=
  (forall_update_iff system.calls (fun other now => ∀ requestId,
    now.requestId = some requestId → Concerns system requestId other)).mpr
    ⟨sought, fun _ _ _ looks => .running looks⟩

theorem quiet_timers (timer : Nat) (state : DeadlineTimer)
    (live : ∀ requestId, state.requestId = some requestId → Concerns system requestId timer) :
    ∀ other requestId,
      (update system.timers timer state other).requestId = some requestId →
      Concerns system requestId other :=
  (forall_update_iff system.timers (fun other now => ∀ requestId,
    now.requestId = some requestId → Concerns system requestId other)).mpr
    ⟨live, fun _ _ _ waits => .timer waits⟩

theorem quiet_passes (pass : Nat) (state : RetryPass)
    (copied : ∀ failed, state.phase = .resend failed →
      Concerns system failed.command.requestId failed.forward) :
    ∀ other failed, (update system.passes pass state other).phase = .resend failed →
      Concerns system failed.command.requestId failed.forward :=
  (forall_update_iff system.passes (fun _ now => ∀ failed,
    now.phase = .resend failed → Concerns system failed.command.requestId failed.forward)).mpr
    ⟨copied, fun other _ failed holds => .retry other failed holds rfl⟩

theorem requestId_of_cancelled {timer : DeadlineTimer}
    (live : timer.cancelled.requestId = some requestId) : timer.requestId = some requestId := by
  cases timer with
  | waiting | unset | done => cases live
  | queued sought => exact live

theorem Quiet.remove (quiet : Quiet system next) (requestId : String) (unmatched : List Work)
    (matched : PendingCommand → List Work) :
    Quiet system (next.remove requestId unmatched matched) := by
  unfold LinkSystem.remove
  split
  · exact ⟨quiet.keys, quiet.sent, quiet.timers, quiet.calls, quiet.passes⟩
  rename_i entry rest found
  refine ⟨fun key member => quiet.keys key ?_, quiet.sent, quiet.timers, quiet.calls,
    quiet.passes⟩
  exact (keys_of_takePending found).mem_iff.mpr (mem_cons_of_mem _ member)

theorem quiet_amend (requestId : String) (change : PendingCommand → PendingCommand)
    (keeps : ∀ entry, (change entry).key = entry.key) (pass : Nat) (state : RetryPass)
    (copied : ∀ failed, state.phase = .resend failed →
      Concerns system failed.command.requestId failed.forward) :
    Quiet system
      { system with
        pending := amendPending requestId change system.pending
        passes := update system.passes pass state } := by
  have kept := map_key_amendPending requestId change keeps system.pending
  exact { quiet_refl system with
    keys := fun key member => (congrArg (key ∈ ·) kept).mp member
    passes := quiet_passes pass state copied }

theorem Quiet.perform (quiet : Quiet system next) (piece : Work) :
    Quiet system (next.perform piece) := by
  cases piece with
  | cancel timer =>
    refine { quiet with timers := ?_ }
    refine (forall_update_iff next.timers (fun other now => ∀ requestId,
      now.requestId = some requestId → Concerns system requestId other)).mpr ⟨?_, ?_⟩
    · exact fun requestId live => quiet.timers timer requestId (requestId_of_cancelled live)
    · exact fun other _ requestId live => quiet.timers other requestId live
  | invoke completion => exact { quiet with }
  | finish call =>
    refine { quiet with calls := ?_ }
    refine (forall_update_iff next.calls (fun other now => ∀ requestId,
      now.requestId = some requestId → Concerns system requestId other)).mpr ⟨?_, ?_⟩
    · exact fun requestId sought => nomatch sought
    · exact fun other _ requestId sought => quiet.calls other requestId sought

/-- Only a new call of `Forward` brings something that was not there. -/
theorem quiet_step (taken : linkStep system action = some next)
    (old : ∀ call command now link, action ≠ .forward call command now link) :
    Quiet system next := by
  cases linkStep_outcome taken with
  | turnedAway | registered => exact absurd rfl (old _ _ _ _)
  | @asyncWait call command linkId phase =>
    have sought : Concerns system command.requestId call := .running (by rw [phase]; rfl)
    exact { quiet_refl system with
      timers := quiet_timers call _ fun _ live => some.inj live ▸ sought
      calls := quiet_calls call _ fun _ looks => some.inj looks ▸ sought }
  | @enqueued call command linkId phase =>
    refine { quiet_refl system with
      sent := forall_mem_cons.mpr ⟨.running (by rw [phase]; rfl), fun other before => ?_⟩
      calls := quiet_calls call _ fun _ looks => nomatch looks }
    exact .sent other before rfl rfl
  | @refused call command linkId phase =>
    have sought : Concerns system command.requestId call := .running (by rw [phase]; rfl)
    exact { quiet_refl system with
      calls := quiet_calls call _ fun _ looks => some.inj looks ▸ sought }
  | @reject call command phase =>
    have moved : Quiet system
        { system with calls := update system.calls call .withdrawing } :=
      { quiet_refl system with calls := quiet_calls call _ fun _ looks => nomatch looks }
    exact moved.remove _ _ _
  | onFrame sent answers => exact (quiet_refl system).remove _ _ _
  | @fire timer requestId waiting =>
    have live : Concerns system requestId timer := .timer (by rw [waiting]; rfl)
    exact { quiet_refl system with
      timers := quiet_timers timer _ fun _ queued => some.inj queued ▸ live }
  | @expirePending timer requestId queued =>
    have ended : Quiet system
        { system with timers := update system.timers timer .done } :=
      { quiet_refl system with timers := quiet_timers timer _ fun _ live => nomatch live }
    exact ended.remove _ _ _
  | @release timer unneeded =>
    exact { quiet_refl system with
      timers := quiet_timers timer _ fun _ live => .timer (requestId_of_cancelled live) }
  | collected | skipped =>
    exact { quiet_refl system with passes := quiet_passes _ _ fun _ copied => nomatch copied }
  | @copied pass requestId rest entry others list found =>
    refine quiet_amend requestId _ ?_ pass _ fun failed copied => ?_
    · exact fun _ => rfl
    cases copied
    obtain ⟨_, permuted⟩ := takePending_eq_some found
    exact .pending (mem_map.mpr ⟨entry, permuted.mem_iff.mpr mem_cons_self, rfl⟩)
  | @resent pass now link accepted linkId failed phase =>
    refine { quiet_refl system with
      sent := forall_mem_cons.mpr ⟨.retry pass failed phase rfl, fun command before => ?_⟩
      passes := quiet_passes pass _ fun _ copied => nomatch copied }
    exact .sent command before rfl rfl
  | @relink pass requestId linkId =>
    refine quiet_amend requestId _ ?_ pass _ fun _ copied => nomatch copied
    exact fun _ => rfl
  | stop => exact { quiet_refl system with }
  | drain => exact { quiet_refl system with keys := fun _ member => nomatch member }
  | @work thread first rest running =>
    have moved : Quiet system { system with threads := system.threads.set thread rest } :=
      { quiet_refl system with }
    exact moved.perform first

theorem concerns_of_registered {call : Nat} {command : CommandEnvelope} {linkId : String}
    {other : Nat} (concerns : Concerns
      { system with
        pending := ⟨command, call, linkId, 0⟩ :: system.pending
        calls := update system.calls call (.registered command linkId) } requestId other) :
    (requestId = command.requestId ∧ other = call) ∨ Concerns system requestId other := by
  cases concerns with
  | pending member =>
    rcases mem_cons.mp member with equal | before
    · cases equal
      exact Or.inl ⟨rfl, rfl⟩
    · exact Or.inr (.pending before)
  | sent sent member own named => exact Or.inr (.sent sent member own named)
  | timer live => exact Or.inr (.timer live)
  | running sought =>
    by_cases same : other = call
    · subst same
      simp only [update_self] at sought
      exact Or.inl ⟨(some.inj sought).symm, rfl⟩
    · simp only [update_of_ne same] at sought
      exact Or.inr (.running sought)
  | retry pass failed copied own => exact Or.inr (.retry pass failed copied own)

/-- A call that is registered under a fresh request id is the only one that can reach its
entry. -/
theorem Isolated.register (isolated : Isolated system) {call : Nat} {command : CommandEnvelope}
    {now : Int} {link : Option String} (linkId : String)
    (fresh : FreshRequest system (.forward call command now link))
    (free : ∀ entry ∈ system.pending, entry.command.requestId ≠ command.requestId) : Isolated
      { system with
        pending := ⟨command, call, linkId, 0⟩ :: system.pending
        calls := update system.calls call (.registered command linkId) } := by
  have unused : ∀ holder, (holder, command.requestId) ∉ system.keys := by
    intro holder member
    obtain ⟨entry, inside, equal⟩ := mem_map.mp member
    exact free entry inside (congrArg Prod.snd equal)
  intro holder requestId member other concerns
  rcases mem_cons.mp member with equal | before
  · cases equal
    rcases concerns_of_registered concerns with ⟨_, own⟩ | left
    · exact own
    · exact absurd left (fresh unused other)
  rcases concerns_of_registered concerns with ⟨same, _⟩ | left
  · exact absurd (same ▸ before) (unused holder)
  · exact isolated holder requestId before other left

section

variable (attributed : Attributed system)
include attributed

/-- The entry under a request id is taken out by something that can reach it, so the result
is for the call whose entry it is. -/
theorem Attributed.remove (isolated : Isolated system) {source : Nat} {unmatched : List Work}
    {matched : PendingCommand → List Work} (reaches : Concerns system requestId source)
    (silent : ∀ completion, Work.invoke completion ∉ unmatched)
    (made : ∀ entry completion, Work.invoke completion ∈ matched entry →
      completion.forward = entry.forward ∧ completion.producedFor = source)
    (calls : Nat → ForwardCall) (timers : Nat → DeadlineTimer) :
    Attributed ({ system with calls, timers }.remove requestId unmatched
      matched) := by
  unfold LinkSystem.remove
  split
  · refine ⟨fun completion member => ?_, attributed.invoked⟩
    rcases mem_append.mp member with now | before
    · exact absurd now (silent completion)
    · exact attributed.owed completion before
  rename_i entry rest found
  refine ⟨fun completion member => ?_, attributed.invoked⟩
  rcases mem_append.mp member with now | before
  · obtain ⟨receiver, producer⟩ := made entry completion now
    have present : (entry.forward, requestId) ∈ system.keys :=
      (@keys_of_takePending system requestId entry rest found).mem_iff.mpr mem_cons_self
    rw [producer, receiver]
    exact isolated entry.forward requestId present source reaches
  · exact attributed.owed completion before

theorem Attributed.drain : Attributed (Gateway.drain system) := by
  refine ⟨fun completion member => ?_, attributed.invoked⟩
  rcases mem_append.mp member with now | before
  · grind
  · exact attributed.owed completion before

theorem Attributed.work {thread : Nat} {first : Work} {rest : List Work}
    (running : system.threads[thread]? = some (first :: rest)) :
    Attributed ({ system with threads := system.threads.set thread rest }.perform first) := by
  have works : system.works.Perm (first :: (system.threads.set thread rest).flatten) :=
    Lists.flatten_set_perm running
  have kept : ∀ completion, Work.invoke completion ∈ (system.threads.set thread rest).flatten →
      completion.producedFor = completion.forward := fun completion member =>
    attributed.owed completion (works.mem_iff.mpr (mem_cons_of_mem _ member))
  cases first with
  | cancel | finish => exact ⟨kept, attributed.invoked⟩
  | invoke completion =>
    refine ⟨kept, fun other member => ?_⟩
    rcases mem_cons.mp member with rfl | before
    · exact attributed.owed other (works.mem_iff.mpr mem_cons_self)
    · exact attributed.invoked other before

theorem attributed_step (isolated : Isolated system) (taken : linkStep system action = some next) :
    Attributed next := by
  cases linkStep_outcome taken with
  | @reject call command phase =>
    refine attributed.remove isolated (.running (by rw [phase]; rfl) :
      Concerns system command.requestId call) (by simp) ?_ _ system.timers
    intro entry completion member
    have made : completion = ⟨entry.forward, rejectedResult command.requestId entry.command,
      call⟩ := by simpa using member
    rw [made]
    exact ⟨rfl, rfl⟩
  | @onFrame source result sent answers =>
    refine attributed.remove isolated (.sent source sent rfl answers.symm :
      Concerns system result.requestId source.forward) (by simp) ?_ system.calls system.timers
    intro entry completion member
    have made : completion = ⟨entry.forward, result, source.forward⟩ := by simpa using member
    rw [made]
    exact ⟨rfl, rfl⟩
  | @expirePending timer requestId queued =>
    refine attributed.remove isolated (.timer (by rw [queued]; rfl) :
      Concerns system requestId timer) (by simp) ?_ system.calls _
    intro entry completion member
    have made : completion = ⟨entry.forward, expiredResult requestId entry.command, timer⟩ := by
      simpa using member
    rw [made]
    exact ⟨rfl, rfl⟩
  | drain => exact attributed.drain
  | work running => exact attributed.work running
  | _ => exact { attributed with }

end

theorem isolated_step (isolated : Isolated system) (fresh : FreshRequest system action)
    (taken : linkStep system action = some next) : Isolated next := by
  by_cases registers : ∃ call command now link, action = .forward call command now link
  · obtain ⟨call, command, now, link, rfl⟩ := registers
    cases linkStep_outcome taken with
    | turnedAway =>
      exact isolated.of_quiet { quiet_refl system with
        calls := quiet_calls call _ fun _ looks => nomatch looks }
    | registered _ free => exact isolated.register _ fresh free
    | skipped retries => grind
  · exact isolated.of_quiet (quiet_step taken fun call command now link equal =>
      registers ⟨call, command, now, link, equal⟩)

theorem isolated_initial : Isolated {} := fun _ _ member => nomatch member

theorem attributed_initial : Attributed {} where
  owed := fun _ member => nomatch member
  invoked := fun _ member => nomatch member

/-! ### Whose result a callback gets -/

/-- In a run that registers no call under a request id something is left of, every callback
is called with a result made for the command of its own call, or with an error of its own. -/
theorem callback_gets_own_result (actions : List LinkAction) (final : LinkSystem)
    (taken : run linkStep {} actions = some final)
    (fresh : Along linkStep FreshRequest {} actions) :
    ∀ completion ∈ final.invoked, completion.producedFor = completion.forward := by
  have holds : Isolated final ∧ Attributed final :=
    run_invariant_along (fun system => Isolated system ∧ Attributed system)
      FreshRequest
      (fun _ _ _ before condition step =>
        ⟨isolated_step before.1 condition step, attributed_step before.2 before.1 step⟩)
      ⟨isolated_initial, attributed_initial⟩ fresh taken
  exact holds.2.invoked

def reusingCommand : CommandEnvelope where
  requestId := "x"
  actorUid := 2
  connectionId := "c2"
  connectionGeneration := 1
  serviceId := ServiceId.pullMessageListReq
  conversationId := 0
  deadlineUnixMs := 2000
  packet := "pull"

/-- The command of user 1 expires, user 2 reuses its request id, and then the answer to the
first command arrives. -/
def lateAnswer : List LinkAction :=
  [.forward 1 sampleCommand 0 (some "m1"), .asyncWait 1, .enqueue 1 true, .fire 1,
    .expirePending 1, .work 0, .forward 2 reusingCommand 1000 (some "m1"), .asyncWait 2,
    .enqueue 2 true, .onFrame ⟨"m1", 1, sampleCommand⟩ sampleResult, .work 0, .work 0]

theorem callback_gets_own_result_once :
    (linksAfter (resultArrives ++ [.work 0, .work 0])).invoked.length = 1 ∧
      ∀ completion ∈ (linksAfter (resultArrives ++ [.work 0, .work 0])).invoked,
        completion.producedFor = completion.forward := by
  refine ⟨by decide +kernel,
    callback_gets_own_result (resultArrives ++ [.work 0, .work 0]) _ rfl ?_⟩
  refine along_cons (fun _ call concerns => ?_) rfl (along_cons trivial rfl
    (along_cons trivial rfl (along_cons trivial rfl
      (along_cons trivial rfl (along_cons trivial rfl trivial)))))
  cases concerns with
  | pending member | sent _ member => cases member
  | timer live => cases live
  | running sought => cases sought
  | retry pass failed copied own => cases copied

/-- The late answer to the first command completes the second. -/
theorem late_answer_completes_other_call :
    run linkStep {} lateAnswer = some (linksAfter lateAnswer) ∧
      ⟨2, sampleResult, 1⟩ ∈ (linksAfter lateAnswer).invoked := by
  refine ⟨rfl, ?_⟩
  decide +kernel

end Wimi.Gateway
