/-
This file follows the command of one call of `Forward` onto the links: `Forward` queues it
once, and `RetryPending` may queue it once more when the link of a node is done.

A command that is counted as retried has been queued by its own call before, on the node
that failed, as long as two things do not happen. A request id must not be given to another
call while a pass of `RetryPending` still has it on its list, since the pass looks the id up
again and takes what it finds. And a pass must not find a command that its own call has put
into the map and not queued yet.
-/

import Wimi.Gateway.Journal

namespace Wimi.Gateway

open Function List Option Transition Journal

/-! ### Orderly runs -/

/-- No request id is given to a call while a pass has it on its list, and a pass finds no command
under its node that it may retry and that has not been queued on this node. -/
def Orderly (journal : Journal) : LinkAction → Prop
  | .forward _ command _ _ =>
    ∀ pass, command.requestId ∉ (journal.system.passes pass).requestIds
  | .collect _ failedNodeId =>
    ∀ entry ∈ journal.system.pending, entry.linkId = failedNodeId → entry.attempts = 0 →
      canRetryOnAnotherMessageNode entry.command.serviceId = true →
        ⟨failedNodeId, entry.forward, entry.command⟩ ∈ journal.system.sent
  | _ => True

variable {system next : LinkSystem}

/-! ### The frames of a call -/

/-- The frames of a call: none, the one its call has queued, or this and one that was queued on
another node, by a pass for the node of the first, before the callback. -/
inductive Framed : List Dispatch → Prop
  | none : Framed []
  | once {first : Dispatch} (own : first.retry = .none) : Framed [first]
  | twice {first second : Dispatch} {retry : Retry} (own : first.retry = .none)
      (again : second.retry = some retry) (failed : retry.failedNodeId = first.frame.nodeId)
      (elsewhere : second.frame.nodeId ≠ first.frame.nodeId) (unanswered : retry.answered = false)
      (retriable : canRetryOnAnotherMessageNode second.frame.command.serviceId = true) :
      Framed [second, first]

structure Copied (journal : Journal) (pass : Nat) (failed : PendingCommand) : Prop where
  frames : journal.framesOf failed.forward =
    [⟨⟨(journal.system.passes pass).failedNodeId, failed.forward, failed.command⟩, none⟩]
  retriable : canRetryOnAnotherMessageNode failed.command.serviceId = true
  unanswered : journal.answeredAt pass = false

structure Redispatching (journal : Journal) : Prop where
  frames : journal.dispatches.map Dispatch.frame = journal.system.sent
  framed : ∀ call, Framed (journal.framesOf call)
  queued : ∀ dispatch ∈ journal.dispatches,
    journal.system.calls dispatch.frame.forward = .returned true
  named : ∀ dispatch ∈ journal.dispatches,
    journal.commands dispatch.frame.forward = some dispatch.frame.command
  entered : ∀ entry ∈ journal.system.pending, journal.commands entry.forward = some entry.command
  carried : ∀ call command, (journal.system.calls call).carried = some command →
    journal.commands call = some command
  copied : ∀ pass failed, (journal.system.passes pass).phase = .resend failed →
    Copied journal pass failed
  alone : ∀ pass other failed again, (journal.system.passes pass).phase = .resend failed →
    (journal.system.passes other).phase = .resend again → again.forward = failed.forward →
      other = pass
  counted : ∀ entry ∈ journal.system.pending, entry.attempts = 0 →
    (journal.framesOf entry.forward).length ≤ 1 ∧
      ∀ pass failed, (journal.system.passes pass).phase = .resend failed →
        failed.forward ≠ entry.forward
  listed : ∀ pass, ∀ entry ∈ journal.system.pending,
    entry.command.requestId ∈ (journal.system.passes pass).requestIds → entry.attempts = 0 →
      canRetryOnAnotherMessageNode entry.command.serviceId = true →
        ⟨(journal.system.passes pass).failedNodeId, entry.forward, entry.command⟩ ∈
          journal.system.sent

variable {call pass : Nat} {entry : PendingCommand}

section

variable (accounted : Accounted system)
include accounted

theorem Accounted.forward_ne_of_idle (idle : system.calls call = .idle)
    (member : entry ∈ system.pending) : entry.forward ≠ call := by
  have key : (entry.forward, entry.command.requestId) ∈ system.keys := mem_map_of_mem member
  have admitted := accounted.admitted_of_key key
  intro own
  rw [own, idle] at admitted
  cases admitted

theorem Accounted.eq_of_forward {other : PendingCommand} (member : entry ∈ system.pending)
    (otherMember : other ∈ system.pending) (same : entry.forward = other.forward) :
    entry = other := by
  have calls : (system.keys.map Prod.fst).Nodup :=
    nodup_iff_count_le_one.mpr accounted.count_key_le
  rw [LinkSystem.keys, List.map_map] at calls
  exact inj_on_of_nodup_map calls member otherMember same

theorem Accounted.eq_of_requestId {other : PendingCommand} (member : entry ∈ system.pending)
    (otherMember : other ∈ system.pending)
    (same : entry.command.requestId = other.command.requestId) : entry = other := by
  have ids := accounted.ids
  rw [LinkSystem.keys, List.map_map] at ids
  exact inj_on_of_nodup_map ids member otherMember same

theorem Accounted.unanswered (member : entry ∈ system.pending) :
    entry.forward ∉ system.answered := by
  have balance := accounted.balance entry.forward
  have entered : 0 < (system.keys.map Prod.fst).count entry.forward :=
    count_pos_iff.mpr (mem_map_of_mem (mem_map_of_mem member))
  simp only [LinkSystem.ledger, count_append] at balance
  refine count_eq_zero.mp ?_
  split at balance <;> omega

end

theorem redispatching_initial : Redispatching {} where
  frames := rfl
  framed := fun _ => .none
  queued := forall_mem_nil _
  named := forall_mem_nil _
  entered := forall_mem_nil _
  carried := fun _ _ wrong => by cases wrong
  copied := fun _ _ wrong => by cases wrong
  alone := fun _ _ _ _ wrong => by cases wrong
  counted := forall_mem_nil _
  listed := fun _ => forall_mem_nil _

namespace Redispatching

variable {journal : Journal}

section

variable (holds : Redispatching journal)
include holds

theorem of_calm (calm : Calm journal.system next) :
    Redispatching { journal with system := next } where
  frames := holds.frames.trans calm.sent.symm
  framed := holds.framed
  queued := fun dispatch member => calm.returned _ (holds.queued dispatch member)
  named := holds.named
  entered := fun entry member => holds.entered entry (calm.pending member)
  carried := fun call command carries => holds.carried call command (calm.carried _ _ carries)
  copied := by
    intro pass failed phase
    obtain ⟨frames, retriable, unanswered⟩ := holds.copied pass failed (calm.passes ▸ phase)
    exact ⟨calm.passes ▸ frames, retriable, unanswered⟩
  alone := calm.passes ▸ holds.alone
  counted := by
    intro entry member fresh
    obtain ⟨few, free⟩ := holds.counted entry (calm.pending member) fresh
    exact ⟨few, calm.passes ▸ free⟩
  listed := by
    intro pass entry member
    rw [calm.passes, calm.sent]
    exact holds.listed pass entry (calm.pending member)

theorem framesOf_eq_nil (running : journal.system.calls call ≠ .returned true) :
    journal.framesOf call = [] := by
  refine filter_eq_nil_iff.mpr fun dispatch member own => running ?_
  rw [← of_decide_eq_true own]
  exact holds.queued dispatch member

theorem dispatch_ne_of_idle (idle : journal.system.calls call = .idle) {dispatch : Dispatch}
    (member : dispatch ∈ journal.dispatches) : dispatch.frame.forward ≠ call := by
  have returned := holds.queued dispatch member
  intro own
  rw [own, idle] at returned
  cases returned

theorem of_begun (accounted : Accounted journal.system) (idle : journal.system.calls call = .idle)
    (command : CommandEnvelope) (phase : ForwardCall)
    (carries : ∀ other, phase.carried = some other → other = command) : Redispatching
      { journal with
        system := { journal.system with calls := update journal.system.calls call phase }
        commands := update journal.commands call (some command) } where
  frames := holds.frames
  framed := holds.framed
  queued := fun dispatch member =>
    (update_of_ne (holds.dispatch_ne_of_idle idle member) _ _).trans
      (holds.queued dispatch member)
  named := fun dispatch member =>
    (update_of_ne (holds.dispatch_ne_of_idle idle member) _ _).trans
      (holds.named dispatch member)
  entered := fun entry member =>
    (update_of_ne (accounted.forward_ne_of_idle idle member) _ _).trans
      (holds.entered entry member)
  carried := by
    intro other sought
    by_cases same : other = call
    · subst same
      simp only [update_self]
      exact fun carried => congrArg some (carries sought carried).symm
    · simp only [update_of_ne same]
      exact holds.carried other sought
  copied := fun pass failed phase => { holds.copied pass failed phase with }
  alone := holds.alone
  counted := holds.counted
  listed := holds.listed

theorem of_entry (entry : PendingCommand)
    (command : journal.commands entry.forward = some entry.command)
    (frames : journal.framesOf entry.forward = [])
    (unlisted : ∀ pass, entry.command.requestId ∉ (journal.system.passes pass).requestIds) :
    Redispatching
      { journal with
        system := { journal.system with pending := entry :: journal.system.pending } } where
  frames := holds.frames
  framed := holds.framed
  queued := holds.queued
  named := holds.named
  entered := forall_mem_cons.mpr ⟨command, holds.entered⟩
  carried := holds.carried
  copied := fun pass failed phase => { holds.copied pass failed phase with }
  alone := holds.alone
  counted := by
    refine forall_mem_cons.mpr ⟨fun _ => ⟨?_, fun pass failed phase own => ?_⟩, holds.counted⟩
    · exact (congrArg length frames).trans_le (Nat.zero_le 1)
    have copied := (holds.copied pass failed phase).frames
    rw [own, frames] at copied
    cases copied
  listed := fun pass => forall_mem_cons.mpr
    ⟨fun listed => absurd listed (unlisted pass), holds.listed pass⟩

theorem of_pass (pass : Nat) (state : RetryPass) (quiet : ∀ failed, state.phase ≠ .resend failed)
    (listed : ∀ entry ∈ journal.system.pending, entry.command.requestId ∈ state.requestIds →
      entry.attempts = 0 → canRetryOnAnotherMessageNode entry.command.serviceId = true →
        ⟨state.failedNodeId, entry.forward, entry.command⟩ ∈ journal.system.sent) :
    Redispatching
      { journal with
        system :=
          { journal.system with passes := update journal.system.passes pass state } } := by
  have before {other : Nat} {failed : PendingCommand}
      (phase : (update journal.system.passes pass state other).phase = .resend failed) :
      other ≠ pass ∧ (journal.system.passes other).phase = .resend failed := by
    by_cases same : other = pass
    · grind
    · grind
  refine ⟨holds.frames, holds.framed, holds.queued, holds.named, holds.entered, holds.carried,
    ?_, ?_, ?_, ?_⟩
  · intro other failed phase
    obtain ⟨different, phase⟩ := before phase
    have copied := holds.copied other failed phase
    refine ⟨?_, copied.retriable, copied.unanswered⟩
    simp only [update_of_ne different]
    exact copied.frames
  · intro first second failed again one two
    exact holds.alone first second failed again (before one).2 (before two).2
  · intro entry member fresh
    obtain ⟨few, free⟩ := holds.counted entry member fresh
    exact ⟨few, fun other failed phase => free other failed (before phase).2⟩
  exact (forall_update_iff journal.system.passes fun _ now =>
    ∀ entry ∈ journal.system.pending, entry.command.requestId ∈ now.requestIds →
      entry.attempts = 0 → canRetryOnAnotherMessageNode entry.command.serviceId = true →
        ⟨now.failedNodeId, entry.forward, entry.command⟩ ∈ journal.system.sent).mpr
    ⟨listed, fun other _ => holds.listed other⟩

theorem of_amended (requestId : String) (change : PendingCommand → PendingCommand)
    (key : ∀ entry, (change entry).forward = entry.forward ∧
      (change entry).command = entry.command ∧
        ((change entry).attempts = 0 → entry.attempts = 0)) :
    Redispatching
      { journal with
        system :=
          { journal.system with
            pending := amendPending requestId change journal.system.pending } } := by
  have before {entry : PendingCommand}
      (member : entry ∈ amendPending requestId change journal.system.pending) :
      ∃ old ∈ journal.system.pending, entry.forward = old.forward ∧
        entry.command = old.command ∧ (entry.attempts = 0 → old.attempts = 0) := by
    obtain ⟨old, oldMember, rfl⟩ := mem_map.mp member
    refine ⟨old, oldMember, ?_⟩
    split
    · exact key old
    · exact ⟨rfl, rfl, id⟩
  refine ⟨holds.frames, holds.framed, holds.queued, holds.named, ?_, holds.carried, ?_,
    holds.alone, ?_, ?_⟩
  · intro entry member
    obtain ⟨old, oldMember, forward, command, -⟩ := before member
    rw [forward, command]
    exact holds.entered old oldMember
  · exact fun pass failed phase => { holds.copied pass failed phase with }
  · intro entry member fresh
    obtain ⟨old, oldMember, forward, -, older⟩ := before member
    rw [forward]
    exact holds.counted old oldMember (older fresh)
  intro pass entry member
  obtain ⟨old, oldMember, forward, command, older⟩ := before member
  rw [forward, command]
  exact fun listed fresh => holds.listed pass old oldMember listed (older fresh)

/-- A command is queued, as the first of its call or as the second. -/
theorem of_dispatched (dispatch : Dispatch)
    (returned : journal.system.calls dispatch.frame.forward = .returned true)
    (command : journal.commands dispatch.frame.forward = some dispatch.frame.command)
    (framed : Framed (dispatch :: journal.framesOf dispatch.frame.forward))
    (done : ∀ pass failed, (journal.system.passes pass).phase = .resend failed →
      failed.forward ≠ dispatch.frame.forward)
    (first : ∀ entry ∈ journal.system.pending, entry.attempts = 0 →
      entry.forward = dispatch.frame.forward → journal.framesOf entry.forward = []) :
    Redispatching
      { journal with
        system := { journal.system with sent := dispatch.frame :: journal.system.sent }
        dispatches := dispatch :: journal.dispatches } := by
  have own : framesOf
      { journal with
        system := { journal.system with sent := dispatch.frame :: journal.system.sent }
        dispatches := dispatch :: journal.dispatches } dispatch.frame.forward =
      dispatch :: journal.framesOf dispatch.frame.forward :=
    List.filter_cons_of_pos (decide_eq_true rfl)
  have other {call : Nat} (different : dispatch.frame.forward ≠ call) : framesOf
      { journal with
        system := { journal.system with sent := dispatch.frame :: journal.system.sent }
        dispatches := dispatch :: journal.dispatches } call = journal.framesOf call :=
    List.filter_cons_of_neg fun same => different (of_decide_eq_true same)
  refine ⟨congrArg (dispatch.frame :: ·) holds.frames, ?_,
    forall_mem_cons.mpr ⟨returned, holds.queued⟩,
    forall_mem_cons.mpr ⟨command, holds.named⟩, holds.entered, holds.carried, ?_,
    holds.alone, ?_, ?_⟩
  · intro call
    by_cases same : dispatch.frame.forward = call
    · subst same
      rw [own]
      exact framed
    · rw [other same]
      exact holds.framed call
  · intro pass failed phase
    have copied := holds.copied pass failed phase
    exact ⟨(other (done pass failed phase).symm).trans copied.frames, copied.retriable,
      copied.unanswered⟩
  · intro entry member fresh
    obtain ⟨few, free⟩ := holds.counted entry member fresh
    refine ⟨?_, free⟩
    by_cases same : dispatch.frame.forward = entry.forward
    · grind
    · rw [other same]
      exact few
  · exact fun pass entry member listed fresh retriable =>
      mem_cons_of_mem _ (holds.listed pass entry member listed fresh retriable)

/-- A pass has counted a command as retried that was queued once, on the node of the pass. -/
theorem of_copied {rest : List String} (failed : PendingCommand)
    (left : rest ⊆ (journal.system.passes pass).requestIds)
    (frames : journal.framesOf failed.forward =
      [⟨⟨(journal.system.passes pass).failedNodeId, failed.forward, failed.command⟩, none⟩])
    (retriable : canRetryOnAnotherMessageNode failed.command.serviceId = true)
    (free : ∀ other again, (journal.system.passes other).phase = .resend again →
      again.forward ≠ failed.forward)
    (spent : ∀ entry ∈ journal.system.pending, entry.attempts = 0 →
      failed.forward ≠ entry.forward) :
    Redispatching
      { journal with
        system :=
          { journal.system with
            passes := update journal.system.passes pass
              ⟨(journal.system.passes pass).failedNodeId, rest, .resend failed⟩ }
        answeredAt := update journal.answeredAt pass false } := by
  refine ⟨holds.frames, holds.framed, holds.queued, holds.named, holds.entered, holds.carried,
    ?_, ?_, ?_, ?_⟩
  · intro other again phase
    by_cases same : other = pass
    · subst same
      simp only [update_self] at phase
      cases phase
      refine ⟨?_, retriable, update_self _ _ _⟩
      simp only [update_self]
      exact frames
    simp only [update_of_ne same] at phase
    have copied := holds.copied other again phase
    refine ⟨?_, copied.retriable, (update_of_ne same _ _).trans copied.unanswered⟩
    simp only [update_of_ne same]
    exact copied.frames
  · intro one two failedOne failedTwo phaseOne phaseTwo same
    by_cases first : one = pass <;> by_cases second : two = pass
    · rw [first, second]
    · grind
    · grind
    · simp only [update_of_ne first, update_of_ne second] at phaseOne phaseTwo
      exact holds.alone one two failedOne failedTwo phaseOne phaseTwo same
  · intro entry member fresh
    obtain ⟨few, others⟩ := holds.counted entry member fresh
    refine ⟨few, (forall_update_iff journal.system.passes fun _ now => ∀ again,
      now.phase = .resend again → again.forward ≠ entry.forward).mpr ⟨?_, fun other _ =>
        others other⟩⟩
    intro again phase
    cases phase
    exact spent entry member fresh
  refine (forall_update_iff journal.system.passes fun _ now =>
    ∀ entry ∈ journal.system.pending, entry.command.requestId ∈ now.requestIds →
      entry.attempts = 0 → canRetryOnAnotherMessageNode entry.command.serviceId = true →
        ⟨now.failedNodeId, entry.forward, entry.command⟩ ∈ journal.system.sent).mpr
    ⟨fun entry member listed => ?_, fun other _ => holds.listed other⟩
  exact holds.listed pass entry member (left listed)

theorem frames_of_listed (member : entry ∈ journal.system.pending)
    (listed : entry.command.requestId ∈ (journal.system.passes pass).requestIds)
    (fresh : entry.attempts = 0)
    (retriable : canRetryOnAnotherMessageNode entry.command.serviceId = true) :
    journal.framesOf entry.forward =
      [⟨⟨(journal.system.passes pass).failedNodeId, entry.forward, entry.command⟩, none⟩] := by
  have sent := holds.listed pass entry member listed fresh retriable
  rw [← holds.frames] at sent
  obtain ⟨dispatch, queued, frame⟩ := mem_map.mp sent
  have own : dispatch ∈ journal.framesOf entry.forward :=
    mem_filter.mpr ⟨queued, decide_eq_true (congrArg SentCommand.forward frame)⟩
  have few := (holds.counted entry member fresh).1
  have framed := holds.framed entry.forward
  cases shape : journal.framesOf entry.forward with
  | nil => rw [shape] at own; cases own
  | cons first others =>
    rw [shape] at own few framed
    cases framed with
    | once original =>
      obtain rfl := mem_singleton.mp own
      obtain ⟨_, _⟩ := dispatch
      cases frame
      cases original
      rfl
    | twice => exact absurd few (Nat.not_succ_le_self 1)

theorem copy (accounted : Accounted journal.system) {requestId : String} {rest : List String}
    {others : List PendingCommand}
    (list : (journal.system.passes pass).requestIds = requestId :: rest)
    (found : takePending requestId journal.system.pending = some (entry, others))
    (fresh : entry.attempts = 0)
    (retriable : canRetryOnAnotherMessageNode entry.command.serviceId = true) : Redispatching
      { journal with
        system :=
          { journal.system with
            pending := amendPending requestId
              (fun found => { found with attempts := found.attempts + 1 }) journal.system.pending
            passes := update journal.system.passes pass
              ⟨(journal.system.passes pass).failedNodeId, rest,
                .resend { entry with attempts := entry.attempts + 1 }⟩ }
        answeredAt := update journal.answeredAt pass false } := by
  obtain ⟨id, permuted⟩ := takePending_eq_some found
  have member : entry ∈ journal.system.pending := permuted.mem_iff.mpr mem_cons_self
  have listed : entry.command.requestId ∈ (journal.system.passes pass).requestIds := by
    rw [list, id]
    exact mem_cons_self
  have amended := holds.of_amended requestId
    (fun found => { found with attempts := found.attempts + 1 })
    fun _ => ⟨rfl, rfl, fun wrong => absurd wrong (Nat.succ_ne_zero _)⟩
  refine amended.of_copied { entry with attempts := entry.attempts + 1 } ?_ ?_ retriable ?_ ?_
  · exact list ▸ subset_cons_self _ _
  · have frames := holds.frames_of_listed member listed fresh retriable
    exact frames
  · have free := (holds.counted entry member fresh).2
    exact free
  intro other otherMember unspent same
  obtain ⟨old, oldMember, rfl⟩ := mem_map.mp otherMember
  by_cases hit : old.command.requestId = requestId
  · grind
  · rw [if_neg hit] at same
    exact hit (accounted.eq_of_forward member oldMember same ▸ id)

theorem enqueue {command : CommandEnvelope} {linkId : String}
    (phase : journal.system.calls call = .waiting command linkId) : Redispatching
      { journal with
        system :=
          { journal.system with
            sent := ⟨linkId, call, command⟩ :: journal.system.sent
            calls := update journal.system.calls call (.returned true) }
        dispatches := ⟨⟨linkId, call, command⟩, none⟩ :: journal.dispatches } := by
  have running : journal.system.calls call ≠ .returned true := by
    rw [phase]
    exact fun wrong => by cases wrong
  have unqueued : journal.framesOf call = [] := holds.framesOf_eq_nil running
  have returned := holds.of_calm ((calm_refl journal.system).call call (.returned true)
    (.inr rfl) fun _ wrong => by cases wrong)
  refine returned.of_dispatched ⟨⟨linkId, call, command⟩, none⟩
    (update_self _ _ _) ?_ ?_ ?_ ?_
  · exact holds.carried call command (by rw [phase]; rfl)
  · have framed : Framed (⟨⟨linkId, call, command⟩, none⟩ :: journal.framesOf call) := by
      rw [unqueued]
      exact .once rfl
    exact framed
  · intro pass failed copied own
    have frames := (holds.copied pass failed copied).frames
    rw [own] at frames
    cases unqueued.symm.trans frames
  intro entry _ _ own
  rw [own]
  exact unqueued

theorem resend {failed : PendingCommand} {linkId : String}
    (phase : (journal.system.passes pass).phase = .resend failed)
    (elsewhere : linkId ≠ (journal.system.passes pass).failedNodeId) : Redispatching
      { journal with
        system :=
          { journal.system with
            sent := ⟨linkId, failed.forward, failed.command⟩ :: journal.system.sent
            passes := update journal.system.passes pass
              ⟨(journal.system.passes pass).failedNodeId, (journal.system.passes pass).requestIds,
                .relink failed.command.requestId linkId⟩ }
        dispatches :=
          ⟨⟨linkId, failed.forward, failed.command⟩,
            some ⟨(journal.system.passes pass).failedNodeId, journal.answeredAt pass⟩⟩ ::
              journal.dispatches } := by
  obtain ⟨frames, retriable, unanswered⟩ := holds.copied pass failed phase
  have first : _ ∈ journal.dispatches :=
    (mem_filter.mp (frames.symm ▸ mem_singleton_self _)).1
  have returned := holds.queued _ first
  have command := holds.named _ first
  have moved := holds.of_pass pass
    ⟨(journal.system.passes pass).failedNodeId, (journal.system.passes pass).requestIds,
      .relink failed.command.requestId linkId⟩
    (fun _ wrong => by cases wrong) (holds.listed pass)
  refine moved.of_dispatched ⟨⟨linkId, failed.forward, failed.command⟩,
    some ⟨(journal.system.passes pass).failedNodeId, journal.answeredAt pass⟩⟩
    returned command ?_ ?_ ?_
  · have framed : Framed (⟨⟨linkId, failed.forward, failed.command⟩,
        some ⟨(journal.system.passes pass).failedNodeId, journal.answeredAt pass⟩⟩ ::
          journal.framesOf failed.forward) := by
      rw [frames]
      exact .twice rfl rfl rfl elsewhere unanswered retriable
    exact framed
  · intro other again copied own
    by_cases same : other = pass
    · grind
    · simp only [update_of_ne same] at copied
      exact same (holds.alone pass other failed again phase copied own)
  · intro entry member fresh own
    exact absurd own.symm ((holds.counted entry member fresh).2 pass failed phase)

theorem collect (accounted : Accounted journal.system) {failedNodeId : String}
    (orderly : Orderly journal (.collect pass failedNodeId)) : Redispatching
      { journal with
        system :=
          { journal.system with
            passes := update journal.system.passes pass
              ⟨failedNodeId,
                (journal.system.pending.filter fun entry => entry.linkId = failedNodeId).map
                  fun entry => entry.command.requestId, .next⟩ } } := by
  refine holds.of_pass pass _ (fun _ wrong => by cases wrong) fun entry member listed => ?_
  obtain ⟨other, found, same⟩ := mem_map.mp listed
  obtain ⟨otherMember, linked⟩ := mem_filter.mp found
  obtain rfl := accounted.eq_of_requestId otherMember member same
  exact orderly other member (of_decide_eq_true linked)

end

end Redispatching

/-- The journal after a step, with what was noted in it. -/
theorem Redispatching.record {journal : Journal} {action : LinkAction}
    {commands : Nat → Option CommandEnvelope} {answeredAt : Nat → Bool}
    {dispatches : List Dispatch} (sameCommands : journal.recordCommand action = commands)
    (sameAnswered : journal.recordAnswered next action = answeredAt)
    (sameDispatches : (journal.record action next).dispatches = dispatches)
    (holds : Redispatching ⟨next, commands, answeredAt, dispatches⟩) :
    Redispatching (journal.record action next) := by
  subst sameCommands sameAnswered sameDispatches
  exact holds

theorem redispatching_step (journal : Journal) (action : LinkAction) (next : Journal)
    (holds : Accounted journal.system ∧ Redispatching journal) (orderly : Orderly journal action)
    (taken : journal.step action = some next) :
    Accounted next.system ∧ Redispatching next := by
  obtain ⟨accounted, holds⟩ := holds
  obtain ⟨system, moved, rfl⟩ := map_eq_some_iff.mp taken
  refine ⟨accounted_step journal.system action system accounted moved, ?_⟩
  by_cases silent : action.silent = true
  · have calm := calm_of_silent silent moved
    rw [record_of_silent silent calm.sent]
    exact holds.of_calm calm
  cases linkStep_outcome moved with
  | turnedAway idle =>
    exact .record rfl rfl (dispatches_record_of_sent rfl)
      (holds.of_begun accounted idle _ _ fun _ wrong => by cases wrong)
  | @registered call command now link linkId idle =>
    have begun := holds.of_begun accounted idle command (.registered command linkId)
      fun _ carried => (Option.some.inj carried).symm
    have unqueued : journal.framesOf call = [] :=
      holds.framesOf_eq_nil (by rw [idle]; exact fun wrong => by cases wrong)
    exact .record rfl rfl (dispatches_record_of_sent rfl)
      (begun.of_entry ⟨command, call, linkId, 0⟩ (update_self _ _ _) unqueued orderly)
  | enqueued phase =>
    exact .record rfl rfl (dispatches_record_cons rfl) (holds.enqueue phase)
  | collected =>
    exact .record rfl rfl (dispatches_record_of_sent rfl) (holds.collect accounted orderly)
  | @skipped action pass rest retries left =>
    have skipped := holds.of_pass pass ⟨(journal.system.passes pass).failedNodeId, rest, .next⟩
      (fun _ wrong => by cases wrong)
      fun entry member listed => holds.listed pass entry member (left listed)
    rcases retries with rfl | ⟨_, _, _, rfl⟩
    · refine .record rfl ?_ (dispatches_record_of_sent rfl) skipped
      simp only [recordAnswered, update_self]
    · exact .record rfl rfl (dispatches_record_of_sent rfl) skipped
  | @copied pass requestId rest entry others list found fresh retriable =>
    have member : entry ∈ journal.system.pending :=
      (takePending_eq_some found).2.mem_iff.mpr mem_cons_self
    refine .record rfl ?_ (dispatches_record_of_sent rfl)
      (holds.copy accounted list found fresh retriable)
    simp only [recordAnswered, update_self,
      decide_eq_false (accounted.unanswered member)]
  | resent phase elsewhere =>
    exact .record rfl rfl (dispatches_record_cons rfl) (holds.resend phase elsewhere)
  | @relink pass requestId linkId =>
    have amended := holds.of_amended requestId (fun found => { found with linkId })
      fun _ => ⟨rfl, rfl, id⟩
    exact .record rfl rfl (dispatches_record_of_sent rfl)
      (amended.of_pass pass _ (fun _ wrong => by cases wrong) (amended.listed pass))
  | _ => exact absurd rfl silent

/-! ### At most one more time, and elsewhere -/

/-- What a run has queued for the command of one call of `Forward`: at most one frame, or two if
the command may be retried. The second was queued by a pass for the node of the first, on another
node, and the callback had not been called when the pass counted the command as retried. -/
structure SafelyRedispatched (journal : Journal) (call : Nat) (command : CommandEnvelope) :
    Prop where
  own : ∀ dispatch ∈ journal.framesOf call, dispatch.frame.command = command
  bounded : (journal.framesOf call).length ≤
    if canRetryOnAnotherMessageNode command.serviceId then 2 else 1
  second : ∀ first second, journal.framesOf call = [second, first] →
    ∃ retry, second.retry = some retry ∧ retry.failedNodeId = first.frame.nodeId ∧
      second.frame.nodeId ≠ first.frame.nodeId ∧ retry.answered = false

theorem Redispatching.safely {journal : Journal} (holds : Redispatching journal)
    {command : CommandEnvelope} (noted : journal.commands call = some command) :
    SafelyRedispatched journal call command := by
  have own : ∀ dispatch ∈ journal.framesOf call, dispatch.frame.command = command := by
    intro dispatch member
    obtain ⟨queued, forward⟩ := mem_filter.mp member
    have named := holds.named dispatch queued
    rw [of_decide_eq_true forward, noted] at named
    exact (Option.some.inj named).symm
  have framed := holds.framed call
  refine ⟨own, ?_, ?_⟩
  · cases shape : journal.framesOf call with
    | nil => exact Nat.zero_le _
    | cons last rest =>
      rw [shape] at framed own
      cases framed with
      | once _ => split <;> exact Nat.succ_le_succ (Nat.zero_le _)
      | twice _ _ _ _ _ retriable => grind
  intro first second shape
  rw [shape] at framed
  cases framed with
  | twice _ again failed elsewhere unanswered _ =>
    exact ⟨_, again, failed, elsewhere, unanswered⟩

/-- In an orderly run every command is queued at most once, or at most twice if it may be retried,
and the second time safely. -/
theorem redispatch_bounded_and_safe (actions : List LinkAction) (final : Journal)
    (taken : run step {} actions = some final)
    (orderly : Along step Orderly {} actions) :
    final.dispatches.map Dispatch.frame = final.system.sent ∧
      (∀ dispatch ∈ final.dispatches,
        final.commands dispatch.frame.forward = some dispatch.frame.command) ∧
      ∀ call command, final.commands call = some command →
        SafelyRedispatched final call command := by
  have holds : Accounted final.system ∧ Redispatching final :=
    run_invariant_along
      (fun journal => Accounted journal.system ∧ Redispatching journal) Orderly
      redispatching_step ⟨accounted_initial, redispatching_initial⟩ orderly taken
  exact ⟨holds.2.frames, holds.2.named, fun _ _ noted => holds.2.safely noted⟩

def journalAfter (actions : List LinkAction) : Journal :=
  (run step {} actions).getD {}

def redispatched : List LinkAction :=
  [.forward 1 sampleCommand 0 (some "m1"), .asyncWait 1, .enqueue 1 true, .collect 0 "m1", .copy 0,
    .resend 0 1 (some "m2") true, .relink 0]

theorem redispatch_bounded_and_safe_once :
    (journalAfter redispatched).framesOf 1 =
        [⟨⟨"m2", 1, sampleCommand⟩, some ⟨"m1", false⟩⟩, ⟨⟨"m1", 1, sampleCommand⟩, none⟩] ∧
      SafelyRedispatched (journalAfter redispatched) 1 sampleCommand := by
  refine ⟨by decide +kernel, (redispatch_bounded_and_safe redispatched _ rfl ?_).2.2 1 _ rfl⟩
  refine along_cons (fun _ => not_mem_nil) rfl (along_cons trivial rfl
    (along_cons trivial rfl (along_cons ?_ rfl (along_cons trivial
      rfl (along_cons trivial rfl (along_cons trivial rfl trivial))))))
  exact forall_mem_singleton.mpr fun _ _ _ => by decide +kernel

def laterCommand : CommandEnvelope :=
  { sampleCommand with actorUid := 2, deadlineUnixMs := 2000 }

/-- The first node fails; while `RetryPending` runs the command expires, and another call takes
its request id and goes to the second node. -/
def idTaken : List LinkAction :=
  [.forward 1 sampleCommand 0 (some "m1"), .asyncWait 1, .enqueue 1 true, .collect 0 "m1", .fire 1,
    .expirePending 1, .work 0, .forward 2 laterCommand 1000 (some "m2"), .asyncWait 2,
    .enqueue 2 true, .copy 0, .resend 0 1001 (some "m2") true]

/-- A node that has just come back fails a second time in the eyes of `RetryPending`: it was called
for the link before, and finds a command that is about to be queued on the new one. -/
def overtaken : List LinkAction :=
  [.forward 1 sampleCommand 0 (some "m1"), .asyncWait 1, .collect 0 "m1", .copy 0,
    .resend 0 1 (some "m2") true, .enqueue 1 true]

/-- A command is queued a second time on the node it was on, by a pass for a node it was never
queued on; and the second frame of a command is queued by its own call. -/
theorem command_queued_twice_on_its_node :
    (run step {} idTaken = some (journalAfter idTaken) ∧
      (journalAfter idTaken).framesOf 2 =
        [⟨⟨"m2", 2, laterCommand⟩, some ⟨"m1", false⟩⟩, ⟨⟨"m2", 2, laterCommand⟩, none⟩]) ∧
    run step {} overtaken = some (journalAfter overtaken) ∧
      (journalAfter overtaken).framesOf 1 =
        [⟨⟨"m1", 1, sampleCommand⟩, none⟩, ⟨⟨"m2", 1, sampleCommand⟩, some ⟨"m1", false⟩⟩] := by
  refine ⟨⟨rfl, ?_⟩, rfl, ?_⟩ <;> decide +kernel

end Wimi.Gateway
