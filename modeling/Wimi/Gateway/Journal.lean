/-
This file keeps a journal beside the links of the Gateway: which command each call of
`Forward` has, what was queued on the links for it and by whom, and whether a command had
been answered when `RetryPending` counted it as retried. The steps of the links are put into
the form the journal needs: most of them queue nothing and leave the passes of
`RetryPending` alone.
-/

import Wimi.Gateway.Completion

namespace Wimi.Gateway

open Function List

/-! ### The journal -/

/-- The pass of `RetryPending` that queued a command: the node it was called for, and whether the
callback of the command had been called when the pass counted the command as retried. -/
structure Retry where
  failedNodeId : String
  answered : Bool
deriving DecidableEq, Repr

/-- A command on a link, and the pass that queued it unless `Forward` did itself. -/
structure Dispatch where
  frame : SentCommand
  retry : Option Retry
deriving DecidableEq, Repr

structure Journal where
  system : LinkSystem := {}
  commands : Nat → Option CommandEnvelope := fun _ => none
  answeredAt : Nat → Bool := fun _ => false
  dispatches : List Dispatch := []

namespace Journal

def origin (journal : Journal) : LinkAction → Option Retry
  | .resend pass _ _ _ =>
    some ⟨(journal.system.passes pass).failedNodeId, journal.answeredAt pass⟩
  | _ => none

def recordCommand (journal : Journal) : LinkAction → Nat → Option CommandEnvelope
  | .forward call command _ _ => update journal.commands call (some command)
  | _ => journal.commands

def recordAnswered (journal : Journal) (next : LinkSystem) : LinkAction → Nat → Bool
  | .copy pass =>
    match (next.passes pass).phase with
    | .resend failed =>
      update journal.answeredAt pass (decide (failed.forward ∈ journal.system.answered))
    | _ => journal.answeredAt
  | _ => journal.answeredAt

def record (journal : Journal) (action : LinkAction) (next : LinkSystem) : Journal where
  system := next
  commands := journal.recordCommand action
  answeredAt := journal.recordAnswered next action
  dispatches :=
    (next.sent.take (next.sent.length - journal.system.sent.length)).map
      (fun frame => ⟨frame, journal.origin action⟩) ++ journal.dispatches

def step (journal : Journal) (action : LinkAction) : Option Journal :=
  (linkStep journal.system action).map (journal.record action)

def framesOf (journal : Journal) (call : Nat) : List Dispatch :=
  journal.dispatches.filter fun dispatch => dispatch.frame.forward = call

end Journal

/-! ### What a step does to the links -/

def ForwardCall.carried : ForwardCall → Option CommandEnvelope
  | .registered command _ => some command
  | .waiting command _ => some command
  | _ => none

/-- A step that queues nothing, begins no call and leaves the passes alone. -/
def LinkAction.silent : LinkAction → Bool
  | .forward _ _ _ _ => false
  | .enqueue _ accepted => !accepted
  | .collect _ _ => false
  | .copy _ => false
  | .resend _ _ _ _ => false
  | .relink _ => false
  | _ => true

structure Calm (system next : LinkSystem) : Prop where
  sent : next.sent = system.sent
  passes : next.passes = system.passes
  pending : next.pending ⊆ system.pending
  returned : ∀ call, system.calls call = .returned true → next.calls call = .returned true
  carried : ∀ call command, (next.calls call).carried = some command →
    (system.calls call).carried = some command

variable {system next : LinkSystem}

theorem calm_refl (system : LinkSystem) : Calm system system :=
  ⟨rfl, rfl, fun _ member => member, fun _ returned => returned, fun _ _ carried => carried⟩

theorem Calm.call (calm : Calm system next) (call : Nat) (phase : ForwardCall)
    (running : next.calls call ≠ .returned true ∨ phase = .returned true)
    (carried : ∀ command, phase.carried = some command →
      (system.calls call).carried = some command) :
    Calm system { next with calls := update next.calls call phase } := by
  refine ⟨calm.sent, calm.passes, calm.pending, ?_, ?_⟩
  · refine (forall_update_iff next.calls fun other now =>
      system.calls other = .returned true → now = .returned true).mpr
        ⟨fun returned => ?_, fun other _ => calm.returned other⟩
    exact running.elim (absurd (calm.returned call returned)) id
  exact (forall_update_iff next.calls fun other now => ∀ command,
    now.carried = some command → (system.calls other).carried = some command).mpr
      ⟨carried, fun other _ => calm.carried other⟩

theorem Calm.remove (calm : Calm system next) (requestId : String) (unmatched : List Work)
    (matched : PendingCommand → List Work) :
    Calm system (next.remove requestId unmatched matched) := by
  unfold LinkSystem.remove
  split
  · exact { calm with }
  rename_i entry rest found
  refine ⟨calm.sent, calm.passes, fun other member => ?_, calm.returned, calm.carried⟩
  exact calm.pending ((takePending_eq_some found).2.mem_iff.mpr (mem_cons_of_mem _ member))

theorem Calm.perform (calm : Calm system next) (piece : Work) :
    Calm system (next.perform piece) := by
  cases piece with
  | cancel | invoke => exact { calm with }
  | finish call => exact calm.call call (.returned true) (.inr rfl) fun _ wrong => by cases wrong

theorem calm_of_silent {action : LinkAction} (silent : action.silent = true)
    (taken : linkStep system action = some next) : Calm system next := by
  have start := calm_refl system
  cases linkStep_outcome taken with
  | @asyncWait call command linkId phase =>
    have waits := start.call call (.waiting command linkId)
      (.inl (by rw [phase]; exact fun wrong => by cases wrong))
      (by rw [phase]; exact fun _ carried => carried)
    exact { waits with }
  | refused phase =>
    exact start.call _ _ (.inl (by rw [phase]; exact fun wrong => by cases wrong))
      fun _ wrong => by cases wrong
  | @reject call command phase =>
    have withdraws := start.call call .withdrawing
      (.inl (by rw [phase]; exact fun wrong => by cases wrong)) fun _ wrong => by cases wrong
    exact withdraws.remove _ _ _
  | onFrame => exact start.remove _ _ _
  | fire | release | stop => exact { start with }
  | @expirePending timer =>
    have disarmed : Calm system { system with timers := update system.timers timer .done } :=
      { start with }
    exact disarmed.remove _ _ _
  | drain => exact { start with pending := nil_subset _ }
  | @work thread first rest =>
    have advanced : Calm system { system with threads := system.threads.set thread rest } :=
      { start with }
    exact advanced.perform first
  | skipped retries => rcases retries with rfl | ⟨_, _, _, rfl⟩ <;> cases silent
  | _ => cases silent

/-! ### What the journal notes -/

namespace Journal

variable {journal : Journal} {action : LinkAction}

theorem dispatches_record_of_sent (same : next.sent = journal.system.sent) :
    (journal.record action next).dispatches = journal.dispatches := by
  simp only [record, same, Nat.sub_self, take_zero, map_nil, nil_append]

theorem dispatches_record_cons {frame : SentCommand}
    (queued : next.sent = frame :: journal.system.sent) :
    (journal.record action next).dispatches =
      ⟨frame, journal.origin action⟩ :: journal.dispatches := by
  simp only [record, queued, length_cons, Nat.add_sub_cancel_left, take_succ_cons,
    take_zero, map_cons, map_nil, singleton_append]

theorem record_of_silent (silent : action.silent = true)
    (same : next.sent = journal.system.sent) :
    journal.record action next = { journal with system := next } := by
  have dispatches := @dispatches_record_of_sent next journal action same
  cases action <;> first | exact congrArg (Journal.mk next _ _) dispatches | cases silent

end Journal

end Wimi.Gateway
