/-
This file models how `MessageLinkManager` forwards the commands of the client
sessions to the Message nodes and hands their results back.

`Forward` puts the command into the map `pending` under its request id, registers
a wait on the deadline and queues the command on a link. The entry is taken out
of the map by whoever comes first: a result from a node, the expiry of the
deadline, the refusal of the link's queue, or `Stop`. Each of them takes it out
under the lock and then goes on without it: it cancels a timer and calls back.
`RetryPending` copies entries and sends them again without taking them out.

A step of the model is what one thread does between two points at which another
can come in. Which link is chosen, whether its queue has room, what the clock
says, when a timer fires and what a node answers are inputs of the step.
-/

import Wimi.Lib.Transition
import Wimi.Protocol

namespace Wimi.Gateway

open Function

/-! ### Commands and results -/

structure CommandEnvelope where
  requestId : String
  actorUid : Int
  connectionId : String
  connectionGeneration : UInt64
  serviceId : UInt32
  conversationId : Int
  deadlineUnixMs : Int
  packet : String
deriving DecidableEq, Repr

inductive ResultPacket where
  | error (error : ErrorCode) (message : String)
  | serialized (bytes : String)
deriving DecidableEq, Repr

structure CommandResult where
  requestId : String
  responseServiceId : UInt32
  error : Int
  retryable : Bool
  packet : ResultPacket
deriving DecidableEq, Repr

def localResult (requestId : String) (command : CommandEnvelope) (error : ErrorCode)
    (message : String) : CommandResult where
  requestId := requestId
  responseServiceId := getServiceResponseId command.serviceId
  error := error.code
  retryable := true
  packet := .error error message

def expiredResult (requestId : String) (command : CommandEnvelope) : CommandResult :=
  localResult requestId command .deadlineExceeded "message command deadline exceeded"

def rejectedResult (requestId : String) (command : CommandEnvelope) : CommandResult :=
  localResult requestId command .resourceExhausted "message stream queue is full"

def stoppingResult (command : CommandEnvelope) : CommandResult :=
  localResult command.requestId command .dependencyUnavailable "message links are stopping"

def canRetryOnAnotherMessageNode (serviceId : UInt32) : Bool :=
  serviceId = ServiceId.textSendReq || serviceId = ServiceId.groupTextSendReq ||
    serviceId = ServiceId.pullFriendListReq || serviceId = ServiceId.pullFriendApplyListReq ||
    serviceId = ServiceId.pullSessionMessageListReq ||
    serviceId = ServiceId.pullMessageListReq || serviceId = ServiceId.ack

/-! ### The state -/

/-- `PendingCommand`. The callback and the deadline timer are those of one call of `Forward`,
and the number of the call stands for both. -/
structure PendingCommand where
  command : CommandEnvelope
  forward : Nat
  linkId : String
  attempts : Nat := 0
deriving DecidableEq, Repr

inductive ForwardCall where
  | idle
  | registered (command : CommandEnvelope) (linkId : String)
  | waiting (command : CommandEnvelope) (linkId : String)
  | rejected (command : CommandEnvelope)
  | withdrawing
  | returned (accepted : Bool)
deriving DecidableEq, Repr

/-- The deadline timer of a call, with the request id its handler has captured. A queued
handler runs even when the timer is cancelled. -/
inductive DeadlineTimer where
  | unset
  | waiting (requestId : String)
  | queued (requestId : String)
  | done
deriving DecidableEq, Repr

structure SentCommand where
  nodeId : String
  forward : Nat
  command : CommandEnvelope
deriving DecidableEq, Repr

structure Completion where
  forward : Nat
  result : CommandResult
  producedFor : Nat
deriving DecidableEq, Repr

inductive Work where
  | cancel (forward : Nat)
  | invoke (completion : Completion)
  | finish (forward : Nat)
deriving DecidableEq, Repr

/-- Where a pass of `RetryPending` stands with the request id at hand. -/
inductive RetryPhase where
  | next
  | resend (failed : PendingCommand)
  | relink (requestId linkId : String)
deriving DecidableEq, Repr

structure RetryPass where
  failedNodeId : String := ""
  requestIds : List String := []
  phase : RetryPhase := .next
deriving DecidableEq, Repr

inductive StopPhase where
  | running
  | stopping
  | drained
deriving DecidableEq, Repr

structure LinkSystem where
  pending : List PendingCommand := []
  calls : Nat → ForwardCall := fun _ => .idle
  timers : Nat → DeadlineTimer := fun _ => .unset
  sent : List SentCommand := []
  passes : Nat → RetryPass := fun _ => {}
  threads : List (List Work) := []
  invoked : List Completion := []
  stop : StopPhase := .running

inductive LinkAction where
  | forward (call : Nat) (command : CommandEnvelope) (now : Int) (link : Option String)
  | asyncWait (call : Nat)
  | enqueue (call : Nat) (accepted : Bool)
  | reject (call : Nat)
  | onFrame (source : SentCommand) (result : CommandResult)
  | fire (timer : Nat)
  | expirePending (timer : Nat)
  | release (timer : Nat)
  | collect (pass : Nat) (failedNodeId : String)
  | copy (pass : Nat)
  | resend (pass : Nat) (now : Int) (link : Option String) (accepted : Bool)
  | relink (pass : Nat)
  | stop
  | drain
  | work (thread : Nat)
deriving DecidableEq, Repr

/-! ### The steps -/

def takePending (requestId : String) :
    List PendingCommand → Option (PendingCommand × List PendingCommand)
  | [] => none
  | entry :: rest =>
    if entry.command.requestId = requestId then some (entry, rest)
    else (takePending requestId rest).map fun found => (found.1, entry :: found.2)

def amendPending (requestId : String) (change : PendingCommand → PendingCommand)
    (pending : List PendingCommand) : List PendingCommand :=
  pending.map fun entry => if entry.command.requestId = requestId then change entry else entry

def DeadlineTimer.cancelled : DeadlineTimer → DeadlineTimer
  | .waiting _ => .done
  | timer => timer

def forward (system : LinkSystem) (call : Nat) (command : CommandEnvelope) (now : Int)
    (link : Option String) : LinkSystem :=
  let refused := { system with calls := update system.calls call (.returned false) }
  if command.requestId.isEmpty then refused
  else if command.deadlineUnixMs ≤ now then refused
  else
    match link with
    | none => refused
    | some linkId =>
      if system.pending.any fun entry => entry.command.requestId = command.requestId then refused
      else
        { system with
          pending := ⟨command, call, linkId, 0⟩ :: system.pending
          calls := update system.calls call (.registered command linkId) }

def LinkSystem.remove (system : LinkSystem) (requestId : String) (unmatched : List Work)
    (matched : PendingCommand → List Work) : LinkSystem :=
  match takePending requestId system.pending with
  | none => { system with threads := unmatched :: system.threads }
  | some (entry, rest) =>
    { system with pending := rest, threads := matched entry :: system.threads }

def reject (system : LinkSystem) (call : Nat) (command : CommandEnvelope) : LinkSystem :=
  { system with calls := update system.calls call .withdrawing }.remove
    command.requestId [.cancel call, .finish call] fun entry =>
      [.cancel call,
        .invoke ⟨entry.forward, rejectedResult command.requestId entry.command, call⟩,
        .finish call]

def onFrame (system : LinkSystem) (source : SentCommand) (result : CommandResult) : LinkSystem :=
  system.remove result.requestId [] fun entry =>
    [.cancel entry.forward, .invoke ⟨entry.forward, result, source.forward⟩]

def expirePending (system : LinkSystem) (timer : Nat) (requestId : String) : LinkSystem :=
  { system with timers := update system.timers timer .done }.remove
    requestId [] fun entry =>
      [.invoke ⟨entry.forward, expiredResult requestId entry.command, timer⟩]

def drain (system : LinkSystem) : LinkSystem :=
  { system with
    pending := []
    stop := .drained
    threads := (system.pending.flatMap fun entry =>
      [.cancel entry.forward,
        .invoke ⟨entry.forward, stoppingResult entry.command, entry.forward⟩]) ::
          system.threads }

def copyPending (system : LinkSystem) (pass : Nat) (failedNodeId requestId : String)
    (rest : List String) : LinkSystem :=
  let skipped :=
    { system with passes := update system.passes pass ⟨failedNodeId, rest, .next⟩ }
  match takePending requestId system.pending with
  | none => skipped
  | some (entry, _) =>
    if 1 ≤ entry.attempts ∨ ¬ canRetryOnAnotherMessageNode entry.command.serviceId then skipped
    else
      let failed := { entry with attempts := entry.attempts + 1 }
      { system with
        pending := amendPending requestId
          (fun found => { found with attempts := found.attempts + 1 }) system.pending
        passes := update system.passes pass ⟨failedNodeId, rest, .resend failed⟩ }

def resend (system : LinkSystem) (pass : Nat) (failedNodeId : String) (rest : List String)
    (failed : PendingCommand) (now : Int) (link : Option String) (accepted : Bool) :
    Option LinkSystem :=
  let skipped :=
    { system with passes := update system.passes pass ⟨failedNodeId, rest, .next⟩ }
  if 0 < failed.command.deadlineUnixMs ∧ failed.command.deadlineUnixMs ≤ now then some skipped
  else
    match link with
    | none => some skipped
    | some linkId =>
      if linkId = failedNodeId then none
      else if accepted then
        some
          { system with
            sent := ⟨linkId, failed.forward, failed.command⟩ :: system.sent
            passes := update system.passes pass
              ⟨failedNodeId, rest, .relink failed.command.requestId linkId⟩ }
      else some skipped

def LinkSystem.perform (system : LinkSystem) : Work → LinkSystem
  | .cancel timer =>
    { system with
      timers := update system.timers timer (system.timers timer).cancelled }
  | .invoke completion => { system with invoked := completion :: system.invoked }
  | .finish call =>
    { system with calls := update system.calls call (.returned true) }

def linkStep (system : LinkSystem) : LinkAction → Option LinkSystem
  | .forward call command now link =>
    match system.calls call with
    | .idle => some (forward system call command now link)
    | _ => none
  | .asyncWait call =>
    match system.calls call with
    | .registered command linkId =>
      some
        { system with
          timers := update system.timers call (.waiting command.requestId)
          calls := update system.calls call (.waiting command linkId) }
    | _ => none
  | .enqueue call accepted =>
    match system.calls call with
    | .waiting command linkId =>
      if accepted then
        some
          { system with
            sent := ⟨linkId, call, command⟩ :: system.sent
            calls := update system.calls call (.returned true) }
      else
        some { system with calls := update system.calls call (.rejected command) }
    | _ => none
  | .reject call =>
    match system.calls call with
    | .rejected command => some (reject system call command)
    | _ => none
  | .onFrame source result =>
    if source ∈ system.sent ∧ result.requestId = source.command.requestId then
      some (onFrame system source result)
    else none
  | .fire timer =>
    match system.timers timer with
    | .waiting requestId =>
      some { system with timers := update system.timers timer (.queued requestId) }
    | _ => none
  | .expirePending timer =>
    match system.timers timer with
    | .queued requestId => some (expirePending system timer requestId)
    | _ => none
  | .release timer =>
    if system.calls timer = .returned true ∧
        ¬ system.pending.any (fun entry => entry.forward = timer) then
      some
        { system with
          timers := update system.timers timer (system.timers timer).cancelled }
    else none
  | .collect pass failedNodeId =>
    match system.passes pass with
    | ⟨_, [], .next⟩ =>
      some
        { system with
          passes := update system.passes pass
            ⟨failedNodeId, (system.pending.filter fun entry => entry.linkId = failedNodeId).map
              fun entry => entry.command.requestId, .next⟩ }
    | _ => none
  | .copy pass =>
    match system.passes pass with
    | ⟨failedNodeId, requestId :: rest, .next⟩ =>
      some (copyPending system pass failedNodeId requestId rest)
    | _ => none
  | .resend pass now link accepted =>
    match system.passes pass with
    | ⟨failedNodeId, rest, .resend failed⟩ =>
      resend system pass failedNodeId rest failed now link accepted
    | _ => none
  | .relink pass =>
    match system.passes pass with
    | ⟨failedNodeId, rest, .relink requestId linkId⟩ =>
      some
        { system with
          pending := amendPending requestId (fun found => { found with linkId })
            system.pending
          passes := update system.passes pass ⟨failedNodeId, rest, .next⟩ }
    | _ => none
  | .stop =>
    match system.stop with
    | .running => some { system with stop := .stopping }
    | _ => none
  | .drain =>
    match system.stop with
    | .stopping => some (drain system)
    | _ => none
  | .work thread =>
    match system.threads[thread]? with
    | some (first :: rest) =>
      some ({ system with threads := system.threads.set thread rest }.perform first)
    | _ => none

/-! ### What a step can do -/

/-- The steps that are taken, with the states they lead to. `Forward` turns a call away or puts
its command into the map; the passes of `RetryPending` that go on without sending anything are one
case. -/
inductive LinkOutcome (system : LinkSystem) : LinkAction → LinkSystem → Prop
  | turnedAway {call : Nat} {command : CommandEnvelope} {now : Int} {link : Option String}
      (idle : system.calls call = .idle) :
      LinkOutcome system (.forward call command now link)
        { system with calls := update system.calls call (.returned false) }
  | registered {call : Nat} {command : CommandEnvelope} {now : Int} {link : Option String}
      {linkId : String} (idle : system.calls call = .idle)
      (free : ∀ entry ∈ system.pending, entry.command.requestId ≠ command.requestId) :
      LinkOutcome system (.forward call command now link)
        { system with
          pending := ⟨command, call, linkId, 0⟩ :: system.pending
          calls := update system.calls call (.registered command linkId) }
  | asyncWait {call : Nat} {command : CommandEnvelope} {linkId : String}
      (phase : system.calls call = .registered command linkId) :
      LinkOutcome system (.asyncWait call)
        { system with
          timers := update system.timers call (.waiting command.requestId)
          calls := update system.calls call (.waiting command linkId) }
  | enqueued {call : Nat} {command : CommandEnvelope} {linkId : String}
      (phase : system.calls call = .waiting command linkId) :
      LinkOutcome system (.enqueue call true)
        { system with
          sent := ⟨linkId, call, command⟩ :: system.sent
          calls := update system.calls call (.returned true) }
  | refused {call : Nat} {command : CommandEnvelope} {linkId : String}
      (phase : system.calls call = .waiting command linkId) :
      LinkOutcome system (.enqueue call false)
        { system with calls := update system.calls call (.rejected command) }
  | reject {call : Nat} {command : CommandEnvelope}
      (phase : system.calls call = .rejected command) :
      LinkOutcome system (.reject call) (reject system call command)
  | onFrame {source : SentCommand} {result : CommandResult} (sent : source ∈ system.sent)
      (answers : result.requestId = source.command.requestId) :
      LinkOutcome system (.onFrame source result) (onFrame system source result)
  | fire {timer : Nat} {requestId : String} (waiting : system.timers timer = .waiting requestId) :
      LinkOutcome system (.fire timer)
        { system with timers := update system.timers timer (.queued requestId) }
  | expirePending {timer : Nat} {requestId : String}
      (queued : system.timers timer = .queued requestId) :
      LinkOutcome system (.expirePending timer) (expirePending system timer requestId)
  | release {timer : Nat}
      (unneeded : ¬ system.pending.any fun entry => entry.forward = timer) :
      LinkOutcome system (.release timer)
        { system with
          timers := update system.timers timer (system.timers timer).cancelled }
  | collected {pass : Nat} {failedNodeId : String} :
      LinkOutcome system (.collect pass failedNodeId)
        { system with
          passes := update system.passes pass
            ⟨failedNodeId, (system.pending.filter fun entry => entry.linkId = failedNodeId).map
              fun entry => entry.command.requestId, .next⟩ }
  | skipped {action : LinkAction} {pass : Nat} {rest : List String}
      (retries : action = .copy pass ∨ ∃ now link accepted, action = .resend pass now link accepted)
      (left : rest ⊆ (system.passes pass).requestIds) :
      LinkOutcome system action
        { system with
          passes := update system.passes pass
            ⟨(system.passes pass).failedNodeId, rest, .next⟩ }
  | copied {pass : Nat} {requestId : String} {rest : List String} {entry : PendingCommand}
      {others : List PendingCommand}
      (list : (system.passes pass).requestIds = requestId :: rest)
      (found : takePending requestId system.pending = some (entry, others))
      (fresh : entry.attempts = 0)
      (retriable : canRetryOnAnotherMessageNode entry.command.serviceId = true) :
      LinkOutcome system (.copy pass)
        { system with
          pending := amendPending requestId
            (fun found => { found with attempts := found.attempts + 1 }) system.pending
          passes := update system.passes pass
            ⟨(system.passes pass).failedNodeId, rest,
              .resend { entry with attempts := entry.attempts + 1 }⟩ }
  | resent {pass : Nat} {now : Int} {link : Option String} {accepted : Bool} {linkId : String}
      {failed : PendingCommand} (phase : (system.passes pass).phase = .resend failed)
      (elsewhere : linkId ≠ (system.passes pass).failedNodeId) :
      LinkOutcome system (.resend pass now link accepted)
        { system with
          sent := ⟨linkId, failed.forward, failed.command⟩ :: system.sent
          passes := update system.passes pass
            ⟨(system.passes pass).failedNodeId, (system.passes pass).requestIds,
              .relink failed.command.requestId linkId⟩ }
  | relink {pass : Nat} {requestId linkId : String} :
      LinkOutcome system (.relink pass)
        { system with
          pending := amendPending requestId (fun found => { found with linkId }) system.pending
          passes := update system.passes pass
            ⟨(system.passes pass).failedNodeId, (system.passes pass).requestIds, .next⟩ }
  | stop : LinkOutcome system .stop { system with stop := .stopping }
  | drain : LinkOutcome system .drain (drain system)
  | work {thread : Nat} {first : Work} {rest : List Work}
      (running : system.threads[thread]? = some (first :: rest)) :
      LinkOutcome system (.work thread)
        ({ system with threads := system.threads.set thread rest }.perform first)

variable {system next : LinkSystem}

theorem forward_outcome {call : Nat} {command : CommandEnvelope} {now : Int} {link : Option String}
    (idle : system.calls call = .idle) :
    LinkOutcome system (.forward call command now link) (forward system call command now link) := by
  unfold forward
  split
  · exact .turnedAway idle
  split
  · exact .turnedAway idle
  split
  · exact .turnedAway idle
  split
  · exact .turnedAway idle
  · exact .registered idle (by grind)

theorem copyPending_outcome {pass : Nat} {failedNodeId requestId : String} {rest : List String}
    (before : system.passes pass = ⟨failedNodeId, requestId :: rest, .next⟩) :
    LinkOutcome system (.copy pass) (copyPending system pass failedNodeId requestId rest) := by
  have list : (system.passes pass).requestIds = requestId :: rest := by rw [before]
  obtain rfl : (system.passes pass).failedNodeId = failedNodeId := by rw [before]
  have skip := @LinkOutcome.skipped system _ pass rest (.inl rfl)
    (list ▸ fun _ => List.mem_cons_of_mem _)
  unfold copyPending
  split
  · exact skip
  rename_i entry others found
  split
  · exact skip
  rename_i retries
  obtain ⟨fresh, retriable⟩ := not_or.mp retries
  exact .copied list found (by omega) (not_not.mp retriable)

theorem resend_outcome {pass : Nat} {failedNodeId : String} {rest : List String}
    {failed : PendingCommand} {now : Int} {link : Option String} {accepted : Bool}
    (before : system.passes pass = ⟨failedNodeId, rest, .resend failed⟩)
    (taken : resend system pass failedNodeId rest failed now link accepted = some next) :
    LinkOutcome system (.resend pass now link accepted) next := by
  obtain rfl : (system.passes pass).failedNodeId = failedNodeId := by rw [before]
  obtain rfl : (system.passes pass).requestIds = rest := by rw [before]
  have skip := @LinkOutcome.skipped system _ pass _ (.inr ⟨now, link, accepted, rfl⟩) fun _ => id
  unfold resend at taken
  split at taken
  · cases taken
    exact skip
  split at taken
  · cases taken
    exact skip
  split at taken
  · cases taken
  rename_i elsewhere
  split at taken
  · cases taken
    exact .resent (congrArg RetryPass.phase before) elsewhere
  · cases taken
    exact skip

/-- Every step that is taken is one of these. -/
theorem linkStep_outcome {action : LinkAction} (taken : linkStep system action = some next) :
    LinkOutcome system action next := by
  cases action with simp only [linkStep] at taken
  | resend pass now link accepted =>
    split at taken
    · exact resend_outcome ‹_› taken
    · cases taken
  | enqueue call accepted =>
    split at taken
    · rename_i phase
      cases accepted <;> cases taken
      · exact .refused phase
      · exact .enqueued phase
    · cases taken
  | forward call command now link =>
    split at taken <;> cases taken
    exact forward_outcome ‹_›
  | asyncWait call =>
    split at taken <;> cases taken
    exact .asyncWait ‹_›
  | reject call =>
    split at taken <;> cases taken
    exact .reject ‹_›
  | onFrame source result =>
    split at taken <;> cases taken
    rename_i answers
    exact .onFrame answers.1 answers.2
  | fire timer =>
    split at taken <;> cases taken
    exact .fire ‹_›
  | expirePending timer =>
    split at taken <;> cases taken
    exact .expirePending ‹_›
  | release timer =>
    split at taken <;> cases taken
    rename_i released
    exact .release released.2
  | collect pass failedNodeId =>
    split at taken <;> cases taken
    exact .collected
  | copy pass => grind [linkStep, copyPending_outcome]
  | relink pass =>
    split at taken <;> cases taken
    rename_i failedNodeId rest requestId linkId phase
    have before : (⟨failedNodeId, rest, .next⟩ : RetryPass) =
      ⟨(system.passes pass).failedNodeId, (system.passes pass).requestIds, .next⟩ := by rw [phase]
    rw [before]
    exact .relink
  | stop =>
    split at taken <;> cases taken
    exact .stop
  | drain =>
    split at taken <;> cases taken
    exact .drain
  | work thread =>
    split at taken <;> cases taken
    exact .work ‹_›

end Wimi.Gateway
