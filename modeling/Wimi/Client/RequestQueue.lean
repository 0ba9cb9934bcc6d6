/-
This file is about what `ConnectionGatewayClient` writes to its socket: which requests,
how often and in which order, over any number of connections.

Requests wait in a queue for each response service. A request is written when it comes
to the front: by `QueueRequest` when the queue was empty, or when the request before it
is completed or has timed out. In between the client emits a signal, and the slots
connected to it may queue further requests. A request that a slot puts into a queue the
signal has just emptied is written by `QueueRequest`, and once more by the code behind
the signal, which only sees that the queue is not empty. This is the one way a request
is written twice.

When the socket is disconnected all requests fail one after the other while the client
still counts as ready; what slots queue then is not written, because there is nothing to
write to. The model of one ready connection is this client without that: its runs are runs
of this one.
-/

import Wimi.Client.Connection

namespace Wimi.Client.RequestQueue

open Function List Option Transition

/-! ### The client -/

structure QueueCall where
  request : NewRequest
  serializes : Bool := true
deriving DecidableEq, Repr

/-- Whether the client is ready, whether the socket takes what is written, the queues and timers
by response service, the services that have a queue, and the number of the next request. While
the requests of a lost connection fail, `failing` holds the number at which newer requests
begin. Beside these stand the requests that were written, in order, and the numbers of those
that were answered, timed out or failed. -/
structure RequestClient where
  ready : Bool := false
  connected : Bool := false
  failing : Option Nat := none
  pending : UInt32 → List PendingRequest := fun _ => []
  services : List UInt32 := []
  timers : UInt32 → Bool := fun _ => false
  nextRequestId : Nat := 0
  written : List PendingRequest := []
  resolved : List Nat := []

namespace RequestClient

def sendFront (client : RequestClient) (responseServiceId : UInt32) : RequestClient :=
  match client.pending responseServiceId with
  | [] => client
  | pending :: _ =>
    if client.ready then
      { client with
        written := if client.connected then client.written ++ [pending] else client.written
        timers := update client.timers responseServiceId true }
    else client

def newPending (client : RequestClient) (request : NewRequest) : PendingRequest :=
  ⟨client.nextRequestId, request.serviceId, responseFor request.serviceId, request.payload,
    request.timeoutMilliseconds⟩

def enqueue (client : RequestClient) (request : NewRequest) : RequestClient :=
  let responseServiceId := responseFor request.serviceId
  { client with
    pending := update client.pending responseServiceId
      (client.pending responseServiceId ++ [client.newPending request])
    services := responseServiceId :: client.services
    nextRequestId := client.nextRequestId + 1 }

def refuse (client : RequestClient) : RequestClient :=
  { client with
    nextRequestId := client.nextRequestId + 1
    resolved := client.resolved ++ [client.nextRequestId] }

def queueRequest (client : RequestClient) (call : QueueCall) : RequestClient :=
  if client.ready ∧ call.serializes then
    if client.pending (responseFor call.request.serviceId) = [] then
      (client.enqueue call.request).sendFront (responseFor call.request.serviceId)
    else client.enqueue call.request
  else client.refuse

def dequeue (client : RequestClient) (responseServiceId : UInt32) (front : PendingRequest)
    (rest : List PendingRequest) : RequestClient :=
  { client with
    pending := update client.pending responseServiceId rest
    timers := update client.timers responseServiceId false
    resolved := client.resolved ++ [front.requestId] }

def finishFront (client : RequestClient) (responseServiceId : UInt32) (calls : List QueueCall) :
    RequestClient :=
  match client.pending responseServiceId with
  | [] => client
  | front :: rest =>
    (calls.foldl queueRequest (client.dequeue responseServiceId front rest)).sendFront
      responseServiceId

def requestTimeout (client : RequestClient) (responseServiceId : UInt32)
    (calls : List QueueCall) : RequestClient :=
  { client with timers := update client.timers responseServiceId false }.finishFront
    responseServiceId calls

def failFront (client : RequestClient) (responseServiceId : UInt32) (calls : List QueueCall) :
    RequestClient :=
  match client.pending responseServiceId with
  | [] => client
  | front :: rest => calls.foldl queueRequest (client.dequeue responseServiceId front rest)

def Drained (client : RequestClient) (newer : Nat) : Prop :=
  ∀ responseServiceId ∈ client.services, ∀ pending ∈ client.pending responseServiceId,
    newer ≤ pending.requestId

instance (client : RequestClient) (newer : Nat) : Decidable (client.Drained newer) :=
  inferInstanceAs (Decidable (∀ responseServiceId ∈ client.services,
    ∀ pending ∈ client.pending responseServiceId, newer ≤ pending.requestId))

end RequestClient

/-- What happens to a client. Every signal comes with the calls its slots make. -/
inductive Action where
  | setReady (ready : Bool)
  | socket (connected : Bool)
  | queue (call : QueueCall)
  | response (responseServiceId : UInt32) (calls : List QueueCall)
  | timeout (responseServiceId : UInt32) (calls : List QueueCall)
  | disconnected
  | failFront (responseServiceId : UInt32) (calls : List QueueCall)
  | failed
deriving DecidableEq, Repr

/-- `disconnected` begins the slot of that signal: it stops the timers, lets the requests fail
one by one, and at the end drops what the slots have queued meanwhile. Nothing else happens
before it is over. -/
def step (client : RequestClient) (action : Action) : Option RequestClient :=
  match client.failing, action with
  | none, .setReady ready => some { client with ready }
  | none, .socket connected => some { client with connected }
  | none, .queue call => some (client.queueRequest call)
  | none, .response responseServiceId calls => some (client.finishFront responseServiceId calls)
  | none, .timeout responseServiceId calls =>
    if client.timers responseServiceId then some (client.requestTimeout responseServiceId calls)
    else none
  | none, .disconnected =>
    some { client with
      connected := false
      failing := some client.nextRequestId
      timers := fun _ => false }
  | some _, .failFront responseServiceId calls => some (client.failFront responseServiceId calls)
  | some newer, .failed =>
    if client.Drained newer then
      some { client with
        failing := none, ready := false, pending := fun _ => [], services := [] }
    else none
  | _, _ => none

/-! ### One copy -/

/-- Every request was written at most once, at most one request of a response service is written
and not yet answered, timed out or failed, and the requests of a response service were written in
the order in which they were queued. -/
structure OneCopy (client : RequestClient) : Prop where
  once : (client.written.map (·.requestId)).Nodup
  single : ∀ one ∈ client.written, ∀ other ∈ client.written,
    one.responseServiceId = other.responseServiceId → one.requestId ∉ client.resolved →
      other.requestId ∉ client.resolved → one = other
  ordered : client.written.Pairwise fun earlier later =>
    earlier.responseServiceId = later.responseServiceId → earlier.requestId ≤ later.requestId

def QueueCall.Joins (call : QueueCall) (responseServiceId : UInt32) : Prop :=
  call.serializes ∧ responseFor call.request.serviceId = responseServiceId

instance (call : QueueCall) (responseServiceId : UInt32) :
    Decidable (call.Joins responseServiceId) :=
  inferInstanceAs (Decidable (_ ∧ _))

/-- The slots of a signal about the only request of a service queue nothing for that service
while the client can send. -/
def NoneRejoins (client : RequestClient) : Action → Prop
  | .response responseServiceId calls | .timeout responseServiceId calls =>
    client.ready → client.connected → (client.pending responseServiceId).length = 1 →
      ∀ call ∈ calls, ¬ call.Joins responseServiceId
  | _ => True

instance (client : RequestClient) : (action : Action) → Decidable (NoneRejoins client action)
  | .response responseServiceId calls | .timeout responseServiceId calls =>
    inferInstanceAs (Decidable (client.ready → client.connected →
      (client.pending responseServiceId).length = 1 →
        ∀ call ∈ calls, ¬ call.Joins responseServiceId))
  | .setReady _ | .socket _ | .queue _ | .disconnected | .failFront _ _ | .failed =>
    inferInstanceAs (Decidable True)

/-! ### What the functions of the client change -/

namespace RequestClient

variable (client : RequestClient) (responseServiceId : UInt32) (call : QueueCall)

theorem sendFront_written : (client.sendFront responseServiceId).written =
    if client.ready ∧ client.connected then
      client.written ++ (client.pending responseServiceId).head?.toList
    else client.written := by
  unfold sendFront
  cases client.pending responseServiceId with
  | nil => simp
  | cons front rest =>
    by_cases ready : client.ready <;> by_cases connected : client.connected <;>
      simp [ready]

theorem sendFront_eq : ∃ written timers, client.sendFront responseServiceId =
    { client with written, timers } := by
  unfold sendFront
  split
  · exact ⟨client.written, client.timers, rfl⟩
  split
  · exact ⟨_, _, rfl⟩
  · exact ⟨client.written, client.timers, rfl⟩

@[simp] theorem sendFront_pending :
    (client.sendFront responseServiceId).pending = client.pending := by
  obtain ⟨written, timers, sent⟩ := client.sendFront_eq responseServiceId
  rw [sent]

theorem queueRequest_eq : ∃ written timers pending services resolved,
    client.queueRequest call =
      { client with
        written, timers, pending, services
        resolved, nextRequestId := client.nextRequestId + 1 } := by
  unfold queueRequest
  split
  · split
    · obtain ⟨written, timers, sent⟩ := (client.enqueue call.request).sendFront_eq
        (responseFor call.request.serviceId)
      rw [sent]
      exact ⟨_, _, _, _, _, rfl⟩
    · exact ⟨_, _, _, _, _, rfl⟩
  · exact ⟨_, _, _, _, _, rfl⟩

@[simp] theorem queueRequest_ready : (client.queueRequest call).ready = client.ready := by
  obtain ⟨_, _, _, _, _, queued⟩ := client.queueRequest_eq call
  rw [queued]

@[simp] theorem queueRequest_connected :
    (client.queueRequest call).connected = client.connected := by
  obtain ⟨_, _, _, _, _, queued⟩ := client.queueRequest_eq call
  rw [queued]

@[simp] theorem queueRequest_nextRequestId :
    (client.queueRequest call).nextRequestId = client.nextRequestId + 1 := by
  obtain ⟨_, _, _, _, _, queued⟩ := client.queueRequest_eq call
  rw [queued]

theorem enqueue_pending (request : NewRequest) :
    (client.enqueue request).pending responseServiceId =
      if responseFor request.serviceId = responseServiceId then
        client.pending responseServiceId ++ [client.newPending request]
      else client.pending responseServiceId := by
  simp only [enqueue, update_apply, eq_comm (a := responseServiceId)]
  split
  · rename_i same
    rw [same]
  · rfl

theorem queueRequest_pending : (client.queueRequest call).pending responseServiceId =
    if client.ready ∧ call.Joins responseServiceId then
      client.pending responseServiceId ++ [client.newPending call.request]
    else client.pending responseServiceId := by
  unfold queueRequest QueueCall.Joins
  by_cases ready : client.ready <;> by_cases serializes : call.serializes
  · simp only [ready, serializes, if_true, true_and]
    split
    · rw [sendFront_pending, client.enqueue_pending]
    · rw [client.enqueue_pending]
  all_goals simp [ready, serializes, refuse]

theorem queueRequest_written : (client.queueRequest call).written =
    if client.ready ∧ client.connected ∧ call.serializes ∧
        client.pending (responseFor call.request.serviceId) = [] then
      client.written ++ [client.newPending call.request]
    else client.written := by
  unfold queueRequest
  by_cases ready : client.ready <;> by_cases serializes : call.serializes
  · by_cases empty : client.pending (responseFor call.request.serviceId) = []
    · simp only [ready, serializes, empty, and_true, if_true, true_and]
      rw [sendFront_written, client.enqueue_pending, empty]
      simp [enqueue, ready]
    · simp [ready, serializes, empty, enqueue]
  all_goals simp [ready, serializes, refuse]

end RequestClient

/-! ### What a client keeps -/

def Known (client : RequestClient) (request : PendingRequest) : Prop :=
  request ∈ client.written ∨ request ∈ client.pending request.responseServiceId

structure Tidy (client : RequestClient) : Prop where
  keyed : ∀ responseServiceId, ∀ pending ∈ client.pending responseServiceId,
    pending.responseServiceId = responseServiceId
  listed : ∀ responseServiceId, client.pending responseServiceId ≠ [] →
    responseServiceId ∈ client.services
  increasing : ∀ responseServiceId, (client.pending responseServiceId).Pairwise
    fun earlier later => earlier.requestId < later.requestId
  drawn : ∀ request, Known client request → request.requestId < client.nextRequestId
  identified : ∀ one other, Known client one → Known client other →
    one.requestId = other.requestId → one = other
  behind : ∀ earlier ∈ client.written, ∀ pending ∈ client.pending earlier.responseServiceId,
    earlier.requestId ≤ pending.requestId
  front : ∀ unanswered ∈ client.written, unanswered.requestId ∉ client.resolved →
    (client.pending unanswered.responseServiceId).head? = some unanswered
  ordered : client.written.Pairwise fun earlier later =>
    earlier.responseServiceId = later.responseServiceId → earlier.requestId ≤ later.requestId
  silent : ∀ newer ∈ client.failing, client.connected = false ∧
    ∀ request ∈ client.written, request.requestId < newer

theorem Tidy.start : Tidy {} := by
  constructor <;> simp [Known]

variable {request front : PendingRequest} {rest : List PendingRequest}
  {client next : RequestClient} {responseServiceId : UInt32} {action : Action}
  {calls : List QueueCall}

section

variable (tidy : Tidy client)
include tidy

theorem Known.pending (waits : request ∈ client.pending responseServiceId) :
    Known client request := by
  right
  rwa [tidy.keyed responseServiceId request waits]

theorem Tidy.setTimers (timers : UInt32 → Bool) : Tidy { client with timers } :=
  { tidy with }

theorem Tidy.write (waits : client.pending responseServiceId = front :: rest)
    (connected : client.connected) : Tidy { client with written := client.written ++ [front] } := by
  have member : front ∈ client.pending responseServiceId := by simp [waits]
  have service : front.responseServiceId = responseServiceId :=
    tidy.keyed responseServiceId front member
  have known : ∀ request, Known { client with written := client.written ++ [front] } request →
      Known client request := by
    rintro request (written | pending)
    · rcases mem_append.mp written with earlier | last
      · exact .inl earlier
      · rw [mem_singleton.mp last]
        exact .pending tidy member
    · exact .inr pending
  refine
    { tidy with
      drawn := fun request reached => tidy.drawn request (known request reached)
      identified := fun one other reachedOne reachedOther =>
        tidy.identified one other (known one reachedOne) (known other reachedOther)
      behind := ?_, front := ?_, ordered := ?_, silent := ?_ }
  · intro earlier written pending queued
    rcases mem_append.mp written with before | last
    · exact tidy.behind earlier before pending queued
    rw [mem_singleton.mp last, service, waits] at queued
    rw [mem_singleton.mp last]
    rcases mem_cons.mp queued with rfl | later
    · exact le_rfl
    have increasing := tidy.increasing responseServiceId
    rw [waits] at increasing
    exact (rel_of_pairwise_cons increasing later).le
  · intro unanswered written unresolved
    rcases mem_append.mp written with before | last
    · exact tidy.front unanswered before unresolved
    · rw [mem_singleton.mp last, service, waits]
      rfl
  · refine pairwise_append.mpr ⟨tidy.ordered, pairwise_singleton _ _, ?_⟩
    intro earlier before last same shared
    rw [mem_singleton.mp same] at shared ⊢
    refine tidy.behind earlier before front ?_
    rwa [shared, service]
  intro newer failing
  rw [(tidy.silent newer failing).1] at connected
  exact absurd connected Bool.false_ne_true

theorem Tidy.sendFront (responseServiceId : UInt32) :
    Tidy (client.sendFront responseServiceId) := by
  unfold RequestClient.sendFront
  split
  · exact tidy
  rename_i front rest waits
  split
  · by_cases connected : client.connected
    · rw [if_pos connected]
      exact (tidy.write waits connected).setTimers _
    · rw [if_neg connected]
      exact tidy.setTimers _
  · exact tidy

theorem Tidy.refuse : Tidy client.refuse :=
  { tidy with
    drawn := fun request known => Nat.lt_succ_of_lt (tidy.drawn request known)
    front := fun unanswered written unresolved => tidy.front unanswered written
      fun resolved => unresolved (mem_append_left _ resolved) }

end

theorem Known.of_enqueue {request : NewRequest} {found : PendingRequest}
    (known : Known (client.enqueue request) found) :
    Known client found ∨ found = client.newPending request := by
  rcases known with written | waits
  · exact .inl (.inl written)
  simp only [RequestClient.enqueue, update_apply] at waits
  split at waits
  · rename_i same
    rcases mem_append.mp waits with before | last
    · exact .inl (.inr (same ▸ before))
    · exact .inr (mem_singleton.mp last)
  · exact .inl (.inr waits)

section

variable (tidy : Tidy client)
include tidy

theorem Tidy.enqueue (request : NewRequest) : Tidy (client.enqueue request) where
  keyed := by
    intro responseServiceId pending waits
    simp only [RequestClient.enqueue, update_apply] at waits
    split at waits
    · rename_i same
      rcases mem_append.mp waits with before | last
      · rw [same]
        exact tidy.keyed _ pending before
      · rw [mem_singleton.mp last, same]
        rfl
    · exact tidy.keyed responseServiceId pending waits
  listed := by
    intro responseServiceId waits
    simp only [RequestClient.enqueue, update_apply] at waits
    split at waits
    · rename_i same
      exact mem_cons.mpr (.inl same)
    · exact mem_cons_of_mem _ (tidy.listed responseServiceId waits)
  increasing := by
    intro responseServiceId
    simp only [RequestClient.enqueue, update_apply]
    split
    · refine pairwise_append.mpr ⟨tidy.increasing _, pairwise_singleton _ _, ?_⟩
      intro earlier before last same
      rw [mem_singleton.mp same]
      exact tidy.drawn earlier (.pending tidy before)
    · exact tidy.increasing responseServiceId
  drawn := by
    intro found known
    rcases known.of_enqueue with before | rfl
    · exact Nat.lt_succ_of_lt (tidy.drawn found before)
    · exact Nat.lt_succ_self _
  identified := by
    intro one other knownOne knownOther same
    rcases knownOne.of_enqueue with beforeOne | rfl <;>
      rcases knownOther.of_enqueue with beforeOther | rfl
    · exact tidy.identified one other beforeOne beforeOther same
    · exact absurd same (tidy.drawn one beforeOne).ne
    · exact absurd same.symm (tidy.drawn other beforeOther).ne
    · rfl
  behind := by
    intro earlier written pending waits
    simp only [RequestClient.enqueue, update_apply] at waits
    split at waits
    · rename_i same
      rcases mem_append.mp waits with before | last
      · exact tidy.behind earlier written pending (same ▸ before)
      · rw [mem_singleton.mp last]
        exact (tidy.drawn earlier (.inl written)).le
    · exact tidy.behind earlier written pending waits
  front := by
    intro unanswered written unresolved
    have first := tidy.front unanswered written unresolved
    simp only [RequestClient.enqueue, update_apply]
    split
    · rename_i same
      rw [same] at first
      rw [head?_append, first]
      rfl
    · exact first
  ordered := tidy.ordered
  silent := tidy.silent

theorem Tidy.queueRequest (call : QueueCall) : Tidy (client.queueRequest call) := by
  unfold RequestClient.queueRequest
  split
  · split
    · exact (tidy.enqueue call.request).sendFront _
    · exact tidy.enqueue call.request
  · exact tidy.refuse

theorem Tidy.queueRequests (calls : List QueueCall) :
    Tidy (calls.foldl RequestClient.queueRequest client) := by
  induction calls generalizing client with
  | nil => exact tidy
  | cons call rest inductionHypothesis => exact inductionHypothesis (tidy.queueRequest call)

end

theorem sublist_of_dequeue (waits : client.pending responseServiceId = front :: rest)
    (other : UInt32) :
    ((client.dequeue responseServiceId front rest).pending other).Sublist
      (client.pending other) := by
  simp only [RequestClient.dequeue, update_apply]
  split
  · rename_i same
    rw [same, waits]
    exact sublist_cons_self front rest
  · exact List.Sublist.refl _

section

variable (tidy : Tidy client)
include tidy

theorem Tidy.dequeue (waits : client.pending responseServiceId = front :: rest) :
    Tidy (client.dequeue responseServiceId front rest) := by
  have part := sublist_of_dequeue waits
  have known : ∀ request, Known (client.dequeue responseServiceId front rest) request →
      Known client request := fun request reached => reached.imp_right fun found =>
    (part request.responseServiceId).subset found
  refine
    { tidy with
      keyed := fun other pending found => tidy.keyed other pending ((part other).subset found)
      listed := fun other some => tidy.listed other fun none =>
        some (sublist_nil.mp (none ▸ part other))
      increasing := fun other => (tidy.increasing other).sublist (part other)
      drawn := fun request reached => tidy.drawn request (known request reached)
      identified := fun one other reachedOne reachedOther =>
        tidy.identified one other (known one reachedOne) (known other reachedOther)
      behind := fun earlier written pending found =>
        tidy.behind earlier written pending ((part _).subset found)
      front := ?_ }
  intro unanswered written unresolved
  have first := tidy.front unanswered written fun resolved =>
    unresolved (mem_append_left _ resolved)
  simp only [RequestClient.dequeue, update_apply]
  split
  · -- The front of this queue is resolved now.
    rename_i same
    rw [same, waits, head?_cons, some.injEq] at first
    exact absurd (mem_append_right _ (first ▸ mem_singleton_self _)) unresolved
  · exact first

theorem Tidy.finishFront (responseServiceId : UInt32) (calls : List QueueCall) :
    Tidy (client.finishFront responseServiceId calls) := by
  unfold RequestClient.finishFront
  split
  · exact tidy
  · rename_i front rest waits
    exact ((tidy.dequeue waits).queueRequests calls).sendFront responseServiceId

theorem Tidy.failFront (responseServiceId : UInt32) (calls : List QueueCall) :
    Tidy (client.failFront responseServiceId calls) := by
  unfold RequestClient.failFront
  split
  · exact tidy
  · rename_i front rest waits
    exact (tidy.dequeue waits).queueRequests calls

theorem Tidy.resolved_of_drained {newer : Nat} (failing : client.failing = some newer)
    (drained : client.Drained newer) (written : request ∈ client.written) :
    request.requestId ∈ client.resolved := by
  by_contra unresolved
  have first := tidy.front request written unresolved
  have waits : request ∈ client.pending request.responseServiceId := mem_of_mem_head? first
  have older := (tidy.silent newer failing).2 request written
  have listed := tidy.listed request.responseServiceId (ne_nil_of_mem waits)
  exact absurd (drained _ listed request waits) (not_le.mpr older)

theorem Tidy.failed {newer : Nat} (failing : client.failing = some newer)
    (drained : client.Drained newer) : Tidy { client with
      failing := none, ready := false, pending := fun _ => [], services := [] } where
  keyed := by simp
  listed := by simp
  increasing := by simp
  drawn := fun request known => tidy.drawn request (known.imp_right (by simp))
  identified := fun one other knownOne knownOther =>
    tidy.identified one other (knownOne.imp_right (by simp)) (knownOther.imp_right (by simp))
  behind := by simp
  front := fun unanswered written unresolved =>
    absurd (tidy.resolved_of_drained failing drained written) unresolved
  ordered := tidy.ordered
  silent := by simp

end

/-- What a step does: it runs one of the functions of the client, or changes a flag. -/
inductive Outcome (client : RequestClient) : Action → RequestClient → Prop
  | setReady (ready : Bool) : Outcome client (.setReady ready) { client with ready }
  | socket (idle : client.failing = none) (connected : Bool) :
      Outcome client (.socket connected) { client with connected }
  | queue (call : QueueCall) : Outcome client (.queue call) (client.queueRequest call)
  | response (responseServiceId : UInt32) (calls : List QueueCall) :
      Outcome client (.response responseServiceId calls)
        (client.finishFront responseServiceId calls)
  | timeout (responseServiceId : UInt32) (calls : List QueueCall) :
      Outcome client (.timeout responseServiceId calls)
        (client.requestTimeout responseServiceId calls)
  | disconnected : Outcome client .disconnected
      { client with
        connected := false
        failing := some client.nextRequestId
        timers := fun _ => false }
  | failFront (responseServiceId : UInt32) (calls : List QueueCall) :
      Outcome client (.failFront responseServiceId calls)
        (client.failFront responseServiceId calls)
  | failed {newer : Nat} (failing : client.failing = some newer) (drained : client.Drained newer) :
      Outcome client .failed
        { client with failing := none, ready := false, pending := fun _ => [], services := [] }

theorem step_outcome (taken : step client action = some next) : Outcome client action next := by
  unfold step at taken
  split at taken
  · exact some.inj taken ▸ .setReady _
  · rename_i idle
    exact some.inj taken ▸ .socket idle _
  · exact some.inj taken ▸ .queue _
  · exact some.inj taken ▸ .response _ _
  · split at taken
    · exact some.inj taken ▸ .timeout _ _
    · cases taken
  · exact some.inj taken ▸ .disconnected
  · exact some.inj taken ▸ .failFront _ _
  · rename_i failing
    split at taken
    · rename_i drained
      exact some.inj taken ▸ .failed failing drained
    · cases taken
  · cases taken

theorem Tidy.step (tidy : Tidy client) (taken : step client action = some next) : Tidy next := by
  cases step_outcome taken with
  | setReady ready => exact { tidy with }
  | socket idle connected =>
    refine { tidy with silent := fun newer failing => ?_ }
    simp [idle] at failing
  | queue call => exact tidy.queueRequest call
  | response responseServiceId calls => exact tidy.finishFront responseServiceId calls
  | timeout responseServiceId calls =>
    exact (tidy.setTimers _).finishFront responseServiceId calls
  | disconnected =>
    refine { tidy with silent := fun newer failing => ⟨rfl, fun request written => ?_⟩ }
    cases failing
    exact tidy.drawn request (.inl written)
  | failFront responseServiceId calls => exact tidy.failFront responseServiceId calls
  | failed failing drained => exact tidy.failed failing drained

/-! ### When a request is written twice -/

def Once (client : RequestClient) : Prop :=
  (client.written.map (·.requestId)).Nodup

theorem nodup_append_request {written : List PendingRequest} :
    ((written ++ [request]).map (·.requestId)).Nodup ↔
      (written.map (·.requestId)).Nodup ∧
        ∀ earlier ∈ written, earlier.requestId ≠ request.requestId := by
  rw [map_append, nodup_append]
  simp

theorem Tidy.once_queueRequest (tidy : Tidy client) (call : QueueCall) :
    Once (client.queueRequest call) ↔ Once client := by
  unfold Once
  rw [client.queueRequest_written call]
  split
  · rw [nodup_append_request, and_iff_left]
    exact fun earlier written => (tidy.drawn earlier (.inl written)).ne
  · rfl

theorem Tidy.once_queueRequests (tidy : Tidy client) (calls : List QueueCall) :
    Once (calls.foldl RequestClient.queueRequest client) ↔ Once client := by
  induction calls generalizing client with
  | nil => rfl
  | cons call rest inductionHypothesis =>
    rw [foldl_cons, inductionHypothesis (tidy.queueRequest call), tidy.once_queueRequest call]

structure Grows (client next : RequestClient) : Prop where
  ready : next.ready = client.ready
  connected : next.connected = client.connected
  number : client.nextRequestId ≤ next.nextRequestId
  pending : ∀ responseServiceId,
    client.pending responseServiceId <+: next.pending responseServiceId
  written : client.written ⊆ next.written
  fresh : ∀ request ∈ next.written,
    request ∈ client.written ∨ client.nextRequestId ≤ request.requestId

theorem Grows.queueRequest (client : RequestClient) (call : QueueCall) :
    Grows client (client.queueRequest call) where
  ready := client.queueRequest_ready call
  connected := client.queueRequest_connected call
  number := by simp
  pending := by
    intro responseServiceId
    rw [client.queueRequest_pending responseServiceId call]
    split
    · exact prefix_append _ _
    · exact prefix_rfl
  written := by
    rw [client.queueRequest_written call]
    split
    · exact subset_append_left _ _
    · exact List.Subset.refl _
  fresh := by
    intro request written
    rw [client.queueRequest_written call] at written
    split at written
    · refine (mem_append.mp written).imp_right fun last => ?_
      rw [mem_singleton.mp last]
      exact le_rfl
    · exact .inl written

theorem Grows.queueRequests (client : RequestClient) (calls : List QueueCall) :
    Grows client (calls.foldl RequestClient.queueRequest client) := by
  induction calls generalizing client with
  | nil =>
    exact ⟨rfl, rfl, le_rfl, fun _ => prefix_rfl, List.Subset.refl _, fun _ => .inl⟩
  | cons call rest inductionHypothesis =>
    have first := Grows.queueRequest client call
    have later := inductionHypothesis (client.queueRequest call)
    refine ⟨later.ready.trans first.ready, later.connected.trans first.connected,
      first.number.trans later.number, fun responseServiceId =>
        (first.pending responseServiceId).trans (later.pending responseServiceId),
      List.Subset.trans first.written later.written, fun request written => ?_⟩
    rcases later.fresh request written with before | new
    · exact first.fresh request before
    · exact .inr (first.number.trans new)

theorem pending_of_none_joins (none : ∀ call ∈ calls, ¬ call.Joins responseServiceId) :
    (calls.foldl RequestClient.queueRequest client).pending responseServiceId =
      client.pending responseServiceId := by
  induction calls generalizing client with
  | nil => rfl
  | cons call rest inductionHypothesis =>
    obtain ⟨first, later⟩ := forall_mem_cons.mp none
    rw [foldl_cons, inductionHypothesis later, client.queueRequest_pending, if_neg]
    exact fun joins => first joins.2

theorem front_written_of_joins (ready : client.ready) (connected : client.connected)
    (empty : client.pending responseServiceId = [])
    (some : ∃ call ∈ calls, call.Joins responseServiceId) :
    ∃ front rest,
      (calls.foldl RequestClient.queueRequest client).pending responseServiceId = front :: rest ∧
        front ∈ (calls.foldl RequestClient.queueRequest client).written := by
  induction calls generalizing client with
  | nil => simp at some
  | cons call later inductionHypothesis =>
    by_cases joins : call.Joins responseServiceId
    · obtain ⟨rest, shape⟩ := (Grows.queueRequests (client.queueRequest call) later).pending
        responseServiceId
      rw [client.queueRequest_pending, if_pos ⟨ready, joins⟩, empty] at shape
      refine ⟨client.newPending call.request, rest, shape.symm, ?_⟩
      apply (Grows.queueRequests (client.queueRequest call) later).written
      rw [client.queueRequest_written, if_pos ⟨ready, connected, joins.1, joins.2 ▸ empty⟩]
      exact mem_append_right _ (mem_singleton_self _)
    refine inductionHypothesis ?_ ?_ ?_ ?_
    · rwa [client.queueRequest_ready]
    · rwa [client.queueRequest_connected]
    · rw [client.queueRequest_pending, if_neg fun both => joins both.2, empty]
    obtain ⟨other, member, joinsToo⟩ := some
    rcases mem_cons.mp member with rfl | behind
    · exact absurd joinsToo joins
    · exact ⟨other, behind, joinsToo⟩

/-- `SendFront` writes the front of the queue once more exactly if it was written already. -/
theorem once_sendFront : Once (client.sendFront responseServiceId) ↔
      Once client ∧ (client.ready → client.connected →
        ∀ front ∈ (client.pending responseServiceId).head?, ∀ earlier ∈ client.written,
          earlier.requestId ≠ front.requestId) := by
  unfold Once
  rw [client.sendFront_written responseServiceId]
  split
  · rename_i sends
    cases client.pending responseServiceId with
    | nil => simp
    | cons front rest =>
      rw [head?_cons, toList_some, nodup_append_request]
      simp [sends.1, sends.2]
  rename_i silent
  rw [and_iff_left]
  exact fun ready connected => absurd ⟨ready, connected⟩ silent

section

variable (tidy : Tidy client)
include tidy

theorem Tidy.ne_of_second {second : PendingRequest}
    (waits : client.pending responseServiceId = front :: second :: rest) {earlier : PendingRequest}
    (written : earlier ∈ client.written) : earlier.requestId ≠ second.requestId := by
  intro same
  have member : second ∈ client.pending responseServiceId := by simp [waits]
  have equal : earlier = second :=
    tidy.identified earlier second (.inl written) (.pending tidy member) same
  have notBehind : second.requestId ≤ front.requestId := by
    refine tidy.behind second (equal ▸ written) front ?_
    simp [tidy.keyed responseServiceId second member, waits]
  have increasing := tidy.increasing responseServiceId
  rw [waits] at increasing
  exact absurd (rel_of_pairwise_cons increasing (mem_cons_self ..)) (not_lt.mpr notBehind)

/-- A finished request costs the property exactly if it was alone and a slot queues another for
its service while the client can send. -/
theorem Tidy.once_finishFront (responseServiceId : UInt32) (calls : List QueueCall) :
    Once (client.finishFront responseServiceId calls) ↔
      Once client ∧ (client.ready → client.connected →
        (client.pending responseServiceId).length = 1 →
          ∀ call ∈ calls, ¬ call.Joins responseServiceId) := by
  unfold RequestClient.finishFront
  split
  · rename_i empty
    simp [empty]
  rename_i front rest waits
  have dequeued := tidy.dequeue waits
  have grows := Grows.queueRequests (client.dequeue responseServiceId front rest) calls
  rw [once_sendFront, dequeued.once_queueRequests calls, grows.ready, grows.connected, waits]
  refine and_congr_right fun _ => forall_congr' fun ready => forall_congr' fun connected => ?_
  have left : (client.dequeue responseServiceId front rest).pending responseServiceId = rest :=
    update_self ..
  cases rest with
  | nil =>
    constructor
    · intro unwritten _ call member joins
      obtain ⟨next, behind, shape, written⟩ :=
        front_written_of_joins ready connected left ⟨call, member, joins⟩
      exact unwritten next (by rw [shape, head?_cons, mem_some]) next written rfl
    intro none
    rw [pending_of_none_joins (none rfl), left]
    intro _ absent
    cases absent
  | cons second rest =>
    have condition : (front :: second :: rest).length = 1 →
        ∀ call ∈ calls, ¬ call.Joins responseServiceId := fun one => by simp at one
    refine iff_of_true ?_ condition
    obtain ⟨more, shape⟩ := grows.pending responseServiceId
    rw [left] at shape
    rw [← shape, cons_append]
    intro next same earlier written
    cases same
    rcases grows.fresh earlier written with before | new
    · exact tidy.ne_of_second waits before
    · have member : second ∈ client.pending responseServiceId := by simp [waits]
      exact (lt_of_lt_of_le (tidy.drawn second (.pending tidy member)) new).ne'

theorem Tidy.once_failFront (responseServiceId : UInt32) (calls : List QueueCall) :
    Once (client.failFront responseServiceId calls) ↔ Once client := by
  unfold RequestClient.failFront
  split
  · rfl
  · rename_i front rest waits
    exact (tidy.dequeue waits).once_queueRequests calls

theorem Tidy.once_step (taken : RequestQueue.step client action = some next) :
    Once next ↔ Once client ∧ NoneRejoins client action := by
  cases step_outcome taken with
  | setReady | socket | disconnected | failed => exact (and_iff_left trivial).symm
  | queue call => exact (tidy.once_queueRequest call).trans (and_iff_left trivial).symm
  | response responseServiceId calls => exact tidy.once_finishFront responseServiceId calls
  | timeout responseServiceId calls =>
    exact (tidy.setTimers _).once_finishFront responseServiceId calls
  | failFront responseServiceId calls =>
    exact (tidy.once_failFront responseServiceId calls).trans (and_iff_left trivial).symm

/-- For a client that keeps the invariant, a second copy is all that can go wrong. -/
theorem Tidy.oneCopy_iff : OneCopy client ↔ Once client := by
  refine ⟨OneCopy.once, fun once => ⟨once, ?_, tidy.ordered⟩⟩
  intro one written other writtenOther shared unresolved unresolvedOther
  have first := tidy.front one written unresolved
  rw [shared, tidy.front other writtenOther unresolvedOther, some.injEq] at first
  exact first.symm

end

/-- Over any run, each request is written at most once, one open request at a time for every
response service and in the order of queueing, exactly if no slot queued a request into the queue
that its signal had emptied while the client could send. -/
theorem requests_written_once_iff {client : RequestClient} {actions : List Action}
    (taken : run step {} actions = some client) :
    OneCopy client ↔ Along step NoneRejoins {} actions := by
  have tidy : Tidy client :=
    run_invariant Tidy (fun _ _ _ tidy taken => tidy.step taken) Tidy.start taken
  have empty : Once {} := nodup_nil
  rw [tidy.oneCopy_iff, run_iff_along Tidy Once NoneRejoins
    (fun _ _ _ tidy taken => tidy.step taken) (fun _ _ _ tidy taken => tidy.once_step taken)
    Tidy.start taken]
  exact and_iff_right empty

def clientAfter (actions : List Action) : RequestClient :=
  (run step {} actions).getD {}

def pageRequest (payload : String) : QueueCall :=
  ⟨⟨ServiceId.pullSessionMessageListReq, payload, 5000⟩, true⟩

def pagesQueuedEarly : List Action :=
  [.socket true, .setReady true, .queue (pageRequest "1"), .queue (pageRequest "2"),
    .response (responseFor ServiceId.pullSessionMessageListReq) [pageRequest "3"]]

theorem requests_written_once_queued_early :
    ((clientAfter pagesQueuedEarly).written.map (·.requestId) = [0, 1] ∧
      (clientAfter pagesQueuedEarly).resolved = [0]) ∧
      OneCopy (clientAfter pagesQueuedEarly) := by
  have taken : run step {} pagesQueuedEarly = some (clientAfter pagesQueuedEarly) := rfl
  exact ⟨by decide +kernel, (requests_written_once_iff taken).mpr (by decide +kernel)⟩

/-- The slot of the answer to a page asks for the next one, as the controller does while a
conversation has more: that request is written twice. -/
theorem next_page_written_twice :
    ∃ client, run step {}
        [.socket true, .setReady true, .queue (pageRequest "1"),
          .response (responseFor ServiceId.pullSessionMessageListReq) [pageRequest "2"]] =
          some client ∧
      client.written.map (·.requestId) = [0, 1, 1] ∧ ¬ OneCopy client := by
  refine ⟨_, rfl, by decide +kernel, fun copy => absurd copy.once ?_⟩
  decide +kernel

/-! ### One ready connection -/

/-- The client is ready, its socket takes what is written, and it has the queues, the timers and the
request numbers of the connection. -/
structure Follows (connection : Connection) (client : RequestClient) : Prop where
  ready : client.ready = true
  connected : client.connected = true
  failing : client.failing = none
  pending : client.pending = connection.queues
  timers : client.timers = connection.timers
  nextRequestId : client.nextRequestId = connection.nextRequestId

section

variable {connection : Connection} (follows : Follows connection client)
include follows

theorem Follows.sendFront (responseServiceId : UInt32) :
    Follows (Client.sendFront connection responseServiceId)
      (client.sendFront responseServiceId) := by
  unfold Client.sendFront RequestClient.sendFront
  rw [show client.pending responseServiceId = _ from congrFun follows.pending responseServiceId]
  cases connection.queues responseServiceId with
  | nil => exact follows
  | cons pending rest =>
    change Follows _ (if client.ready then _ else _)
    rw [if_pos follows.ready]
    exact { follows with timers := by rw [follows.timers] }

theorem Follows.queueRequest (request : NewRequest) :
    Follows (Client.queueRequest connection request) (client.queueRequest ⟨request, true⟩) := by
  have enqueued : Follows
      { connection with
        queues := update connection.queues (responseFor request.serviceId)
          (connection.queues (responseFor request.serviceId) ++
            [⟨connection.nextRequestId, request.serviceId, responseFor request.serviceId,
              request.payload, request.timeoutMilliseconds⟩])
        nextRequestId := connection.nextRequestId + 1 } (client.enqueue request) := by
    refine { follows with pending := ?_, nextRequestId := ?_ }
    · simp only [RequestClient.enqueue, RequestClient.newPending, follows.pending,
        follows.nextRequestId]
    · rw [← follows.nextRequestId]
      rfl
  have joins : client.ready ∧ (QueueCall.mk request true).serializes := ⟨follows.ready, rfl⟩
  rw [RequestClient.queueRequest, if_pos joins, follows.pending]
  by_cases empty : connection.queues (responseFor request.serviceId) = []
  · rw [if_pos empty, Client.queueRequest, if_pos (by simp [empty])]
    exact enqueued.sendFront _
  · rw [if_neg empty, Client.queueRequest, if_neg (by simp [empty])]
    exact enqueued

theorem Follows.queueRequests (requests : List NewRequest) :
    Follows (requests.foldl Client.queueRequest connection)
      ((requests.map (QueueCall.mk · true)).foldl RequestClient.queueRequest client) := by
  induction requests generalizing connection client with
  | nil => exact follows
  | cons request rest inductionHypothesis =>
    exact inductionHypothesis (follows.queueRequest request)

/-- A completed or timed out front and what the slots of its signal queue. -/
theorem Follows.finishFront {front : PendingRequest} {rest : List PendingRequest}
    (waits : connection.queues responseServiceId = front :: rest) (signals : List Signal)
    (requests : List NewRequest) :
    Follows
      (afterSignal
        { connection with
          queues := update connection.queues responseServiceId rest
          timers := update connection.timers responseServiceId false, signals }
        responseServiceId requests)
      (client.finishFront responseServiceId (requests.map (QueueCall.mk · true))) := by
  unfold RequestClient.finishFront
  rw [follows.pending, waits]
  refine Follows.sendFront (Follows.queueRequests ?_ requests) responseServiceId
  refine { follows with pending := ?_, timers := ?_ }
  · simp only [RequestClient.dequeue, follows.pending]
  · simp only [RequestClient.dequeue, follows.timers]

/-- Each step of the model of one connection is a step of this model, or none when a frame is not
paired with a request. -/
theorem Follows.step {action : ConnectionAction} {next : Connection}
    (taken : connectionStep connection action = some next) :
    ∃ actions reached, run RequestQueue.step client actions = some reached ∧
      Follows next reached := by
  cases action with
  | queue request =>
    simp only [connectionStep, some.injEq] at taken
    rw [← taken]
    refine ⟨[.queue ⟨request, true⟩], client.queueRequest ⟨request, true⟩, run_singleton ?_,
      follows.queueRequest request⟩
    unfold RequestQueue.step
    rw [follows.failing]
  | timeout responseServiceId requests =>
    simp only [connectionStep, ite_some_none_eq_some] at taken
    obtain ⟨running, rfl⟩ := taken
    refine ⟨[.timeout responseServiceId (requests.map (QueueCall.mk · true))],
      client.requestTimeout responseServiceId (requests.map (QueueCall.mk · true)),
      run_singleton ?_, ?_⟩
    · unfold RequestQueue.step
      rw [follows.failing, follows.timers]
      exact if_pos running
    have stopped : Follows
        { connection with timers := update connection.timers responseServiceId false }
        { client with timers := update client.timers responseServiceId false } :=
      { follows with timers := by rw [follows.timers] }
    simp only [Client.requestTimeout, RequestClient.requestTimeout]
    split
    · rename_i empty
      have none : client.pending responseServiceId = [] := by rw [follows.pending, empty]
      rw [RequestClient.finishFront]
      simp only [none]
      exact stopped
    · rename_i front rest waits
      have finished := stopped.finishFront waits
      simp only [update_idem] at finished
      exact finished _ requests
  | arrive request payload requests =>
    simp only [connectionStep, ite_some_none_eq_some] at taken
    obtain ⟨-, rfl⟩ := taken
    have received : Follows
        { connection with unanswered := connection.unanswered.erase request } client :=
      { follows with }
    generalize getServiceResponseId request.requestServiceId = responseServiceId
    unfold handleFrame
    split
    · exact ⟨[], client, rfl, received⟩
    split
    · unfold completeFront
      split
      · exact ⟨[], client, rfl, { follows with }⟩
      · rename_i front rest waits
        refine ⟨[.response responseServiceId (requests.map (QueueCall.mk · true))], _,
          run_singleton ?_, received.finishFront waits _ requests⟩
        unfold RequestQueue.step
        rw [follows.failing]
    · exact ⟨[], client, rfl, { follows with }⟩

end

/-- What the model of one connection does is a run of a client that has just become ready. -/
theorem connection_is_queue_run {actions : List ConnectionAction} {connection : Connection}
    (taken : run connectionStep {} actions = some connection) :
    ∃ moves client, run step { ready := true, connected := true } moves = some client ∧
      Follows connection client :=
  run_simulation Follows (fun _ _ _ _ follows taken => follows.step taken)
    ⟨rfl, rfl, rfl, rfl, rfl, rfl⟩ taken

end Wimi.Client.RequestQueue
