/-
This file models how `ConnectionGatewayClient` pairs responses with requests on
one ready connection.

Requests wait in one queue per response service. Only the head of a queue has been
written to the socket; the next one follows when the head is completed by a
response frame of that service, or when its timer runs out. A response is paired
with the head, whichever it is: the request id that both packets carry is not
read. The file proves which arrivals are paired correctly, and that a run pairs
all of them correctly exactly when every response that finds requests waiting
answers one of those.

The slots connected to the two signals run inside them and may queue further
requests, which the model takes as an input of the step.
-/

import Wimi.Lib.Transition
import Wimi.Protocol

namespace Wimi.Client

open Function List Option Transition ServiceId

/-! ### The connection -/

/-- `ConnectionGatewayClient::PendingRequest`. Request ids are UUIDs; here they are numbered
as they are drawn. -/
structure PendingRequest where
  requestId : Nat
  requestServiceId : UInt32
  responseServiceId : UInt32
  payload : String
  timeoutMilliseconds : Nat
deriving DecidableEq, Repr

open PendingRequest

structure NewRequest where
  serviceId : UInt32
  payload : String
  timeoutMilliseconds : Nat := 5000
deriving DecidableEq, Repr

/-- The signals of the client. A received response also says which request the server
produced its payload for. -/
inductive Signal where
  | responseReceived (requestId : Nat) (serviceId : UInt32) (payload : String) (answers : Nat)
  | pushReceived (serviceId : UInt32) (payload : String)
  | requestFailed (requestId : Nat) (requestServiceId : UInt32) (errorCode : ErrorCode)
      (message : String) (outcomeUnknown : Bool)
  | protocolError (message : String)
deriving DecidableEq, Repr

/-- The queues and timers by response service, the frames on the wire that have not been
answered, the next request id, and the signals emitted, latest first. -/
structure Connection where
  queues : UInt32 → List PendingRequest := fun _ => []
  timers : UInt32 → Bool := fun _ => false
  unanswered : List PendingRequest := []
  nextRequestId : Nat := 0
  signals : List Signal := []

open Connection

def responseFor (requestServiceId : UInt32) : UInt32 :=
  if requestServiceId = ServiceId.ack then 1034 else requestServiceId + 1

def sendFront (client : Connection) (responseServiceId : UInt32) : Connection :=
  match client.queues responseServiceId with
  | [] => client
  | pending :: _ =>
    { client with
      unanswered := pending :: client.unanswered
      timers := update client.timers responseServiceId true }

/-- `ConnectionGatewayClient::QueueRequest` on a ready connection. -/
def queueRequest (client : Connection) (request : NewRequest) : Connection :=
  let responseServiceId := responseFor request.serviceId
  let queue := client.queues responseServiceId ++
    [⟨client.nextRequestId, request.serviceId, responseServiceId, request.payload,
      request.timeoutMilliseconds⟩]
  let queued :=
    { client with
      queues := update client.queues responseServiceId queue
      nextRequestId := client.nextRequestId + 1 }
  if queue.length = 1 then sendFront queued responseServiceId else queued

def afterSignal (client : Connection) (responseServiceId : UInt32) (requests : List NewRequest) :
    Connection :=
  sendFront (requests.foldl queueRequest client) responseServiceId

def completeFront (client : Connection) (responseServiceId : UInt32) (payload : String)
    (answers : Nat) (requests : List NewRequest) : Connection :=
  match client.queues responseServiceId with
  | [] =>
    { client with
      signals := .protocolError ("收到没有在途请求的响应 service=" ++ toString responseServiceId) ::
        client.signals }
  | completed :: rest =>
    afterSignal
      { client with
        queues := update client.queues responseServiceId rest
        timers := update client.timers responseServiceId false
        signals := .responseReceived completed.requestId responseServiceId payload answers ::
          client.signals }
      responseServiceId requests

/-- The timeout slot that `SendFront` connects. -/
def requestTimeout (client : Connection) (responseServiceId : UInt32)
    (requests : List NewRequest) : Connection :=
  let stopped := { client with timers := update client.timers responseServiceId false }
  match client.queues responseServiceId with
  | [] => stopped
  | timedOut :: rest =>
    afterSignal
      { stopped with
        queues := update client.queues responseServiceId rest
        signals := .requestFailed timedOut.requestId timedOut.requestServiceId
          .deadlineExceeded "请求等待响应超时" true :: client.signals }
      responseServiceId requests

/-- The response services that `HandleFrame` passes on to `CompleteFront`. The responses to
login, ping and quit are handled before. -/
def isPaired (serviceId : UInt32) : Bool :=
  serviceId ≠ 1014 && serviceId ≠ 1012 && serviceId ≠ 1016 && serviceId &&& 1 = 0

/-- `ConnectionGatewayClient::HandleFrame` on a frame that parses. -/
def handleFrame (client : Connection) (serviceId : UInt32) (payload : String) (answers : Nat)
    (requests : List NewRequest) : Connection :=
  if serviceId = 1014 ∨ serviceId = 1012 ∨ serviceId = 1016 then client
  else if serviceId &&& 1 = 0 then completeFront client serviceId payload answers requests
  else { client with signals := .pushReceived serviceId payload :: client.signals }

inductive ConnectionAction where
  | queue (request : NewRequest)
  | timeout (responseServiceId : UInt32) (requests : List NewRequest)
  | arrive (request : PendingRequest) (payload : String) (requests : List NewRequest)
deriving DecidableEq, Repr

/-- A call of `QueueRequest`, the timeout of a running timer, or the arrival of the server's
answer to a frame it has received and not answered yet. -/
def connectionStep (client : Connection) : ConnectionAction → Option Connection
  | .queue request => some (queueRequest client request)
  | .timeout responseServiceId requests =>
    if client.timers responseServiceId then
      some (requestTimeout client responseServiceId requests)
    else none
  | .arrive request payload requests =>
    if request ∈ client.unanswered then
      some (handleFrame { client with unanswered := client.unanswered.erase request }
        (getServiceResponseId request.requestServiceId) payload request.requestId requests)
    else none

/-! ### What is on the wire is at the front -/

theorem responseFor_eq (serviceId : UInt32) :
    responseFor serviceId = getServiceResponseId serviceId := by
  unfold responseFor getServiceResponseId
  split
  · rename_i same
    rw [same]
    rfl
  · rfl

def Connection.waiting (client : Connection) (serviceId : UInt32) : List Nat :=
  (client.queues serviceId).map requestId

/-- A request stands in the queue of its response service, request ids are used once, and a
request that is on the wire and still waits is at the front of its queue. -/
structure InStep (client : Connection) : Prop where
  keyed : ∀ serviceId, ∀ request ∈ client.queues serviceId,
    getServiceResponseId request.requestServiceId = serviceId
  queued : ∀ serviceId, ∀ requestId ∈ client.waiting serviceId, requestId < client.nextRequestId
  written : ∀ request ∈ client.unanswered, request.requestId < client.nextRequestId
  distinct : ∀ serviceId, (client.waiting serviceId).Nodup
  front : ∀ request ∈ client.unanswered, ∀ serviceId,
    getServiceResponseId request.requestServiceId = serviceId →
    request.requestId ∈ client.waiting serviceId →
    (client.waiting serviceId).head? = some request.requestId

theorem inStep_initial : InStep {} where
  keyed := fun _ _ member => nomatch member
  queued := fun _ _ member => nomatch member
  written := fun _ member => nomatch member
  distinct := fun _ => nodup_nil
  front := fun _ member => nomatch member

variable {client next : Connection}

section

variable (inStep : InStep client)
include inStep

theorem InStep.sendFront (serviceId : UInt32) : InStep (Client.sendFront client serviceId) := by
  unfold Client.sendFront
  split
  · exact inStep
  rename_i pending rest queue
  have first : pending ∈ client.queues serviceId := by
    rw [queue]
    exact mem_cons_self
  refine ⟨inStep.keyed, inStep.queued, ?_, inStep.distinct, ?_⟩
  · intro request member
    rcases mem_cons.mp member with rfl | before
    · exact inStep.queued serviceId request.requestId (mem_map_of_mem first)
    · exact inStep.written request before
  intro request member other key waits
  rcases mem_cons.mp member with rfl | before
  · obtain rfl := (inStep.keyed serviceId request first).symm.trans key
    rw [waiting, queue]
    rfl
  · exact inStep.front request before other key waits

theorem InStep.of_queue (serviceId : UInt32) (queue : List PendingRequest)
    (queues : next.queues = update client.queues serviceId queue)
    (keyed : ∀ request ∈ queue, getServiceResponseId request.requestServiceId = serviceId)
    (unanswered : next.unanswered = client.unanswered)
    (grows : client.nextRequestId ≤ next.nextRequestId)
    (queued : ∀ request ∈ queue, request.requestId < next.nextRequestId)
    (distinct : (queue.map requestId).Nodup)
    (front : ∀ request ∈ client.unanswered,
      getServiceResponseId request.requestServiceId = serviceId →
      request.requestId ∈ queue.map requestId →
      (queue.map requestId).head? = some request.requestId) :
    InStep next := by
  have here : next.waiting serviceId = queue.map requestId := by
    rw [waiting, queues, update_self]
  have elsewhere : ∀ other, other ≠ serviceId → next.waiting other = client.waiting other := by
    intro other different
    rw [waiting, queues, update_of_ne different, waiting]
  constructor
  · intro other request member
    rw [queues] at member
    by_cases same : other = serviceId
    · grind
    · rw [update_of_ne same] at member
      exact inStep.keyed other request member
  · intro other requestId member
    by_cases same : other = serviceId
    · grind
    · rw [elsewhere other same] at member
      exact (inStep.queued other requestId member).trans_le grows
  · intro request member
    rw [unanswered] at member
    exact (inStep.written request member).trans_le grows
  · intro other
    by_cases same : other = serviceId
    · rw [same, here]
      exact distinct
    · rw [elsewhere other same]
      exact inStep.distinct other
  intro request member other key waits
  rw [unanswered] at member
  by_cases same : other = serviceId
  · grind
  · rw [elsewhere other same] at waits ⊢
    exact inStep.front request member other key waits

theorem InStep.queueRequest (request : NewRequest) :
    InStep (Client.queueRequest client request) := by
  unfold Client.queueRequest
  dsimp only
  set serviceId := responseFor request.serviceId with service
  set added : PendingRequest := ⟨client.nextRequestId, request.serviceId, serviceId,
    request.payload, request.timeoutMilliseconds⟩ with addedDef
  have ids : (client.queues serviceId ++ [added]).map requestId =
      client.waiting serviceId ++ [client.nextRequestId] := by
    rw [map_append]
    rfl
  have queued : InStep
      { client with
        queues := update client.queues serviceId (client.queues serviceId ++ [added])
        nextRequestId := client.nextRequestId + 1 } := by
    refine inStep.of_queue serviceId _ rfl ?_ rfl (Nat.le_succ _) ?_ ?_ ?_
    · intro other member
      rcases mem_append.mp member with before | new
      · exact inStep.keyed serviceId other before
      · grind [mem_singleton, responseFor_eq]
    · intro other member
      rcases mem_append.mp member with before | new
      · exact Nat.lt_succ_of_lt
          (inStep.queued serviceId other.requestId (mem_map_of_mem before))
      · grind
    · rw [ids]
      refine nodup_append.mpr ⟨inStep.distinct serviceId, nodup_singleton _, ?_⟩
      intro old member new isNew equal
      obtain rfl := mem_singleton.mp isNew
      exact absurd (inStep.queued serviceId old member) (equal ▸ Nat.lt_irrefl _)
    intro other member key waits
    rw [ids] at waits ⊢
    rcases mem_append.mp waits with before | new
    · rw [head?_append, inStep.front other member serviceId key before]
      rfl
    · have same := mem_singleton.mp new
      exact absurd (inStep.written other member) (same ▸ Nat.lt_irrefl _)
  split
  · exact queued.sendFront _
  · exact queued

theorem InStep.foldl_queueRequest (requests : List NewRequest) :
    InStep (requests.foldl Client.queueRequest client) := by
  induction requests generalizing client with
  | nil => exact inStep
  | cons request rest inductionHypothesis =>
    exact inductionHypothesis (inStep.queueRequest request)

theorem InStep.dequeue {serviceId : UInt32} {first : PendingRequest} {rest : List PendingRequest}
    (queue : client.queues serviceId = first :: rest) (timers : UInt32 → Bool)
    (signals : List Signal) : InStep
      { client with
        queues := update client.queues serviceId rest
        timers
        signals } := by
  have waiting : client.waiting serviceId =
      first.requestId :: rest.map requestId := by
    rw [waiting, queue, map_cons]
  have distinct := inStep.distinct serviceId
  rw [waiting] at distinct
  have inside : ∀ request ∈ rest, request ∈ client.queues serviceId := by grind
  refine inStep.of_queue serviceId rest rfl ?_ rfl le_rfl ?_ (nodup_cons.mp distinct).2 ?_
  · exact fun request member => inStep.keyed serviceId request (inside request member)
  · exact fun request member =>
      inStep.queued serviceId request.requestId (mem_map_of_mem (inside request member))
  intro request member key waits
  have atFront := inStep.front request member serviceId key
    (waiting ▸ mem_cons_of_mem _ waits)
  rw [waiting, head?_cons, some.injEq] at atFront
  exact absurd (atFront ▸ waits) (nodup_cons.mp distinct).1

theorem InStep.afterSignal (serviceId : UInt32) (requests : List NewRequest) :
    InStep (Client.afterSignal client serviceId requests) :=
  (inStep.foldl_queueRequest requests).sendFront serviceId

theorem InStep.handleFrame (serviceId : UInt32) (payload : String) (answers : Nat)
    (requests : List NewRequest) :
    InStep (Client.handleFrame client serviceId payload answers requests) := by
  unfold Client.handleFrame
  split
  · exact inStep
  split
  · unfold completeFront
    split
    · exact { inStep with }
    · rename_i completed rest queue
      exact (inStep.dequeue queue _ _).afterSignal serviceId requests
  · exact { inStep with }

theorem InStep.requestTimeout (serviceId : UInt32) (requests : List NewRequest) :
    InStep (Client.requestTimeout client serviceId requests) := by
  unfold Client.requestTimeout
  split
  · exact { inStep with }
  · rename_i timedOut rest queue
    exact (inStep.dequeue queue _ _).afterSignal serviceId requests

end

theorem inStep_step (client : Connection) (action : ConnectionAction) (next : Connection)
    (inStep : InStep client) (taken : connectionStep client action = some next) :
    InStep next := by
  cases action with
  | queue request =>
    cases taken
    exact inStep.queueRequest request
  | timeout serviceId requests =>
    simp only [connectionStep] at taken
    split at taken <;> cases taken
    exact inStep.requestTimeout serviceId requests
  | arrive request payload requests =>
    simp only [connectionStep] at taken
    split at taken <;> cases taken
    have answered : InStep { client with unanswered := client.unanswered.erase request } :=
      { inStep with
        written := fun request member => inStep.written request (mem_of_mem_erase member)
        front := fun request member => inStep.front request (mem_of_mem_erase member) }
    exact answered.handleFrame _ payload _ requests

/-! ### Pairing responses with requests -/

/-- A response is emitted for the request whose answer it is. -/
def Signal.Correlated : Signal → Prop
  | .responseReceived requestId _ _ answers => requestId = answers
  | _ => True

def Correlated (client : Connection) : Prop :=
  ∀ signal ∈ client.signals, signal.Correlated

/-- A response that finds requests of its service waiting answers one of them: its request has
neither timed out nor been answered before. -/
def Timely (client : Connection) : ConnectionAction → Prop
  | .arrive request _ _ =>
    isPaired (getServiceResponseId request.requestServiceId) →
      client.waiting (getServiceResponseId request.requestServiceId) ≠ [] →
      request.requestId ∈ client.waiting (getServiceResponseId request.requestServiceId)
  | _ => True

@[simp] theorem signals_sendFront (client : Connection) (serviceId : UInt32) :
    (sendFront client serviceId).signals = client.signals := by
  unfold sendFront
  split <;> rfl

@[simp] theorem signals_queueRequest (client : Connection) (request : NewRequest) :
    (queueRequest client request).signals = client.signals := by
  unfold queueRequest
  dsimp only
  split
  · rw [signals_sendFront]
  · rfl

@[simp] theorem signals_afterSignal (client : Connection) (serviceId : UInt32)
    (requests : List NewRequest) :
    (afterSignal client serviceId requests).signals = client.signals := by
  unfold afterSignal
  rw [signals_sendFront]
  induction requests generalizing client with
  | nil => rfl
  | cons request rest inductionHypothesis =>
    rw [foldl_cons, inductionHypothesis, signals_queueRequest]

theorem isPaired_iff (serviceId : UInt32) :
    isPaired serviceId = true ↔
      ¬ (serviceId = 1014 ∨ serviceId = 1012 ∨ serviceId = 1016) ∧ serviceId &&& 1 = 0 := by
  simp only [isPaired, Bool.and_eq_true, decide_eq_true_eq, not_or, and_assoc]

theorem correlated_cons (client : Connection) {next : Connection} {signal : Signal}
    (emitted : next.signals = signal :: client.signals) :
    Correlated next ↔ Correlated client ∧ signal.Correlated := by
  unfold Correlated
  rw [emitted, forall_mem_cons, and_comm]

/-- An answer is paired correctly exactly if it is timely. -/
theorem correlated_arrive (inStep : InStep client) {request : PendingRequest} {payload : String}
    {requests : List NewRequest} (sent : request ∈ client.unanswered) :
    Correlated (handleFrame { client with unanswered := client.unanswered.erase request }
        (getServiceResponseId request.requestServiceId) payload request.requestId requests) ↔
      Correlated client ∧ Timely client (.arrive request payload requests) := by
  unfold handleFrame
  split
  · rename_i special
    refine ⟨fun holds => ⟨holds, fun paired => ?_⟩, fun holds => holds.1⟩
    exact absurd special ((isPaired_iff _).mp paired).1
  split
  · rename_i even
    unfold completeFront
    split
    · rename_i queue
      rw [correlated_cons client rfl]
      refine and_congr_right fun _ => ⟨fun _ _ waits => absurd ?_ waits, fun _ => trivial⟩
      exact congrArg (map requestId) queue
    rename_i special _ completed rest queue
    have waiting : client.waiting (getServiceResponseId request.requestServiceId) =
        completed.requestId :: rest.map requestId :=
      congrArg (map requestId) queue
    rw [correlated_cons client (signals_afterSignal _ _ _)]
    refine and_congr_right fun _ => ⟨fun same _ _ => ?_, fun timely => ?_⟩
    · rw [waiting, ← show completed.requestId = request.requestId from same]
      exact mem_cons_self
    have paired := (isPaired_iff _).mpr ⟨special, even⟩
    have waits := timely paired (by rw [waiting]; exact cons_ne_nil _ _)
    have atFront := inStep.front request sent _ rfl waits
    rw [waiting, head?_cons, some.injEq] at atFront
    exact atFront
  rename_i odd
  rw [correlated_cons client rfl]
  refine and_congr_right fun _ => ⟨fun _ paired => ?_, fun _ => trivial⟩
  exact absurd ((isPaired_iff _).mp paired).2 odd

theorem correlated_step (client : Connection) (action : ConnectionAction) (next : Connection)
    (inStep : InStep client) (taken : connectionStep client action = some next) :
    Correlated next ↔ Correlated client ∧ Timely client action := by
  cases action with
  | queue request =>
    cases taken
    rw [Correlated, signals_queueRequest]
    exact (and_iff_left trivial).symm
  | timeout serviceId requests =>
    simp only [connectionStep] at taken
    split at taken <;> cases taken
    unfold requestTimeout
    split
    · exact (and_iff_left trivial).symm
    · rw [correlated_cons client (signals_afterSignal _ _ _)]
      exact Iff.rfl
  | arrive request payload requests => grind [connectionStep, correlated_arrive]

/-- Along every run of one connection, all responses are paired with their own requests
exactly if each of them arrives while its request still waits, or finds none waiting. -/
theorem responses_correlated_iff_timely (actions : List ConnectionAction) (final : Connection)
    (taken : run connectionStep {} actions = some final) :
    (∀ requestId serviceId payload answers,
        Signal.responseReceived requestId serviceId payload answers ∈ final.signals →
        requestId = answers) ↔
      Along connectionStep Timely {} actions := by
  have exactly := run_iff_along InStep Correlated Timely inStep_step correlated_step
    inStep_initial taken
  rw [and_iff_right (show Correlated {} from fun _ member => nomatch member)] at exactly
  rw [← exactly]
  constructor
  · intro holds signal member
    cases signal with
    | responseReceived requestId serviceId payload answers =>
      exact holds requestId serviceId payload answers member
    | pushReceived | requestFailed | protocolError => trivial
  · exact fun holds requestId serviceId payload answers member => holds _ member

def answerInTime : List ConnectionAction :=
  [.queue ⟨textSendReq, "first", 5000⟩, .queue ⟨textSendReq, "second", 5000⟩,
    .arrive ⟨0, textSendReq, 1028, "first", 5000⟩ "accepted as 17" []]

def answerAfterTimeout : List ConnectionAction :=
  [.queue ⟨textSendReq, "first", 5000⟩, .queue ⟨textSendReq, "second", 5000⟩,
    .timeout 1028 [], .arrive ⟨0, textSendReq, 1028, "first", 5000⟩ "accepted as 17" []]

def connectionAfter (actions : List ConnectionAction) : Connection :=
  (run connectionStep {} actions).getD {}

theorem responses_correlated_iff_timely_in_time :
    Signal.responseReceived 0 1028 "accepted as 17" 0 ∈ (connectionAfter answerInTime).signals ∧
      ∀ requestId serviceId payload answers,
        Signal.responseReceived requestId serviceId payload answers ∈
          (connectionAfter answerInTime).signals → requestId = answers := by
  refine ⟨by decide +kernel, (responses_correlated_iff_timely answerInTime _ rfl).mpr ?_⟩
  refine along_cons trivial rfl (along_cons trivial rfl
    (along_cons (fun _ _ => ?_) rfl trivial))
  decide +kernel

/-- The late answer to the first message is emitted as the answer to the second. -/
theorem late_answer_emitted_for_next_request :
    run connectionStep {} answerAfterTimeout =
        some (connectionAfter answerAfterTimeout) ∧
      Signal.responseReceived 1 1028 "accepted as 17" 0 ∈
        (connectionAfter answerAfterTimeout).signals := by
  refine ⟨rfl, ?_⟩
  decide +kernel

end Wimi.Client
