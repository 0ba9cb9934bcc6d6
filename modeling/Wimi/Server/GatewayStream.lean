/-
This file models the Message node's side of the streams that Gateways open:
`GatewayStreamReactor`, one object for each stream, and `GatewayStreamService` with
the registry `streams` from gateway id to reactor.

Reactors are numbered in the order of their streams; a number stands for the pointer
and is not used again. `OnDone` deletes the reactor. A call through a pointer whose
reactor is gone is recorded in `useAfterDelete`, and `peers` keeps the authenticated
peer of every stream there ever was.

Two properties are studied: no entry of `streams` outlives its reactor, and a
gateway whose peer identity is required cannot act under another id. Every register
frame overwrites the ids in the reactor, also one that is rejected, and removal and
commands use the last value; so both need that a stream keeps to the ids it is
registered under.
-/

import Wimi.Lib.Lists
import Wimi.Server.SessionLease
import Wimi.Gateway.MessageLink

namespace Wimi.Server

open Function List Transition
open Option hiding sequence

open Gateway (CommandEnvelope CommandResult ResultPacket)

/-! ### Frames -/

structure RegisterGateway where
  protocolVersion : UInt32 := 1
  gatewayId : String
  instanceId : String
  streamEpoch : UInt64 := 0
deriving DecidableEq, Repr

structure DeliveryEnvelope where
  deliveryId : String
  recipientUid : Int
  expectedConnectionId : String
  expectedConnectionGeneration : UInt64
  protocolId : UInt32
  messageId : Int
  conversationId : Int
  conversationSeq : Int
  packet : String
deriving DecidableEq, Repr

inductive MessageToGatewayFrame where
  | registerResult (accepted : Bool) (messageNodeId : String) (streamEpoch : UInt64)
      (reason : String)
  | commandResult (result : CommandResult)
  | delivery (envelope : DeliveryEnvelope)
  | heartbeatAck (sentAtUnixMs : Int) (sequence : UInt64)
  | drainNotice (messageNodeId reason : String)
deriving DecidableEq, Repr

def errorResult (command : CommandEnvelope) (error : ErrorCode) (retryable : Bool)
    (message : String) : CommandResult where
  requestId := command.requestId
  responseServiceId := getServiceResponseId command.serviceId
  error := error.code
  retryable := retryable
  packet := .error error message

/-! ### The reactor -/

structure GatewayStreamReactor where
  authenticatedPeer : String
  gatewayId : String := ""
  instanceId : String := ""
  streamEpoch : UInt64 := 0
  registered : Bool := false
  finishing : Bool := false
  writeQueue : List MessageToGatewayFrame := []
  writeFrame : Option MessageToGatewayFrame := none
  writeInFlight : Bool := false
deriving DecidableEq, Repr

def kMaxStreamQueue : Nat := 4096

namespace GatewayStreamReactor

def startWrite (reactor : GatewayStreamReactor) : GatewayStreamReactor :=
  { reactor with
    writeInFlight := true
    writeFrame := reactor.writeQueue.head?
    writeQueue := reactor.writeQueue.tail }

def enqueue (reactor : GatewayStreamReactor) (frame : MessageToGatewayFrame) :
    Bool × GatewayStreamReactor :=
  if reactor.finishing ∨ reactor.writeQueue.length ≥ kMaxStreamQueue then (false, reactor)
  else
    let queued := { reactor with writeQueue := reactor.writeQueue ++ [frame] }
    if queued.writeInFlight then (true, queued) else (true, queued.startWrite)

def onWriteDone (reactor : GatewayStreamReactor) : GatewayStreamReactor :=
  if reactor.writeQueue = [] then { reactor with writeInFlight := false }
  else reactor.startWrite

/-- The ids of a register frame are taken over before the frame is checked. -/
def named (reactor : GatewayStreamReactor) (request : RegisterGateway) : GatewayStreamReactor :=
  { reactor with
    gatewayId := request.gatewayId
    instanceId := request.instanceId
    streamEpoch := request.streamEpoch }

end GatewayStreamReactor

structure ReactorIdentity where
  authenticatedPeer : String
  gatewayId : String
  instanceId : String
  registered : Bool
deriving DecidableEq, Repr

namespace GatewayStreamReactor

def identity (reactor : GatewayStreamReactor) : ReactorIdentity where
  authenticatedPeer := reactor.authenticatedPeer
  gatewayId := reactor.gatewayId
  instanceId := reactor.instanceId
  registered := reactor.registered

theorem identity_enqueue (reactor : GatewayStreamReactor) (frame : MessageToGatewayFrame) :
    (reactor.enqueue frame).2.identity = reactor.identity := by
  unfold enqueue
  dsimp only
  split_ifs <;> rfl

theorem identity_onWriteDone (reactor : GatewayStreamReactor) :
    reactor.onWriteDone.identity = reactor.identity := by
  unfold onWriteDone
  split_ifs <;> rfl

end GatewayStreamReactor

/-! ### The service -/

structure RegisteredStream where
  instanceId : String
  reactor : Nat
deriving DecidableEq, Repr

structure CommandTask where
  originGatewayId : String
  originInstanceId : String
  originReactor : Nat
  command : CommandEnvelope
deriving DecidableEq, Repr

structure GatewayStreamService where
  messageNodeId : String
  requirePeerIdentity : Bool
  draining : Bool := false
  streams : List (String × RegisteredStream) := []
  reactors : Nat → Option GatewayStreamReactor := fun _ => none
  peers : List String := []
  tasks : List CommandTask := []
  useAfterDelete : Bool := false

namespace GatewayStreamService

variable (service : GatewayStreamService)

def setReactor (id : Nat) (reactor : Option GatewayStreamReactor) : GatewayStreamService :=
  { service with reactors := update service.reactors id reactor }

def enqueueOn (id : Nat) (frame : MessageToGatewayFrame) : GatewayStreamService :=
  match service.reactors id with
  | none => { service with useAfterDelete := true }
  | some reactor => service.setReactor id (some (reactor.enqueue frame).2)

def find (gatewayId : String) : Option RegisteredStream :=
  (service.streams.find? fun entry => entry.1 = gatewayId).map (·.2)

def register (gatewayId instanceId : String) (reactor : Nat) : GatewayStreamService :=
  { service with
    streams := (gatewayId, { instanceId, reactor }) ::
      service.streams.filter fun entry => entry.1 ≠ gatewayId }

def unregister (gatewayId instanceId : String) (reactor : Nat) : GatewayStreamService :=
  match service.find gatewayId with
  | none => service
  | some found =>
    if found.instanceId ≠ instanceId ∨ found.reactor ≠ reactor then service
    else { service with streams := service.streams.filter fun entry => entry.1 ≠ gatewayId }

def deliver (lease : SessionLease) (envelope : DeliveryEnvelope) : GatewayStreamService :=
  match service.find lease.gatewayId with
  | none => service
  | some found =>
    if found.instanceId ≠ lease.instanceId then service
    else service.enqueueOn found.reactor (.delivery envelope)

def reply (gatewayId instanceId : String) (reactor : Nat) (frame : MessageToGatewayFrame) :
    GatewayStreamService :=
  match service.find gatewayId with
  | none => service
  | some found =>
    if found.instanceId ≠ instanceId ∨ found.reactor ≠ reactor then service
    else service.enqueueOn reactor frame

def drainAll (reason : String) : GatewayStreamService :=
  service.streams.foldl
    (fun notified entry =>
      notified.enqueueOn entry.2.reactor (.drainNotice service.messageNodeId reason))
    { service with draining := true }

/-- `HandleRegister`. Nothing clears `registered`. -/
def handleRegister (id : Nat) (reactor : GatewayStreamReactor) (request : RegisterGateway) :
    GatewayStreamService :=
  let named := reactor.named request
  let valid : Bool :=
    request.protocolVersion = 1 ∧ named.gatewayId ≠ "" ∧ named.instanceId ≠ "" ∧
      service.draining = false ∧
      (service.requirePeerIdentity = false ∨ named.authenticatedPeer = named.gatewayId)
  let checked :=
    if valid then
      (service.setReactor id (some { named with registered := true })).register named.gatewayId
        named.instanceId id
    else service.setReactor id (some named)
  checked.enqueueOn id
    (.registerResult valid service.messageNodeId named.streamEpoch
      (if valid then ""
      else "unsupported protocol or gateway identity does not match mTLS peer"))

/-- `HandleCommand` on the thread of the stream; `posted` is the answer of the pool. -/
def handleCommand (id : Nat) (reactor : GatewayStreamReactor) (command : CommandEnvelope)
    (nowUnixMs : Int) (posted : Bool) : GatewayStreamService :=
  if reactor.registered = false ∨ command.requestId = "" then
    service.enqueueOn id (.commandResult (errorResult command .authenticationRequired false
      "gateway stream must register before sending commands"))
  else if command.deadlineUnixMs ≤ nowUnixMs then
    service.enqueueOn id (.commandResult (errorResult command .deadlineExceeded true
      "command deadline already elapsed"))
  else if posted then
    { service with
      tasks := service.tasks ++ [{
        originGatewayId := reactor.gatewayId
        originInstanceId := reactor.instanceId
        originReactor := id
        command }] }
  else
    service.enqueueOn id (.commandResult (errorResult command .resourceExhausted true
      "message worker queue is full"))

def onDone (id : Nat) (reactor : GatewayStreamReactor) : GatewayStreamService :=
  (service.unregister reactor.gatewayId reactor.instanceId id).setReactor id none

end GatewayStreamService

open GatewayStreamService

inductive StreamAction where
  | connect (peerIdentity : String)
  | readRegister (reactor : Nat) (request : RegisterGateway)
  | readCommand (reactor : Nat) (command : CommandEnvelope) (nowUnixMs : Int) (posted : Bool)
  | readHeartbeat (reactor : Nat) (sentAtUnixMs : Int) (sequence : UInt64)
  | writeDone (reactor : Nat)
  | finish (reactor : Nat)
  | done (reactor : Nat)
  | deliver (lease : SessionLease) (envelope : DeliveryEnvelope)
  | reply (task : CommandTask) (result : CommandResult)
  | drainAll (reason : String)
deriving DecidableEq, Repr

def streamStep (service : GatewayStreamService) : StreamAction → Option GatewayStreamService
  | .connect peerIdentity =>
    some { service.setReactor service.peers.length (some { authenticatedPeer := peerIdentity }) with
      peers := service.peers ++ [peerIdentity] }
  | .readRegister id request =>
    (service.reactors id).map fun reactor => service.handleRegister id reactor request
  | .readCommand id command nowUnixMs posted =>
    (service.reactors id).map fun reactor =>
      service.handleCommand id reactor command nowUnixMs posted
  | .readHeartbeat id sentAtUnixMs sequence =>
    (service.reactors id).map fun _ => service.enqueueOn id (.heartbeatAck sentAtUnixMs sequence)
  | .writeDone id =>
    (service.reactors id).map fun reactor => service.setReactor id (some reactor.onWriteDone)
  | .finish id =>
    (service.reactors id).map fun reactor =>
      service.setReactor id (some { reactor with finishing := true })
  | .done id => (service.reactors id).map fun reactor => service.onDone id reactor
  | .deliver lease envelope => some (service.deliver lease envelope)
  | .reply task result =>
    if task ∈ service.tasks then
      some (service.reply task.originGatewayId task.originInstanceId task.originReactor
        (.commandResult result))
    else none
  | .drainAll reason => some (service.drainAll reason)

def GatewayStreamService.initial (messageNodeId : String) (requirePeerIdentity : Bool) :
    GatewayStreamService where
  messageNodeId := messageNodeId
  requirePeerIdentity := requirePeerIdentity

/-! ### What a step does -/

variable {id : Nat} {reactor : GatewayStreamReactor}

namespace GatewayStreamService

def identities (service : GatewayStreamService) (id : Nat) : Option ReactorIdentity :=
  (service.reactors id).map GatewayStreamReactor.identity

theorem identities_setReactor (service : GatewayStreamService) (id : Nat)
    (reactor : Option GatewayStreamReactor) :
    (service.setReactor id reactor).identities =
      update service.identities id (reactor.map GatewayStreamReactor.identity) := by
  funext other
  by_cases same : other = id
  · subst same
    simp [identities, setReactor]
  · simp [identities, setReactor, same]

variable {service : GatewayStreamService}

theorem identities_eq_none :
    service.identities id = none ↔ service.reactors id = none := map_eq_none_iff

theorem mem_of_find {gatewayId : String} {found : RegisteredStream}
    (present : service.find gatewayId = some found) : (gatewayId, found) ∈ service.streams := by
  obtain ⟨entry, first, rfl⟩ := map_eq_some_iff.mp present
  have key : entry.1 = gatewayId := by simpa using find?_some first
  exact key ▸ mem_of_find?_eq_some first

structure Quiet (before after : GatewayStreamService) : Prop where
  requirePeerIdentity : after.requirePeerIdentity = before.requirePeerIdentity
  streams : after.streams = before.streams
  identities : after.identities = before.identities
  peers : after.peers = before.peers
  tasks : after.tasks = before.tasks
  misuse : after.useAfterDelete = true → before.useAfterDelete = true ∨
    ∃ entry ∈ before.streams, before.identities entry.2.reactor = none

theorem Quiet.refl (service : GatewayStreamService) : Quiet service service :=
  ⟨rfl, rfl, rfl, rfl, rfl, .inl⟩

theorem Quiet.trans {first second third : GatewayStreamService} (one : Quiet first second)
    (two : Quiet second third) : Quiet first third where
  requirePeerIdentity := two.requirePeerIdentity.trans one.requirePeerIdentity
  streams := two.streams.trans one.streams
  identities := two.identities.trans one.identities
  peers := two.peers.trans one.peers
  tasks := two.tasks.trans one.tasks
  misuse misused := by
    rcases two.misuse misused with earlier | dangling
    · exact one.misuse earlier
    · rw [one.streams, one.identities] at dangling
      exact .inr dangling

theorem quiet_setReactor {after : GatewayStreamReactor} (alive : service.reactors id = some reactor)
    (same : after.identity = reactor.identity) :
    Quiet service (service.setReactor id (some after)) where
  requirePeerIdentity := rfl
  streams := rfl
  identities := by
    rw [identities_setReactor, update_eq_self_iff, identities, alive,
      map_some, map_some, same]
  peers := rfl
  tasks := rfl
  misuse := .inl

theorem quiet_enqueueOn_live (alive : service.reactors id = some reactor)
    (frame : MessageToGatewayFrame) : Quiet service (service.enqueueOn id frame) := by
  simp only [enqueueOn, alive]
  exact quiet_setReactor alive (reactor.identity_enqueue frame)

theorem quiet_enqueueOn_entry {entry : String × RegisteredStream} (member : entry ∈ service.streams)
    (frame : MessageToGatewayFrame) : Quiet service (service.enqueueOn entry.2.reactor frame) := by
  cases alive : service.reactors entry.2.reactor with
  | some reactor => exact quiet_enqueueOn_live alive frame
  | none =>
    simp only [enqueueOn, alive]
    exact ⟨rfl, rfl, rfl, rfl, rfl, fun _ => .inr ⟨entry, member, identities_eq_none.mpr alive⟩⟩

theorem quiet_deliver (service : GatewayStreamService) (lease : SessionLease)
    (envelope : DeliveryEnvelope) : Quiet service (service.deliver lease envelope) := by
  unfold deliver
  split
  · exact .refl service
  rename_i found present
  split_ifs
  · exact .refl service
  · exact quiet_enqueueOn_entry (mem_of_find present) _

theorem quiet_reply (service : GatewayStreamService) (gatewayId instanceId : String)
    (reactor : Nat) (frame : MessageToGatewayFrame) :
    Quiet service (service.reply gatewayId instanceId reactor frame) := by
  unfold reply
  split
  · exact .refl service
  rename_i found present
  split_ifs with other
  · exact .refl service
  · obtain ⟨_, rfl⟩ := not_or.mp other |>.imp not_not.mp not_not.mp
    exact quiet_enqueueOn_entry (mem_of_find present) _

theorem quiet_drainAll (service : GatewayStreamService) (reason : String) :
    Quiet service (service.drainAll reason) := by
  have notify (entries : List (String × RegisteredStream))
      (members : ∀ entry ∈ entries, entry ∈ service.streams) (notified : GatewayStreamService)
      (quiet : Quiet service notified) :
      Quiet service (entries.foldl (fun notified entry =>
        notified.enqueueOn entry.2.reactor (.drainNotice service.messageNodeId reason))
        notified) := by
    induction entries generalizing notified with
    | nil => exact quiet
    | cons entry entries inductionHypothesis =>
      obtain ⟨first, others⟩ := forall_mem_cons.mp members
      exact inductionHypothesis others _
        (quiet.trans (quiet_enqueueOn_entry (quiet.streams ▸ first) _))
  exact notify service.streams (fun _ member => member) { service with draining := true }
    ⟨rfl, rfl, rfl, rfl, rfl, .inl⟩

structure Closed (before after : GatewayStreamService) (id : Nat) : Prop where
  requirePeerIdentity : after.requirePeerIdentity = before.requirePeerIdentity
  streams : after.streams.Sublist before.streams
  identities : after.identities = update before.identities id none
  peers : after.peers = before.peers
  tasks : after.tasks = before.tasks
  useAfterDelete : after.useAfterDelete = before.useAfterDelete

theorem closed_onDone (service : GatewayStreamService) (id : Nat)
    (reactor : GatewayStreamReactor) : Closed service (service.onDone id reactor) id := by
  unfold onDone unregister
  split
  · exact ⟨rfl, .refl _, identities_setReactor _ _ _, rfl, rfl, rfl⟩
  split_ifs
  · exact ⟨rfl, .refl _, identities_setReactor _ _ _, rfl, rfl, rfl⟩
  · exact ⟨rfl, filter_sublist, identities_setReactor _ _ _, rfl, rfl, rfl⟩

theorem handleRegister_cases (service : GatewayStreamService) (id : Nat)
    (reactor : GatewayStreamReactor) (request : RegisterGateway) :
    Quiet (service.setReactor id (some (reactor.named request)))
        (service.handleRegister id reactor request) ∨
      (service.requirePeerIdentity = true → reactor.authenticatedPeer = request.gatewayId) ∧
        Quiet ((service.setReactor id
            (some { reactor.named request with registered := true })).register request.gatewayId
              request.instanceId id)
          (service.handleRegister id reactor request) := by
  unfold handleRegister
  dsimp only
  split_ifs with valid
  · simp only [decide_eq_true_eq] at valid
    obtain ⟨_, _, _, _, bound⟩ := valid
    refine .inr ⟨fun required => bound.resolve_left (by simp [required]), ?_⟩
    exact quiet_enqueueOn_live (update_self id _ service.reactors) _
  · exact .inl (quiet_enqueueOn_live (update_self id _ service.reactors) _)

end GatewayStreamService

open GatewayStreamService

inductive StreamOutcome (service : GatewayStreamService) :
    StreamAction → GatewayStreamService → Prop where
  | quiet {action : StreamAction} {next : GatewayStreamService} (quiet : Quiet service next) :
      StreamOutcome service action next
  | connected (peerIdentity : String) :
      StreamOutcome service (.connect peerIdentity)
        { service.setReactor service.peers.length
            (some { authenticatedPeer := peerIdentity }) with
          peers := service.peers ++ [peerIdentity] }
  | rejected {id : Nat} {reactor : GatewayStreamReactor} {request : RegisterGateway}
      {next : GatewayStreamService} (alive : service.reactors id = some reactor)
      (answered : Quiet (service.setReactor id (some (reactor.named request))) next) :
      StreamOutcome service (.readRegister id request) next
  | registered {id : Nat} {reactor : GatewayStreamReactor} {request : RegisterGateway}
      {next : GatewayStreamService} (alive : service.reactors id = some reactor)
      (bound : service.requirePeerIdentity = true →
        reactor.authenticatedPeer = request.gatewayId)
      (answered : Quiet ((service.setReactor id
        (some { reactor.named request with registered := true })).register request.gatewayId
          request.instanceId id) next) :
      StreamOutcome service (.readRegister id request) next
  | posted {id : Nat} {reactor : GatewayStreamReactor} {command : CommandEnvelope}
      {nowUnixMs : Int} (alive : service.reactors id = some reactor)
      (isRegistered : reactor.registered = true)
      (inTime : nowUnixMs < command.deadlineUnixMs) :
      StreamOutcome service (.readCommand id command nowUnixMs true)
        { service with
          tasks := service.tasks ++ [{
            originGatewayId := reactor.gatewayId
            originInstanceId := reactor.instanceId
            originReactor := id
            command }] }
  | done {id : Nat} {reactor : GatewayStreamReactor} (alive : service.reactors id = some reactor) :
      StreamOutcome service (.done id) (service.onDone id reactor)

theorem streamStep_outcome {service next : GatewayStreamService} {action : StreamAction}
    (taken : streamStep service action = some next) : StreamOutcome service action next := by
  cases action with
  | connect peerIdentity =>
    cases taken
    exact .connected peerIdentity
  | readRegister id request =>
    obtain ⟨reactor, alive, rfl⟩ := map_eq_some_iff.mp taken
    rcases handleRegister_cases service id reactor request with answered | ⟨bound, answered⟩
    · exact .rejected alive answered
    · exact .registered alive bound answered
  | readCommand id command nowUnixMs posted =>
    obtain ⟨reactor, alive, rfl⟩ := map_eq_some_iff.mp taken
    unfold handleCommand
    split_ifs with unregistered late accepted
    · exact .quiet (quiet_enqueueOn_live alive _)
    · exact .quiet (quiet_enqueueOn_live alive _)
    · subst accepted
      exact .posted alive (by simpa using (not_or.mp unregistered).1) (by omega)
    · exact .quiet (quiet_enqueueOn_live alive _)
  | readHeartbeat id sentAtUnixMs sequence =>
    obtain ⟨reactor, alive, rfl⟩ := map_eq_some_iff.mp taken
    exact .quiet (quiet_enqueueOn_live alive _)
  | writeDone id =>
    obtain ⟨reactor, alive, rfl⟩ := map_eq_some_iff.mp taken
    exact .quiet (quiet_setReactor alive reactor.identity_onWriteDone)
  | finish id =>
    obtain ⟨reactor, alive, rfl⟩ := map_eq_some_iff.mp taken
    exact .quiet (quiet_setReactor alive rfl)
  | done id =>
    obtain ⟨reactor, alive, rfl⟩ := map_eq_some_iff.mp taken
    exact .done alive
  | deliver lease envelope =>
    cases taken
    exact .quiet (quiet_deliver service lease envelope)
  | reply task result =>
    simp only [streamStep] at taken
    split_ifs at taken
    cases taken
    exact .quiet (quiet_reply service _ _ _ _)
  | drainAll reason =>
    cases taken
    exact .quiet (quiet_drainAll service reason)

/-! ### No entry outlives its stream -/

/-- Every entry points at a live reactor that knows the entry's ids. -/
structure EntriesLive (service : GatewayStreamService) : Prop where
  unused : ∀ id, service.peers.length ≤ id → service.identities id = none
  keys : (service.streams.map Prod.fst).Nodup
  live : ∀ entry ∈ service.streams, ∃ who, service.identities entry.2.reactor = some who ∧
    who.gatewayId = entry.1 ∧ who.instanceId = entry.2.instanceId
  safe : service.useAfterDelete = false

/-- A register frame on a stream that is in the registry repeats the ids of the entry. -/
def KeepsIds (service : GatewayStreamService) : StreamAction → Prop
  | .readRegister id request => ∀ entry ∈ service.streams, entry.2.reactor = id →
      request.gatewayId = entry.1 ∧ request.instanceId = entry.2.instanceId
  | _ => True

namespace EntriesLive

variable {service next : GatewayStreamService}

section

variable (sound : EntriesLive service)
include sound

theorem of_quiet (quiet : Quiet service next) : EntriesLive next where
  unused := by
    rw [quiet.peers, quiet.identities]
    exact sound.unused
  keys := by
    rw [quiet.streams]
    exact sound.keys
  live := by
    rw [quiet.streams, quiet.identities]
    exact sound.live
  safe := by
    by_contra misused
    rcases quiet.misuse (by simpa using misused) with earlier | ⟨entry, member, gone⟩
    · rw [sound.safe] at earlier
      cases earlier
    obtain ⟨who, alive, _⟩ := sound.live entry member
    rw [gone] at alive
    cases alive

theorem lt_peers (alive : service.reactors id = some reactor) : id < service.peers.length := by
  by_contra beyond
  have gone := identities_eq_none.mp (sound.unused id (by omega))
  rw [alive] at gone
  cases gone

theorem setReactor (reactor : GatewayStreamReactor) (known : id < service.peers.length)
    (ids : ∀ entry ∈ service.streams, entry.2.reactor = id →
      reactor.gatewayId = entry.1 ∧ reactor.instanceId = entry.2.instanceId) :
    EntriesLive (service.setReactor id (some reactor)) where
  unused other beyond := by
    have different : other ≠ id := fun same => by
      subst same
      exact absurd known (not_lt.mpr beyond)
    rw [identities_setReactor, update_of_ne different]
    exact sound.unused other beyond
  keys := sound.keys
  live entry member := by
    rw [identities_setReactor]
    by_cases same : entry.2.reactor = id
    · rw [same, update_self]
      exact ⟨reactor.identity, rfl, ids entry member same⟩
    · rw [update_of_ne same]
      exact sound.live entry member
  safe := sound.safe

theorem register (who : ReactorIdentity) (alive : service.identities id = some who) :
    EntriesLive (service.register who.gatewayId who.instanceId id) where
  unused := sound.unused
  keys := by
    refine nodup_cons.mpr ⟨?_, (filter_sublist.map Prod.fst).nodup sound.keys⟩
    rw [List.mem_map]
    rintro ⟨entry, member, key⟩
    exact of_decide_eq_true (mem_filter.mp member).2 key
  live := by
    refine forall_mem_cons.mpr ⟨⟨who, alive, rfl, rfl⟩, fun entry member => ?_⟩
    exact sound.live entry (mem_filter.mp member).1
  safe := sound.safe

theorem connected (peerIdentity : String) : EntriesLive { service.setReactor service.peers.length
        (some { authenticatedPeer := peerIdentity }) with
      peers := service.peers ++ [peerIdentity] } where
  unused id beyond := by
    rw [length_append, length_singleton] at beyond
    have fresh := identities_setReactor service service.peers.length
      (some { authenticatedPeer := peerIdentity })
    refine (congrFun fresh id).trans ?_
    rw [update_of_ne (by omega)]
    exact sound.unused id (by omega)
  keys := sound.keys
  live entry member := by
    obtain ⟨who, alive, ids⟩ := sound.live entry member
    refine ⟨who, ?_, ids⟩
    refine (congrFun (identities_setReactor service _ _) _).trans ?_
    rw [update_of_ne, alive]
    intro same
    rw [same, sound.unused _ le_rfl] at alive
    cases alive
  safe := sound.safe

theorem unregister (alive : service.reactors id = some reactor) :
    ∀ entry ∈ (service.unregister reactor.gatewayId reactor.instanceId id).streams,
      entry ∈ service.streams ∧ entry.2.reactor ≠ id := by
  have own : ∀ entry ∈ service.streams, entry.2.reactor = id →
      service.find reactor.gatewayId = some entry.2 ∧ entry.1 = reactor.gatewayId ∧
        entry.2.instanceId = reactor.instanceId := by
    intro entry member same
    obtain ⟨who, found, gateway, inst⟩ := sound.live entry member
    rw [same, identities, alive, map_some, some.injEq] at found
    subst found
    refine ⟨?_, gateway.symm, inst.symm⟩
    have first := Lists.find?_key sound.keys member
    rw [← gateway] at first
    exact map_eq_some_iff.mpr ⟨entry, first, rfl⟩
  intro entry member
  unfold GatewayStreamService.unregister at member
  split at member
  · grind
  · grind

theorem done (alive : service.reactors id = some reactor) :
    EntriesLive (service.onDone id reactor) := by
  have left := sound.unregister alive
  have closed := closed_onDone service id reactor
  exact {
    unused := fun other beyond => by
      rw [closed.peers] at beyond
      rw [closed.identities, update_apply]
      split_ifs
      · rfl
      · exact sound.unused other beyond
    keys := (closed.streams.map Prod.fst).nodup sound.keys
    live := fun entry member => by
      obtain ⟨stays, different⟩ := left entry member
      rw [closed.identities, update_of_ne different]
      exact sound.live entry stays
    safe := closed.useAfterDelete.trans sound.safe }

end

theorem step (action : StreamAction) (sound : EntriesLive service)
    (keeps : KeepsIds service action) (taken : streamStep service action = some next) :
    EntriesLive next := by
  cases streamStep_outcome taken with
  | quiet quiet => exact sound.of_quiet quiet
  | connected peerIdentity => exact sound.connected peerIdentity
  | @rejected id reactor request _ alive answered =>
    exact (sound.setReactor (reactor.named request) (sound.lt_peers alive) keeps).of_quiet answered
  | @registered id reactor request _ alive _ answered =>
    let entered : GatewayStreamReactor := { reactor.named request with registered := true }
    have renamed := sound.setReactor entered (sound.lt_peers alive) keeps
    refine (renamed.register entered.identity ?_).of_quiet answered
    rw [identities_setReactor, update_self, map_some]
  | posted alive _ _ => exact { sound with }
  | done alive => exact sound.done alive

theorem initial (messageNodeId : String) (requirePeerIdentity : Bool) :
    EntriesLive (initial messageNodeId requirePeerIdentity) where
  unused _ _ := rfl
  keys := nodup_nil
  live := forall_mem_nil _
  safe := rfl

end EntriesLive

/-- When every stream in the registry keeps to its ids, no entry refers to a reactor that is
done, and no call goes through the pointer of one. -/
theorem no_entry_outlives_its_stream {messageNodeId : String} {requirePeerIdentity : Bool}
    {actions : List StreamAction} {final : GatewayStreamService}
    (keeps : Transition.Along streamStep KeepsIds
      (initial messageNodeId requirePeerIdentity) actions)
    (taken : run streamStep
      (initial messageNodeId requirePeerIdentity) actions = some final) :
    (∀ id, final.reactors id = none → ∀ entry ∈ final.streams, entry.2.reactor ≠ id) ∧
      final.useAfterDelete = false := by
  have sound : EntriesLive final := run_invariant_along EntriesLive KeepsIds
    (fun _ action _ sound keeps taken => sound.step action keeps taken)
    (EntriesLive.initial messageNodeId requirePeerIdentity) keeps taken
  refine ⟨fun id gone entry member same => ?_, sound.safe⟩
  obtain ⟨who, alive, _⟩ := sound.live entry member
  rw [same, identities_eq_none.mpr gone] at alive
  cases alive

def streamsAfter (requirePeerIdentity : Bool) (actions : List StreamAction) :
    GatewayStreamService :=
  (run streamStep (initial "m" requirePeerIdentity) actions).getD (initial "m" requirePeerIdentity)

def replacedStream : List StreamAction :=
  [.connect "a", .readRegister 0 { gatewayId := "a", instanceId := "i" },
    .readRegister 0 { gatewayId := "a", instanceId := "i" }, .connect "a",
    .readRegister 1 { gatewayId := "a", instanceId := "i" }, .finish 0, .done 0,
    .drainAll "stop", .done 1]

theorem no_entry_outlives_its_stream_replaced :
    (∀ id, (streamsAfter true replacedStream).reactors id = none →
        ∀ entry ∈ (streamsAfter true replacedStream).streams, entry.2.reactor ≠ id) ∧
      (streamsAfter true replacedStream).useAfterDelete = false := by
  have keeps : Transition.Along streamStep KeepsIds (initial "m" true) replacedStream := by
    refine along_cons trivial rfl ?_
    refine along_cons (forall_mem_nil _) rfl ?_
    refine along_cons (show ∀ entry ∈ [("a", RegisteredStream.mk "i" 0)], _ by decide) rfl ?_
    refine along_cons trivial rfl ?_
    refine along_cons (show ∀ entry ∈ [("a", RegisteredStream.mk "i" 0)], _ by decide) rfl ?_
    refine along_cons trivial rfl ?_
    refine along_cons trivial rfl ?_
    refine along_cons trivial rfl ?_
    exact along_cons trivial rfl trivial
  exact no_entry_outlives_its_stream keeps rfl

/-- A registered stream sends a second frame under another id. The frame is rejected, but the
stream closes under the new id and leaves its entry behind; draining then calls through it. -/
theorem rejected_register_leaves_entry :
    let closed := streamsAfter true
      [.connect "a", .readRegister 0 { gatewayId := "a", instanceId := "i" },
        .readRegister 0 { gatewayId := "b", instanceId := "i" }, .finish 0, .done 0]
    closed.reactors 0 = none ∧ ("a", RegisteredStream.mk "i" 0) ∈ closed.streams ∧
      (closed.drainAll "stop").useAfterDelete = true := by
  decide +kernel

/-! ### A gateway acts under its own id -/

/-- The registry names every stream by its authenticated peer. -/
structure EntriesBound (service : GatewayStreamService) : Prop where
  required : service.requirePeerIdentity = true
  peers : ∀ id who, service.identities id = some who →
    service.peers[id]? = some who.authenticatedPeer
  entries : ∀ entry ∈ service.streams, service.peers[entry.2.reactor]? = some entry.1

/-- A register frame on a registered stream names the authenticated peer again. -/
def KeepsPeer (service : GatewayStreamService) : StreamAction → Prop
  | .readRegister id request => ∀ reactor, service.reactors id = some reactor →
      reactor.registered = true → request.gatewayId = reactor.authenticatedPeer
  | _ => True

/-- Registered reactors and posted commands carry the id of the authenticated peer. -/
structure ActsAsPeer (service : GatewayStreamService) : Prop where
  registered : ∀ id who, service.identities id = some who → who.registered = true →
    who.gatewayId = who.authenticatedPeer
  tasks : ∀ task ∈ service.tasks,
    service.peers[task.originReactor]? = some task.originGatewayId

section Peers

variable {service next : GatewayStreamService}

section

variable {property : Nat → ReactorIdentity → Prop}
  (all : ∀ id who, service.identities id = some who → property id who)
include all

theorem forall_identities_setReactor (here : property id reactor.identity) :
    ∀ other who, (service.setReactor id (some reactor)).identities other = some who →
      property other who := by
  intro other who present
  rw [identities_setReactor] at present
  rcases update_eq_some present with ⟨rfl, rfl⟩ | ⟨_, earlier⟩
  · exact here
  · exact all other who earlier

theorem forall_identities_closed (closed : Closed service next id) :
    ∀ other who, next.identities other = some who → property other who := by
  intro other who present
  rw [closed.identities, update_apply] at present
  split_ifs at present
  exact all other who present

end

theorem getElem?_concat {peers : List String} {peer other : String}
    (present : peers[id]? = some peer) : (peers ++ [other])[id]? = some peer := by
  rw [getElem?_append_left (List.getElem?_eq_some_iff.mp present).1, present]

namespace EntriesBound

section

variable (bound : EntriesBound service)
include bound

theorem of_quiet (quiet : Quiet service next) : EntriesBound next where
  required := quiet.requirePeerIdentity.trans bound.required
  peers := by
    rw [quiet.identities, quiet.peers]
    exact bound.peers
  entries := by
    rw [quiet.streams, quiet.peers]
    exact bound.entries

theorem peer_of_alive (alive : service.reactors id = some reactor) :
    service.peers[id]? = some reactor.authenticatedPeer :=
  bound.peers id reactor.identity (by rw [identities, alive, map_some])

theorem setReactor (reactor : GatewayStreamReactor)
    (peer : service.peers[id]? = some reactor.authenticatedPeer) :
    EntriesBound (service.setReactor id (some reactor)) where
  required := bound.required
  peers := forall_identities_setReactor bound.peers peer
  entries := bound.entries

theorem register {gatewayId : String} (instanceId : String)
    (peer : service.peers[id]? = some gatewayId) :
    EntriesBound (service.register gatewayId instanceId id) where
  required := bound.required
  peers := bound.peers
  entries := forall_mem_cons.mpr
    ⟨peer, fun entry member => bound.entries entry (mem_filter.mp member).1⟩

theorem connected (peerIdentity : String) : EntriesBound { service.setReactor service.peers.length
        (some { authenticatedPeer := peerIdentity }) with
      peers := service.peers ++ [peerIdentity] } where
  required := bound.required
  peers := forall_identities_setReactor
    (fun id who alive => getElem?_concat (bound.peers id who alive)) getElem?_concat_length
  entries entry member := getElem?_concat (bound.entries entry member)

theorem of_closed (closed : Closed service next id) : EntriesBound next where
  required := closed.requirePeerIdentity.trans bound.required
  peers := by
    rw [closed.peers]
    exact forall_identities_closed bound.peers closed
  entries entry member := by
    rw [closed.peers]
    exact bound.entries entry (closed.streams.subset member)

end

theorem step (action : StreamAction) (bound : EntriesBound service)
    (taken : streamStep service action = some next) : EntriesBound next := by
  cases streamStep_outcome taken with
  | quiet quiet => exact bound.of_quiet quiet
  | connected peerIdentity => exact bound.connected peerIdentity
  | @rejected id reactor request _ alive answered =>
    have peer := bound.peer_of_alive alive
    exact (bound.setReactor (reactor.named request) peer).of_quiet answered
  | @registered id reactor request _ alive identified answered =>
    have peer := bound.peer_of_alive alive
    have entered := bound.setReactor { reactor.named request with registered := true } peer
    refine (entered.register request.instanceId ?_).of_quiet answered
    exact identified bound.required ▸ peer
  | posted _ _ _ => exact { bound with }
  | @done id reactor _ => exact bound.of_closed (closed_onDone service id reactor)

theorem initial (messageNodeId : String) :
    EntriesBound (initial messageNodeId true) where
  required := rfl
  peers := nofun
  entries := forall_mem_nil _

end EntriesBound

namespace ActsAsPeer

section

variable (acts : ActsAsPeer service)
include acts

theorem of_quiet (quiet : Quiet service next) : ActsAsPeer next where
  registered := by
    rw [quiet.identities]
    exact acts.registered
  tasks := by
    rw [quiet.tasks, quiet.peers]
    exact acts.tasks

theorem setReactor (id : Nat) (reactor : GatewayStreamReactor)
    (own : reactor.registered = true → reactor.gatewayId = reactor.authenticatedPeer) :
    ActsAsPeer (service.setReactor id (some reactor)) where
  registered := forall_identities_setReactor acts.registered own
  tasks := acts.tasks

theorem connected (peerIdentity : String) : ActsAsPeer { service.setReactor service.peers.length
        (some { authenticatedPeer := peerIdentity }) with
      peers := service.peers ++ [peerIdentity] } where
  registered := forall_identities_setReactor acts.registered nofun
  tasks task member := getElem?_concat (acts.tasks task member)

theorem posted (bound : EntriesBound service) (alive : service.reactors id = some reactor)
    (isRegistered : reactor.registered = true) (command : CommandEnvelope) :
    ActsAsPeer { service with
      tasks := service.tasks ++ [{
        originGatewayId := reactor.gatewayId
        originInstanceId := reactor.instanceId
        originReactor := id
        command }] } where
  registered := acts.registered
  tasks := by
    refine forall_mem_append.mpr ⟨acts.tasks, forall_mem_singleton.mpr ?_⟩
    have own : reactor.gatewayId = reactor.authenticatedPeer :=
      acts.registered id reactor.identity (by rw [identities, alive, map_some]) isRegistered
    exact own ▸ bound.peer_of_alive alive

theorem of_closed (closed : Closed service next id) : ActsAsPeer next where
  registered := forall_identities_closed acts.registered closed
  tasks := by
    rw [closed.peers, closed.tasks]
    exact acts.tasks

end

theorem step (action : StreamAction) (acts : ActsAsPeer service) (bound : EntriesBound service)
    (keeps : KeepsPeer service action) (taken : streamStep service action = some next) :
    ActsAsPeer next := by
  cases streamStep_outcome taken with
  | quiet quiet => exact acts.of_quiet quiet
  | connected peerIdentity => exact acts.connected peerIdentity
  | @rejected id reactor request _ alive answered =>
    exact (acts.setReactor id (reactor.named request) (keeps reactor alive)).of_quiet answered
  | @registered id reactor request _ alive identified answered =>
    refine ActsAsPeer.of_quiet ?_ answered
    have entered := acts.setReactor id { reactor.named request with registered := true }
      fun _ => (identified bound.required).symm
    exact { entered with }
  | posted alive isRegistered _ => exact acts.posted bound alive isRegistered _
  | @done id reactor _ => exact acts.of_closed (closed_onDone service id reactor)

theorem initial (messageNodeId : String) :
    ActsAsPeer (initial messageNodeId true) where
  registered := nofun
  tasks := forall_mem_nil _

end ActsAsPeer

end Peers

/-- With peer identities required, the registry names every stream by its peer; and when every
registered stream keeps naming its peer, each command reaches the worker pool under the id of
the peer it came from. -/
theorem commands_carry_the_peer_identity {messageNodeId : String} {actions : List StreamAction}
    {final : GatewayStreamService}
    (taken : run streamStep (initial messageNodeId true) actions =
      some final) :
    (∀ entry ∈ final.streams, final.peers[entry.2.reactor]? = some entry.1) ∧
      (Transition.Along streamStep KeepsPeer (initial messageNodeId true) actions →
        ∀ task ∈ final.tasks, final.peers[task.originReactor]? = some task.originGatewayId) := by
  have start := EntriesBound.initial messageNodeId
  refine ⟨(run_invariant EntriesBound
    (fun _ action _ bound taken => bound.step action taken) start taken).entries,
    fun keeps => ?_⟩
  have both := run_invariant_along
    (fun service => EntriesBound service ∧ ActsAsPeer service) KeepsPeer
    (fun _ action _ sound keeps taken =>
      ⟨sound.1.step action taken, sound.2.step action sound.1 keeps taken⟩)
    ⟨start, ActsAsPeer.initial messageNodeId⟩ keeps taken
  exact both.2.tasks

def sampleCommand : CommandEnvelope where
  requestId := "r"
  actorUid := 1
  connectionId := "c"
  connectionGeneration := 1
  serviceId := ServiceId.textSendReq
  conversationId := 0
  deadlineUnixMs := 1000
  packet := "p"

def faithfulStream : List StreamAction :=
  [.connect "a", .readRegister 0 { gatewayId := "a", instanceId := "i" },
    .readRegister 0 { gatewayId := "a", instanceId := "j" }, .readCommand 0 sampleCommand 0 true]

theorem commands_carry_the_peer_identity_faithful :
    (∀ entry ∈ (streamsAfter true faithfulStream).streams,
        (streamsAfter true faithfulStream).peers[entry.2.reactor]? = some entry.1) ∧
      ∀ task ∈ (streamsAfter true faithfulStream).tasks,
        (streamsAfter true faithfulStream).peers[task.originReactor]? =
          some task.originGatewayId := by
  have keeps : Transition.Along streamStep KeepsPeer (initial "m" true) faithfulStream := by
    refine along_cons trivial rfl ?_
    refine along_cons (fun reactor alive registered => ?_) rfl ?_
    · cases alive
      cases registered
    refine along_cons (fun reactor alive _ => ?_) rfl ?_
    · cases alive
      rfl
    exact along_cons trivial rfl trivial
  have bound := @commands_carry_the_peer_identity "m" faithfulStream
    (streamsAfter true faithfulStream) rfl
  exact ⟨bound.1, bound.2 keeps⟩

/-- Peer `a` registers, then sends a register frame as `b`, which is rejected; its next command
is posted as one of gateway `b`. -/
theorem rejected_register_changes_origin :
    let service := streamsAfter true
      [.connect "a", .readRegister 0 { gatewayId := "a", instanceId := "i" },
        .readRegister 0 { gatewayId := "b", instanceId := "i" },
        .readCommand 0 sampleCommand 0 true]
    service.peers[0]? = some "a" ∧
      service.tasks = [⟨"b", "i", 0, sampleCommand⟩] := by
  decide +kernel

end Wimi.Server
