/-
This file models how a `GatewaySession` handles the packets of its client, and proves
that a command can only be forwarded under the identity the session has proved.

The session handles one packet after the other. A login is authenticated on another
thread, and the lease of an active session is refreshed there; the session waits for
both. Everything that goes to a Message node is put together at one place, from the
user id, the lease and the connection id of the session; what the packet says about its
sender is overwritten. The user id is written by logins only, and a login under another
user id is refused once there is one.

The history beside the state has the successful logins and the forwarded commands in
their order. The invariant is that user id and lease are those of the latest login.
-/

import Wimi.Server.SessionLease
import Wimi.Server.Receipts

namespace Wimi.Gateway.Session

open List Transition

open Wimi.Server (SessionLease ReceiptType)

/-! ### Packets -/

/-- A packet with the fields the session reads or sets; `Rest` stands for the others, `from`
among them. -/
structure Packet (Rest : Type) where
  uid : Int := 0
  authToken : Option String := none
  init : Bool := false
  name : String := ""
  age : Int := 0
  sex : String := ""
  headImageUrl : String := ""
  seq : Option Int := none
  receiptType : ReceiptType := .unspecified
  requestId : Option String := none
  conversationId : Option Int := none
  requestTimeoutMs : Option Int := none
  rest : Rest
deriving DecidableEq, Repr

structure PacketCodec (Rest Wire : Type) where
  serialize : Packet Rest → Wire
  parse : Wire → Option (Packet Rest)
  parse_serialize : ∀ packet, parse (serialize packet) = some packet

structure Command (Wire : Type) where
  requestId : String
  actorUid : Int
  connectionId : String
  connectionGeneration : UInt64
  serviceId : UInt32
  conversationId : Int
  deadlineUnixMs : Int
  packet : Wire
deriving DecidableEq, Repr

structure Reply where
  serviceId : UInt32
  uid : Int := 0
  error : Int
  message : String := ""
deriving DecidableEq, Repr

def tokenInvalid : Int := 1009

def uidInvalid : Int := 1010

def pingReq : UInt32 := 1011

def loginInitReq : UInt32 := 1013

def userQuitReq : UInt32 := 1015

def kDefaultRequestTimeout : Int := 3000

/-! ### The session -/

structure UserInfo where
  name : String
  age : Int
  sex : String
  headImageURL : String
deriving DecidableEq, Repr

/-- What `Authenticate` is told by the stores: whether the token is the stored one, whether the
profile could be inserted, the stored profile, and the lease that `Bind` returns. -/
structure AuthAnswers where
  tokenValid : Bool
  inserted : Bool
  stored : Option UserInfo
  lease : SessionLease
deriving DecidableEq, Repr

structure Login where
  uid : Int
  info : UserInfo
  lease : SessionLease
deriving DecidableEq, Repr

inductive Event (Wire : Type) where
  | login (uid : Int) (lease : SessionLease)
  | forwarded (command : Command Wire)
deriving DecidableEq, Repr

inductive Handling (Rest : Type) where
  | idle
  | authenticating (request : Packet Rest)
  | refreshing (protocolId : UInt32) (request : Packet Rest) (actor : Int)
deriving DecidableEq, Repr

structure Readings where
  steadyNow : Int
  unixNow : Int
  linked : Bool
deriving DecidableEq, Repr

structure GatewaySession (Rest Wire : Type) where
  connectionId : String
  userId : Int := 0
  lease : SessionLease := {}
  lastLeaseRefresh : Int := 0
  rateWindowStarted : Int
  commandsInRateWindow : Nat := 0
  requestSequence : Nat := 0
  closed : Bool := false
  closeAfterWrite : Bool := false
  reliableWrites : List Int := []
  replies : List Reply := []
  handling : Handling Rest := .idle
  history : List (Event Wire) := []

variable {Rest Wire : Type}

def Packet.userInfo (request : Packet Rest) : UserInfo where
  name := request.name
  age := request.age
  sex := request.sex
  headImageURL := request.headImageUrl

namespace GatewaySession

variable (codec : PacketCodec Rest Wire) (session : GatewaySession Rest Wire)

def sendRaw (reply : Reply) : GatewaySession Rest Wire :=
  if session.closed then session else { session with replies := session.replies ++ [reply] }

def sendError (requestId : UInt32) (error : Int) (message : String) : GatewaySession Rest Wire :=
  session.sendRaw { serviceId := getServiceResponseId requestId, error, message }

/-- `Authenticate`, with the error and its text. -/
def authenticate (request : Packet Rest) (answers : AuthAnswers) : Except (Int × String) Login :=
  if request.uid ≤ 0 ∨ request.authToken = none ∨ answers.tokenValid = false then
    .error (tokenInvalid, "invalid or expired connection token")
  else if 0 < session.userId ∧ session.userId ≠ request.uid then
    .error (uidInvalid, "connection is already bound")
  else
    match if request.init ∧ answers.inserted then some request.userInfo else answers.stored with
    | none =>
      if request.init then .error (ErrorCode.mysqlFailed.code, "")
      else .error (ErrorCode.notFound.code, "user profile not found")
    | some info =>
      if answers.lease.empty then
        .error (ErrorCode.dependencyUnavailable.code, "failed to publish session lease")
      else .ok ⟨request.uid, info, answers.lease⟩

def finishLogin (request : Packet Rest) (answers : AuthAnswers) (now : Int) :
    GatewaySession Rest Wire :=
  match session.authenticate request answers with
  | .error (error, message) =>
    let refused := { session with handling := .idle }
    refused.sendRaw
      { serviceId := getServiceResponseId loginInitReq, error, message }
  | .ok login =>
    let accepted : GatewaySession Rest Wire := { session with
      handling := .idle
      lease := login.lease
      userId := login.uid
      lastLeaseRefresh := now
      history := session.history ++ [.login login.uid login.lease] }
    accepted.sendRaw { serviceId := getServiceResponseId loginInitReq, uid := login.uid,
                       error := ErrorCode.success.code }

def closeInContext : GatewaySession Rest Wire :=
  { session with closed := true, reliableWrites := [] }

def acknowledgeTransport (ackSeq : Int) : GatewaySession Rest Wire :=
  { session with reliableWrites := session.reliableWrites.filter (· ≠ ackSeq) }

def nextRequestId : String :=
  session.connectionId ++ ":" ++ toString (session.requestSequence + 1)

def stamp (request : Packet Rest) (actor : Int) : Packet Rest :=
  { request with
    uid := actor
    requestId := some ((request.requestId.filter (· ≠ "")).getD session.nextRequestId) }

def envelope (protocolId : UInt32) (stamped : Packet Rest) (actor unixNow : Int) :
    Command Wire where
  requestId := stamped.requestId.getD ""
  actorUid := actor
  connectionId := session.connectionId
  connectionGeneration := UInt64.ofInt session.lease.generation
  serviceId := protocolId
  conversationId := stamped.conversationId.getD 0
  deadlineUnixMs := unixNow +
    match stamped.requestTimeoutMs.filter (0 < ·) with
    | some timeout => min kDefaultRequestTimeout timeout
    | none => kDefaultRequestTimeout
  packet := codec.serialize stamped

def forward (protocolId : UInt32) (request : Packet Rest) (actor : Int) (readings : Readings) :
    GatewaySession Rest Wire :=
  let stamped := session.stamp request actor
  let command := session.envelope codec protocolId stamped actor readings.unixNow
  let sent := { session with
    requestSequence :=
      if (request.requestId.filter (· ≠ "")).isSome then session.requestSequence
      else session.requestSequence + 1
    history := session.history ++ [.forwarded command] }
  if readings.linked ∨ protocolId = ServiceId.ack then sent
  else sent.sendError protocolId ErrorCode.dependencyUnavailable.code "no healthy message stream"

def countCommand (now : Int) : GatewaySession Rest Wire :=
  if 1000 ≤ now - session.rateWindowStarted then
    { session with rateWindowStarted := now, commandsInRateWindow := 1 }
  else { session with commandsInRateWindow := (session.commandsInRateWindow + 1) % 2 ^ 32 }

def limitAndForward (protocolId : UInt32) (request : Packet Rest) (actor : Int)
    (readings : Readings) : GatewaySession Rest Wire :=
  let counted := session.countCommand readings.steadyNow
  if 100 < counted.commandsInRateWindow then
    counted.sendError protocolId ErrorCode.resourceExhausted.code "connection command rate exceeded"
  else counted.forward codec protocolId request actor readings

/-- `HandlePacket` behind the lease: pings, the end of the session and receipts of the transport
are handled here, and the rest is forwarded. -/
def handleCommand (protocolId : UInt32) (request : Packet Rest) (actor : Int)
    (readings : Readings) : GatewaySession Rest Wire :=
  if protocolId = pingReq then
    session.sendRaw { serviceId := getServiceResponseId pingReq, uid := actor,
                      error := ErrorCode.success.code }
  else if protocolId = userQuitReq then
    { session.sendRaw { serviceId := getServiceResponseId userQuitReq,
                        error := ErrorCode.success.code } with closeAfterWrite := true }
  else if protocolId = ServiceId.ack then
    let acknowledged :=
      match request.seq.filter (0 < ·) with
      | some seq => session.acknowledgeTransport seq
      | none => session
    if request.receiptType = .transport then acknowledged
    else acknowledged.limitAndForward codec protocolId request actor readings
  else session.limitAndForward codec protocolId request actor readings

/-- `HandlePacket` up to the first wait. -/
def handlePacket (protocolId : UInt32) (payload : Wire) (readings : Readings) :
    GatewaySession Rest Wire :=
  match codec.parse payload with
  | none => session.sendError protocolId ErrorCode.jsonParser.code "invalid protobuf packet"
  | some request =>
    if protocolId = loginInitReq then { session with handling := .authenticating request }
    else if session.userId ≤ 0 then
      session.sendError protocolId ErrorCode.authenticationRequired.code
        "gateway session is not authenticated"
    else if 20000 ≤ readings.steadyNow - session.lastLeaseRefresh then
      { session with handling := .refreshing protocolId request session.userId }
    else session.handleCommand codec protocolId request session.userId readings

end GatewaySession

open GatewaySession

/-- A packet arrives, which a read completed before the close may still bring; an answer to what
the handling waits for; a delivery is written with a receipt to come, or given up; the session is
closed from outside or its last reply is written. -/
inductive Action (Wire : Type) where
  | receive (protocolId : UInt32) (payload : Wire) (readings : Readings)
  | authenticated (answers : AuthAnswers) (now : Int)
  | refreshed (success : Bool) (readings : Readings)
  | sendReliable (ackSeq : Int)
  | expireReliable (ackSeq : Int)
  | close

def step (codec : PacketCodec Rest Wire) (session : GatewaySession Rest Wire) :
    Action Wire → Option (GatewaySession Rest Wire)
  | .receive protocolId payload readings =>
    match session.handling with
    | .idle => some (session.handlePacket codec protocolId payload readings)
    | _ => none
  | .authenticated answers now =>
    match session.handling with
    | .authenticating request => some (session.finishLogin request answers now)
    | _ => none
  | .refreshed success readings =>
    match session.handling with
    | .refreshing protocolId request actor =>
      if success then
        some ({ session with
          handling := .idle, lastLeaseRefresh := readings.steadyNow }.handleCommand codec protocolId
            request actor readings)
      else some { session.closeInContext with handling := .idle }
    | _ => none
  | .sendReliable ackSeq =>
    if session.closed then none
    else some { session with reliableWrites := ackSeq :: session.reliableWrites }
  | .expireReliable ackSeq => some (session.acknowledgeTransport ackSeq)
  | .close => some session.closeInContext

/-! ### What may be forwarded -/

def latestLogin (history : List (Event Wire)) : Option (Int × SessionLease) :=
  (history.filterMap fun event =>
    match event with
    | .login uid lease => some (uid, lease)
    | .forwarded _ => none).getLast?

@[simp] theorem latestLogin_concat_login (history : List (Event Wire)) (uid : Int)
    (lease : SessionLease) : latestLogin (history ++ [.login uid lease]) = some (uid, lease) := by
  rw [latestLogin, filterMap_append]
  exact getLast?_concat

@[simp] theorem latestLogin_concat_forwarded (history : List (Event Wire))
    (command : Command Wire) :
    latestLogin (history ++ [.forwarded command]) = latestLogin history := by
  rw [latestLogin, filterMap_append]
  exact congrArg getLast? (append_nil _)

theorem mem_of_latestLogin {history : List (Event Wire)} {uid : Int} {lease : SessionLease}
    (latest : latestLogin history = some (uid, lease)) : .login uid lease ∈ history := by
  obtain ⟨event, member, read⟩ := mem_filterMap.mp (mem_of_getLast? latest)
  cases event with
  | login other otherLease =>
    cases read
    exact member
  | forwarded command => cases read

/-- The command is under the identity of a login: it names the user, and so does the packet in
it, and it has the connection of the session and the generation of the lease. -/
structure Names (codec : PacketCodec Rest Wire) (connectionId : String) (uid : Int)
    (lease : SessionLease) (command : Command Wire) : Prop where
  actor : command.actorUid = uid
  packet : ∃ packet, codec.parse command.packet = some packet ∧ packet.uid = uid
  connection : command.connectionId = connectionId
  generation : command.connectionGeneration = UInt64.ofInt lease.generation

/-- Every command was forwarded behind a login and under the identity of the latest one. -/
def Authorised (codec : PacketCodec Rest Wire) (connectionId : String)
    (history : List (Event Wire)) : Prop :=
  ∀ before command after, history = before ++ .forwarded command :: after →
    ∃ uid lease, latestLogin before = some (uid, lease) ∧ Names codec connectionId uid lease command

/-- User id and lease are those of the latest login, and all logins were of this user; a command
that waits has its actor. -/
structure Bound (codec : PacketCodec Rest Wire) (session : GatewaySession Rest Wire) : Prop where
  login : latestLogin session.history =
    if 0 < session.userId then some (session.userId, session.lease) else none
  users : ∀ uid lease, .login uid lease ∈ session.history →
    0 < session.userId ∧ uid = session.userId
  waiting : ∀ protocolId request actor, session.handling = .refreshing protocolId request actor →
    0 < session.userId ∧ actor = session.userId
  authorised : Authorised codec session.connectionId session.history

def Keeps (before after : GatewaySession Rest Wire) : Prop :=
  after.connectionId = before.connectionId ∧ (0 < before.userId → after.userId = before.userId)

structure Quiet (before after : GatewaySession Rest Wire) : Prop where
  connectionId : after.connectionId = before.connectionId
  userId : after.userId = before.userId
  lease : after.lease = before.lease
  history : after.history = before.history
  handling : after.handling = before.handling

/-! ### One step -/

section Rules

variable {codec : PacketCodec Rest Wire} {session after : GatewaySession Rest Wire}

section

variable (session : GatewaySession Rest Wire)

theorem Quiet.refl : Quiet session session :=
  ⟨rfl, rfl, rfl, rfl, rfl⟩

theorem quiet_sendRaw (reply : Reply) : Quiet session (session.sendRaw reply) := by
  rw [sendRaw]
  split <;> exact ⟨rfl, rfl, rfl, rfl, rfl⟩

theorem quiet_countCommand (now : Int) : Quiet session (session.countCommand now) := by
  rw [countCommand]
  split <;> exact ⟨rfl, rfl, rfl, rfl, rfl⟩

theorem quiet_closeInContext : Quiet session session.closeInContext := ⟨rfl, rfl, rfl, rfl, rfl⟩

theorem quiet_acknowledgeTransport (ackSeq : Int) :
    Quiet session (session.acknowledgeTransport ackSeq) := ⟨rfl, rfl, rfl, rfl, rfl⟩

end

structure Acts (codec : PacketCodec Rest Wire) (before after : GatewaySession Rest Wire) :
    Prop where
  bound : Bound codec after
  keeps : Keeps before after

theorem Quiet.acts (quiet : Quiet session after) (bound : Bound codec session) :
    Acts codec session after where
  bound :=
    { login := by rw [quiet.history, quiet.userId, quiet.lease, bound.login]
      users := by
        rw [quiet.userId, quiet.history]
        exact bound.users
      waiting := by
        rw [quiet.userId, quiet.handling]
        exact bound.waiting
      authorised := by
        rw [quiet.connectionId, quiet.history]
        exact bound.authorised }
  keeps := ⟨quiet.connectionId, fun _ => quiet.userId⟩

theorem Acts.quiet_left {middle : GatewaySession Rest Wire} (quiet : Quiet session middle)
    (acts : Acts codec middle after) : Acts codec session after :=
  ⟨acts.bound, acts.keeps.1.trans quiet.connectionId, fun positive =>
    (acts.keeps.2 (quiet.userId ▸ positive)).trans quiet.userId⟩

theorem Acts.quiet_right {middle : GatewaySession Rest Wire} (acts : Acts codec session middle)
    (quiet : Quiet middle after) : Acts codec session after :=
  ⟨(quiet.acts acts.bound).bound, quiet.connectionId.trans acts.keeps.1, fun positive =>
    quiet.userId.trans (acts.keeps.2 positive)⟩

theorem Bound.idle (bound : Bound codec session) :
    Bound codec { session with handling := .idle } :=
  ⟨bound.login, bound.users, (fun _ _ _ wrong => by cases wrong), bound.authorised⟩

theorem Authorised.concat {connectionId : String} {history : List (Event Wire)} {event : Event Wire}
    (authorised : Authorised codec connectionId history)
    (last : ∀ command, event = .forwarded command → ∃ uid lease,
      latestLogin history = some (uid, lease) ∧ Names codec connectionId uid lease command) :
    Authorised codec connectionId (history ++ [event]) := by
  intro before command after split
  rcases eq_nil_or_concat after with rfl | ⟨initial, final, rfl⟩
  · obtain ⟨rfl, same⟩ := append_inj' split rfl
    exact last command (head_eq_of_cons_eq same)
  rw [concat_eq_append, ← cons_append, ← append_assoc] at split
  obtain ⟨rfl, _⟩ := append_inj' split rfl
  exact authorised before command initial rfl

/-- A stamped packet in its envelope names the user and the lease of the session. -/
theorem names_envelope (codec : PacketCodec Rest Wire) (session : GatewaySession Rest Wire)
    (protocolId : UInt32) (request : Packet Rest) (unixNow : Int) :
    Names codec session.connectionId session.userId session.lease
      (session.envelope codec protocolId (session.stamp request session.userId) session.userId
        unixNow) where
  actor := rfl
  packet := ⟨_, codec.parse_serialize _, rfl⟩
  connection := rfl
  generation := rfl

section

variable (bound : Bound codec session) (positive : 0 < session.userId) (protocolId : UInt32)
  (request : Packet Rest) (readings : Readings)
include bound positive

theorem Bound.forward : Acts codec session
      (session.forward codec protocolId request session.userId readings) := by
  have login := bound.login
  rw [if_pos positive] at login
  have sent : ∀ requestSequence, Acts codec session { session with
      requestSequence
      history := session.history ++ [.forwarded (session.envelope codec protocolId
        (session.stamp request session.userId) session.userId readings.unixNow)] } := by
    intro requestSequence
    refine ⟨⟨?_, fun uid lease member => ?_, bound.waiting, bound.authorised.concat ?_⟩, rfl,
      fun _ => rfl⟩
    · exact (latestLogin_concat_forwarded _ _).trans bound.login
    · rcases mem_append.mp member with old | new
      · exact bound.users uid lease old
      · cases mem_singleton.mp new
    · grind [names_envelope]
  rw [GatewaySession.forward]
  split
  · exact sent _
  · exact (sent _).quiet_right (quiet_sendRaw _ _)

theorem Bound.limitAndForward : Acts codec session
      (session.limitAndForward codec protocolId request session.userId readings) := by
  have counted := quiet_countCommand session readings.steadyNow
  rw [GatewaySession.limitAndForward]
  split
  · exact (counted.acts bound).quiet_right (quiet_sendRaw _ _)
  have forwarded := (counted.acts bound).bound.forward (counted.userId ▸ positive) protocolId
    request readings
  rw [counted.userId] at forwarded
  exact forwarded.quiet_left counted

theorem Bound.handleCommand : Acts codec session
      (session.handleCommand codec protocolId request session.userId readings) := by
  rw [GatewaySession.handleCommand]
  split
  · exact (quiet_sendRaw _ _).acts bound
  split
  · have sent := quiet_sendRaw session
      { serviceId := getServiceResponseId userQuitReq, error := ErrorCode.success.code }
    exact Quiet.acts ⟨sent.connectionId, sent.userId, sent.lease, sent.history, sent.handling⟩ bound
  split
  · have acknowledged : Quiet session
        (match request.seq.filter (0 < ·) with
        | some seq => session.acknowledgeTransport seq
        | none => session) := by
      split
      · exact quiet_acknowledgeTransport _ _
      · exact .refl _
    dsimp only
    split
    · exact acknowledged.acts bound
    have forwarded := (acknowledged.acts bound).bound.limitAndForward
      (acknowledged.userId ▸ positive) protocolId request readings
    rw [acknowledged.userId] at forwarded
    exact forwarded.quiet_left acknowledged
  · exact bound.limitAndForward positive protocolId request readings

end

theorem GatewaySession.authenticate_eq_ok {request : Packet Rest} {answers : AuthAnswers}
    {login : Login} (authenticated : session.authenticate request answers = .ok login) :
    0 < login.uid ∧ (0 < session.userId → login.uid = session.userId) := by
  rw [authenticate] at authenticated
  split at authenticated
  · cases authenticated
  next valid =>
  split at authenticated
  · cases authenticated
  next free =>
  split at authenticated
  · split at authenticated <;> cases authenticated
  split at authenticated
  · cases authenticated
  cases authenticated
  refine ⟨not_le.mp fun refused => valid (.inl refused), fun positive => ?_⟩
  by_contra other
  exact free ⟨positive, fun same => other same.symm⟩

theorem Bound.finishLogin (bound : Bound codec session) (request : Packet Rest)
    (answers : AuthAnswers) (now : Int) :
    Acts codec session (session.finishLogin request answers now) := by
  rw [GatewaySession.finishLogin]
  split
  · exact Acts.quiet_right ⟨bound.idle, rfl, fun _ => rfl⟩ (quiet_sendRaw _ _)
  next login authenticated =>
    obtain ⟨positive, same⟩ := GatewaySession.authenticate_eq_ok authenticated
    have accepted : Acts codec session { session with
        handling := .idle
        lease := login.lease
        userId := login.uid
        lastLeaseRefresh := now
        history := session.history ++ [.login login.uid login.lease] } := by
      refine ⟨⟨?_, fun uid lease member => ?_, fun _ _ _ wrong => ?_, ?_⟩, rfl, same⟩
      · rw [if_pos positive]
        exact latestLogin_concat_login _ _ _
      · rcases mem_append.mp member with old | new
        · obtain ⟨known, user⟩ := bound.users uid lease old
          exact ⟨positive, user.trans (same known).symm⟩
        · grind
      · cases wrong
      · exact bound.authorised.concat fun _ wrong => by cases wrong
    exact accepted.quiet_right (quiet_sendRaw _ _)

theorem Bound.handlePacket (bound : Bound codec session) (protocolId : UInt32) (payload : Wire)
    (readings : Readings) :
    Acts codec session (session.handlePacket codec protocolId payload readings) := by
  rw [GatewaySession.handlePacket]
  split
  · exact (quiet_sendRaw _ _).acts bound
  split
  · exact ⟨⟨bound.login, bound.users, (fun _ _ _ wrong => by cases wrong), bound.authorised⟩, rfl,
      fun _ => rfl⟩
  split
  · exact (quiet_sendRaw _ _).acts bound
  next bounded =>
  have positive := not_le.mp bounded
  split
  · refine ⟨⟨bound.login, bound.users, ?_, bound.authorised⟩, rfl, fun _ => rfl⟩
    rintro _ _ _ ⟨⟩
    exact ⟨positive, rfl⟩
  · exact bound.handleCommand positive protocolId _ readings

theorem Bound.step (bound : Bound codec session) {action : Action Wire}
    (taken : step codec session action = some after) : Acts codec session after := by
  cases action with simp only [Session.step] at taken
  | receive protocolId payload readings =>
    split at taken
    · cases taken
      exact bound.handlePacket protocolId payload readings
    · cases taken
  | authenticated answers now =>
    split at taken
    · cases taken
      exact bound.finishLogin _ answers now
    · cases taken
  | refreshed success readings =>
    split at taken
    next protocolId request actor waits =>
      obtain ⟨positive, rfl⟩ := bound.waiting protocolId request actor waits
      split at taken
      · cases taken
        have idle : Bound codec { session with
            handling := .idle, lastLeaseRefresh := readings.steadyNow } :=
          ⟨bound.login, bound.users, (fun _ _ _ wrong => by cases wrong), bound.authorised⟩
        obtain ⟨kept, keeps⟩ := idle.handleCommand positive protocolId request readings
        exact ⟨kept, keeps⟩
      · cases taken
        exact ⟨((quiet_closeInContext session).acts bound).bound.idle, rfl, fun _ => rfl⟩
    next => cases taken
  | sendReliable ackSeq =>
    split at taken
    · cases taken
    · cases taken
      exact Quiet.acts ⟨rfl, rfl, rfl, rfl, rfl⟩ bound
  | expireReliable ackSeq =>
    cases taken
    exact (quiet_acknowledgeTransport session ackSeq).acts bound
  | close =>
    cases taken
    exact (quiet_closeInContext session).acts bound

end Rules

/-! ### Every run -/

def GatewaySession.initial (connectionId : String) (now : Int) : GatewaySession Rest Wire where
  connectionId := connectionId
  rateWindowStarted := now

theorem bound_initial (codec : PacketCodec Rest Wire) (connectionId : String) (now : Int) :
    Bound codec (initial connectionId now) where
  login := rfl
  users := fun _ _ wrong => by cases wrong
  waiting := fun _ _ _ wrong => by cases wrong
  authorised := fun before _ _ wrong => by cases before <;> cases wrong

section

variable {codec : PacketCodec Rest Wire} {session final : GatewaySession Rest Wire}
  (bound : Bound codec session)
include bound

theorem bound_run {actions : List (Action Wire)}
    (taken : run (step codec) session actions = some final) : Bound codec final :=
  run_invariant (Bound codec) (fun _ _ _ bound taken => (bound.step taken).bound) bound
    taken

theorem keeps_run {actions : List (Action Wire)}
    (taken : run (step codec) session actions = some final) : Keeps session final := by
  refine run_relation (Bound codec) Keeps (fun _ => ⟨rfl, fun _ => rfl⟩) ?_
    (fun _ _ _ bound taken => ⟨(bound.step taken).bound, (bound.step taken).keeps⟩) bound taken
  rintro first second third ⟨connection, user⟩ ⟨nextConnection, nextUser⟩
  refine ⟨nextConnection.trans connection, fun positive => ?_⟩
  have same := user positive
  exact (nextUser (same ▸ positive)).trans same

end

/-- In every run of a session: a user id that is set stays, and every command that was forwarded
comes behind a login, is from the user the session has, and has the packet, the connection and
the generation of the latest login in front of it. -/
theorem forwarded_under_session_identity (codec : PacketCodec Rest Wire) (connectionId : String)
    (now : Int) {actions later : List (Action Wire)} {middle final : GatewaySession Rest Wire}
    (reached : run (step codec) (.initial connectionId now) actions = some middle)
    (taken : run (step codec) middle later = some final) :
    (0 < middle.userId → final.userId = middle.userId) ∧
      ∀ before command after, middle.history = before ++ .forwarded command :: after →
        ∃ uid lease, latestLogin before = some (uid, lease) ∧ uid = middle.userId ∧
          Names codec connectionId uid lease command := by
  have bound := bound_run (bound_initial codec connectionId now) reached
  have connection := (keeps_run (bound_initial codec connectionId now) reached).1
  refine ⟨(keeps_run bound taken).2, fun before command after split => ?_⟩
  obtain ⟨uid, lease, latest, names⟩ := bound.authorised before command after split
  have member := mem_append_left (.forwarded command :: after) (mem_of_latestLogin latest)
  rw [← split] at member
  rw [connection] at names
  exact ⟨uid, lease, latest, (bound.users uid lease member).2, names⟩

def plainCodec : PacketCodec Int (Option (Packet Int)) where
  serialize := some
  parse := id
  parse_serialize _ := rfl

def sessionAfter (actions : List (Action (Option (Packet Int)))) :
    GatewaySession Int (Option (Packet Int)) :=
  (run (step plainCodec) (.initial "c1" 0) actions).getD (.initial "c1" 0)

def welcome (generation : Int) : AuthAnswers where
  tokenValid := true
  inserted := false
  stored := some ⟨"a", 0, "", ""⟩
  lease := ⟨"g", "i", "c1", generation⟩

def atTime (now : Int) : Readings := ⟨now, now, true⟩

/-- A text before any login; a login as user 7; a text that says it is from user 9; a login as
user 9, and one as user 7 again; and a text after it. -/
def otherUserInPackets : List (Action (Option (Packet Int))) :=
  [.receive 1027 (some { uid := 7, rest := 9 }) (atTime 1),
    .receive loginInitReq (some { uid := 7, authToken := some "t", rest := 0 }) (atTime 2),
    .authenticated (welcome 3) 3,
    .receive 1027 (some { uid := 9, rest := 9 }) (atTime 4),
    .receive loginInitReq (some { uid := 9, authToken := some "t", rest := 0 }) (atTime 5),
    .authenticated (welcome 4) 6,
    .receive loginInitReq (some { uid := 7, authToken := some "t", rest := 0 }) (atTime 7),
    .authenticated (welcome 5) 8,
    .receive 1027 none (atTime 9),
    .receive 1027 (some { uid := 9, rest := 9 }) (atTime 10)]

theorem forwarded_under_session_identity_despite_packets :
    ((sessionAfter otherUserInPackets).history.map fun event =>
      match event with
      | .login uid lease => (uid, lease.generation)
      | .forwarded command => (command.actorUid, command.connectionGeneration.toNat)) =
        [(7, 3), (7, 3), (7, 5), (7, 5)] ∧
      ∀ before command after,
        (sessionAfter otherUserInPackets).history = before ++ .forwarded command :: after →
          ∃ uid lease, latestLogin before = some (uid, lease) ∧
            uid = (sessionAfter otherUserInPackets).userId ∧
            Names plainCodec "c1" uid lease command := by
  have reached : run (step plainCodec) (.initial "c1" 0) otherUserInPackets =
      some (sessionAfter otherUserInPackets) := rfl
  exact ⟨by decide +kernel,
    (forwarded_under_session_identity plainCodec "c1" 0 reached (run_nil _)).2⟩

end Wimi.Gateway.Session
