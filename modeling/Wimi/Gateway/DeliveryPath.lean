/-
This file follows a text on its way from the sender's connection to the recipient's: the
packet that `GatewaySession` wraps into a command, the packet that `AcceptText` and
`AcceptGroupText` make of it, the delivery that `GatewayStreamService` wraps it into, and
the frame that goes to the recipient.

Every hop forwards the whole packet, with the fields the sender put into it whatever they
are for, and sets some of its own. Every hop also has a limit: ten mebibytes on the two
connections, and on the stream between Gateway and Message what gRPC allows when the
program does not say, which is four. The sizes are those of the encoded messages.
-/

import Wimi.Lib.Protobuf
import Wimi.Gateway.Session
import Wimi.Server.Commands
import Wimi.Client.FrameCodec

namespace Wimi.DeliveryPath

open List Option Protobuf Server Client.TcpFrameCodec

open Gateway.Session (GatewaySession Packet PacketCodec kDefaultRequestTimeout)

/-! ### Packets -/

inductive PacketField where
  | uid
  | seq
  | from_
  | to_
  | data
  | sessionKey
  | gid
  | groupId
  | sendDateTime
  | messageId
  | messageState
  | requestTimeoutMs
  | requestId
  | conversationId
  | conversationSeq
  | clientMessageId
deriving DecidableEq, Repr

@[simp] def PacketField.number : PacketField → Nat
  | .uid => 1
  | .seq => 2
  | .from_ => 3
  | .to_ => 4
  | .data => 5
  | .sessionKey => 6
  | .gid => 24
  | .groupId => 25
  | .sendDateTime => 33
  | .messageId => 40
  | .messageState => 41
  | .requestTimeoutMs => 44
  | .requestId => 45
  | .conversationId => 46
  | .conversationSeq => 47
  | .clientMessageId => 48

def ascii (text : String) : List UInt8 := text.toList.map fun letter => UInt8.ofNat letter.toNat

def grpcReceiveLimit : Nat := 4 * 1024 * 1024

def protocolRecvMss : Nat := 10 * 1024 * 1024

structure ClientFrame where
  body : List UInt8
  packet : Message
  admitted : body.length ≤ protocolRecvMss

/-! ### The Gateway -/

structure Session where
  actor : Int
  connectionId : String
  generation : Int
  requestSequence : Nat := 0
deriving DecidableEq, Repr

open Session

def Session.nextRequestId (session : Session) : List UInt8 :=
  ascii (session.connectionId ++ ":" ++ toString (session.requestSequence + 1))

def Session.requestId (session : Session) (packet : Message) : List UInt8 :=
  if packet.getBytes PacketField.requestId.number = [] then session.nextRequestId
  else packet.getBytes PacketField.requestId.number

def Session.fields (session : Session) (packet : Message) : Message :=
  ⟨PacketField.uid.number, .int session.actor⟩ ::
    if packet.getBytes PacketField.requestId.number = [] then
      [⟨PacketField.requestId.number, .bytes session.nextRequestId⟩]
    else []

def Session.forward (session : Session) (packet : Message) : Message :=
  packet.setAll (session.fields packet)

def deadline (packet : Message) (now : Int) : Int :=
  now +
    if 0 < packet.getInt PacketField.requestTimeoutMs.number then
      min kDefaultRequestTimeout (packet.getInt PacketField.requestTimeoutMs.number)
    else kDefaultRequestTimeout

def serviceId : ConversationType → UInt32
  | .direct => ServiceId.textSendReq
  | .group => ServiceId.groupTextSendReq

def Session.commandHeader (session : Session) (kind : ConversationType) (packet : Message)
    (now : Int) : Message :=
  plainBytes 1 (session.requestId packet) ++ plainInt 2 session.actor ++
    plainBytes 3 (ascii session.connectionId) ++ plainInt 4 session.generation ++
    plainInt 5 (serviceId kind).toNat ++
    plainInt 6 (packet.getInt PacketField.conversationId.number) ++
    plainInt 7 (deadline packet now)

def Session.commandFrame (session : Session) (kind : ConversationType) (packet : Message)
    (now : Int) : Message :=
  let envelope := session.commandHeader kind packet now ++
    plainBytes 8 (session.forward packet).serialize
  [⟨2, .bytes envelope.serialize⟩]

/-! ### The Message node -/

def clientMessageId (request : Message) : List UInt8 :=
  if request.getBytes PacketField.clientMessageId.number = [] then
    ascii (toString (request.getInt PacketField.seq.number))
  else request.getBytes PacketField.clientMessageId.number

def receiver (kind : ConversationType) (request : Message) : Int :=
  match kind with
  | .direct => request.getInt PacketField.to_.number
  | .group =>
    if request.has PacketField.gid.number then request.getInt PacketField.gid.number
    else request.getInt PacketField.groupId.number

def acceptedFields (kind : ConversationType) (request : Message) (accepted : AcceptResult)
    (sendDateTime : List UInt8) : Message :=
  (match kind with
    | .direct => [⟨PacketField.uid.number, .int (request.getInt PacketField.uid.number)⟩]
    | .group => [⟨PacketField.gid.number, .int (receiver .group request)⟩]) ++
  [⟨PacketField.from_.number, .int (request.getInt PacketField.uid.number)⟩,
    ⟨PacketField.seq.number, .int accepted.messageId⟩,
    ⟨PacketField.messageId.number, .int accepted.messageId⟩,
    ⟨PacketField.clientMessageId.number, .bytes (clientMessageId request)⟩,
    ⟨PacketField.conversationId.number, .int accepted.conversationId⟩,
    ⟨PacketField.conversationSeq.number, .int accepted.conversationSeq⟩,
    ⟨PacketField.sessionKey.number, .int accepted.conversationId⟩,
    ⟨PacketField.messageState.number, .int 1⟩,
    ⟨PacketField.sendDateTime.number, .bytes sendDateTime⟩]

/-- The packet to deliver, and the users it goes to: `AcceptText` or `AcceptGroupText` with what
the transaction returned. `none` is a text that was not accepted. -/
def accept (kind : ConversationType) (request : Message) (accepted : AcceptResult)
    (sendDateTime : List UInt8) : Option (Message × List Int) :=
  if request.getInt PacketField.uid.number ≤ 0 ∨ receiver kind request ≤ 0 ∨
      request.getBytes PacketField.data.number = [] ∨ clientMessageId request = [] ∨
      (request.has PacketField.clientMessageId.number = false ∧
        request.getInt PacketField.seq.number ≤ 0) then none
  else if accepted.error ≠ .success then none
  else
    let recipients :=
      match kind with
      | .direct => [receiver .direct request]
      | .group => accepted.recipientUids.map fun uid => (uid : Int)
    some (request.setAll (acceptedFields kind request accepted sendDateTime),
      if accepted.duplicate then [] else recipients)

def received (session : Session) (packet : Message) : Message :=
  (session.forward packet).set PacketField.uid.number (.int session.actor)

def deliveryHeader (kind : ConversationType) (accepted : AcceptResult) (recipient : Int)
    (lease : SessionLease) : Message :=
  plainBytes 1 (ascii (toString accepted.messageId ++ ":" ++ toString recipient)) ++
    plainInt 2 recipient ++ plainBytes 3 (ascii lease.connectionId) ++
    plainInt 4 lease.generation ++ plainInt 5 (serviceId kind).toNat ++
    plainInt 6 accepted.messageId ++ plainInt 7 accepted.conversationId ++
    plainInt 8 accepted.conversationSeq

def deliveryFrame (kind : ConversationType) (accepted : AcceptResult) (delivery : Message)
    (recipient : Int) (lease : SessionLease) : Message :=
  let envelope := deliveryHeader kind accepted recipient lease ++
    plainBytes 9 delivery.serialize
  [⟨3, .bytes envelope.serialize⟩]

/-! ### The session and the packet of the other modules -/

section Agreement

variable {Rest Wire : Type}

def ofGateway (session : GatewaySession Rest Wire) (actor : Int) : Session where
  actor
  connectionId := session.connectionId
  generation := (UInt64.ofInt session.lease.generation).toNat
  requestSequence := session.requestSequence

/-- The fields of a command but for its packet, as they are written. -/
def header (command : Gateway.Session.Command Wire) : Message :=
  plainBytes 1 (ascii command.requestId) ++ plainInt 2 command.actorUid ++
    plainBytes 3 (ascii command.connectionId) ++
    plainInt 4 command.connectionGeneration.toNat ++ plainInt 5 command.serviceId.toNat ++
    plainInt 6 command.conversationId ++ plainInt 7 command.deadlineUnixMs

/-- The message has the fields of the packet that the session reads for a command. -/
structure Encodes (message : Message) (packet : Packet Rest) : Prop where
  requestId : message.getBytes PacketField.requestId.number = ascii (packet.requestId.getD "")
  conversationId :
    message.getInt PacketField.conversationId.number = packet.conversationId.getD 0
  requestTimeoutMs :
    message.getInt PacketField.requestTimeoutMs.number = packet.requestTimeoutMs.getD 0

theorem ascii_eq_nil {text : String} : ascii text = [] ↔ text = "" := by
  rw [ascii, map_eq_nil_iff, String.toList_eq_nil_iff]

section

variable {message : Message} {packet : Packet Rest} (encodes : Encodes message packet)
include encodes

theorem requestId_ofGateway (session : GatewaySession Rest Wire) (actor : Int) :
    (ofGateway session actor).requestId message =
      ascii ((session.stamp packet actor).requestId.getD "") := by
  unfold requestId GatewaySession.stamp
  simp only [encodes.requestId, ascii_eq_nil]
  cases packet.requestId with
  | none => rfl
  | some given =>
    rw [filter_some, getD_some]
    by_cases empty : given = ""
    · simp [empty]
      rfl
    · simp [empty]

theorem deadline_eq (now : Int) :
    deadline message now = now +
      match packet.requestTimeoutMs.filter (0 < ·) with
      | some timeout => min kDefaultRequestTimeout timeout
      | none => kDefaultRequestTimeout := by
  unfold deadline
  rw [encodes.requestTimeoutMs]
  cases packet.requestTimeoutMs with
  | none => rfl
  | some timeout =>
    rw [filter_some, getD_some]
    by_cases positive : 0 < timeout
    · simp [positive]
    · simp [positive]

/-- The header that is measured is that of the command which `GatewaySession` puts together. -/
theorem commandHeader_ofGateway (session : GatewaySession Rest Wire)
    (codec : PacketCodec Rest Wire) (kind : ConversationType) (actor now : Int) :
    (ofGateway session actor).commandHeader kind message now =
      header (session.envelope codec (serviceId kind) (session.stamp packet actor) actor now) := by
  unfold commandHeader
  rw [requestId_ofGateway encodes, deadline_eq encodes, encodes.conversationId]
  rfl

end

/-- The message has the fields of the packet that the Message node checks. -/
structure Carries (request : Message) (packet : TextPacket) : Prop where
  receiver : receiver packet.type request = packet.receiver
  data : request.getBytes PacketField.data.number = ascii packet.data
  given : request.has PacketField.clientMessageId.number = packet.clientMessageId.isSome
  clientMessageId :
    request.getBytes PacketField.clientMessageId.number = ascii (packet.clientMessageId.getD "")
  seq : request.getInt PacketField.seq.number = packet.seq

section

variable {request : Message} {packet : TextPacket} (carries : Carries request packet)
include carries

theorem clientMessageId_eq : clientMessageId request = ascii packet.clientId := by
  unfold clientMessageId TextPacket.clientId
  simp only [carries.clientMessageId, carries.seq, ascii_eq_nil]
  cases packet.clientMessageId with
  | none => rfl
  | some given => exact (apply_ite ascii _ _ _).symm

/-- A text is accepted here exactly when the command that `AcceptText` or `AcceptGroupText`
starts is one, and its transaction succeeds. -/
theorem isSome_accept_iff (accepted : AcceptResult) (sendDateTime : List UInt8)
    (time : String) :
    (accept packet.type request accepted sendDateTime).isSome ↔
      (packet.acceptCommand (request.getInt PacketField.uid.number) time).isSome ∧
        accepted.error = .success := by
  unfold accept TextPacket.acceptCommand
  simp only [clientMessageId_eq carries, carries.receiver, carries.data, carries.given,
    carries.seq, ascii_eq_nil, isSome_eq_false_iff, isNone_iff_eq_none]
  split
  · simp
  · by_cases success : accepted.error = .success <;> simp [success]

end

end Agreement

/-! ### The limits -/

section Sizes

variable (session : Session) (kind : ConversationType) (packet request : Message)
  (frame : ClientFrame) (now : Int) (accepted : AcceptResult) (sendDateTime : List UInt8)

section Limits

variable (leases : Int → SessionLease) (order : Client.ByteOrder) (delivered : Message)
  (recipients : List Int)

/-- The three frames on the way are accepted by those who read them. -/
structure PathFits : Prop where
  command : (session.commandFrame kind frame.packet now).serialize.length ≤ grpcReceiveLimit
  delivery : ∀ recipient ∈ recipients, (leases recipient).empty = false →
    (deliveryFrame kind accepted delivered recipient (leases recipient)).serialize.length ≤
      grpcReceiveLimit
  push : ∀ recipient ∈ recipients, (leases recipient).empty = false →
    ({} : Client.TcpFrameCodec).feed
        (Client.encodeFrame order (serviceId kind) delivered.serialize) =
      ([⟨serviceId kind, delivered.serialize⟩], {})

def pathFields : Message :=
  session.fields frame.packet ++
  (match kind with
    | .direct => []
    | .group => [⟨PacketField.gid.number, .int (receiver .group frame.packet)⟩]) ++
  [⟨PacketField.from_.number, .int session.actor⟩,
    ⟨PacketField.seq.number, .int accepted.messageId⟩,
    ⟨PacketField.messageId.number, .int accepted.messageId⟩,
    ⟨PacketField.clientMessageId.number, .bytes (clientMessageId frame.packet)⟩,
    ⟨PacketField.conversationId.number, .int accepted.conversationId⟩,
    ⟨PacketField.conversationSeq.number, .int accepted.conversationSeq⟩,
    ⟨PacketField.sessionKey.number, .int accepted.conversationId⟩,
    ⟨PacketField.messageState.number, .int 1⟩,
    ⟨PacketField.sendDateTime.number, .bytes sendDateTime⟩]

def enclosed (header content : Nat) : Nat := header + (1 + (varint content).length + content)

/-- The largest envelope whose frame, a key of one byte and a length of four, is within the limit
of the stream. -/
def envelopeLimit : Nat := grpcReceiveLimit - 5

/-- What the sender put into the packet beside the fields that are set on the way leaves room for
these and for the envelopes. The overhead of the command is its header and the fields of the
session, `uid` and, when there is none, `requestId`; that of a delivery is its header and the
fields set by either node. Key and length of the packet in the envelope are counted by `enclosed`,
those of the envelope in the frame by `envelopeLimit`. -/
structure LeavesRoom : Prop where
  command : enclosed (session.commandHeader kind frame.packet now).size
    (frame.packet.kept (session.fields frame.packet).numbers +
      (session.fields frame.packet).size) ≤ envelopeLimit
  delivery : ∀ recipient ∈ recipients, (leases recipient).empty = false →
    enclosed (deliveryHeader kind accepted recipient (leases recipient)).size
      (frame.packet.kept (pathFields session kind frame accepted sendDateTime).numbers +
        (pathFields session kind frame accepted sendDateTime).size) ≤ envelopeLimit

end Limits

theorem size_frame_le_iff {number : Nat} (small : number * 8 + 2 < 128) (envelope : Message) :
    (Message.serialize [⟨number, .bytes envelope.serialize⟩]).length ≤ grpcReceiveLimit ↔
      envelope.size ≤ envelopeLimit := by
  rw [Message.length_serialize, Message.size_cons, Message.size_nil, Field.size_bytes,
    length_varint_eq_one small, Message.length_serialize]
  unfold envelopeLimit grpcReceiveLimit
  by_cases fits : envelope.size < 128 ^ 4
  · have short := length_varint_le (by decide : 0 < 4) fits
    by_cases large : 128 ^ 3 ≤ envelope.size
    · have long := lt_length_varint (by decide : 3 < 10) large
      omega
    · omega
  · omega

theorem size_envelope {number : Nat} (small : number * 8 + 2 < 128) (header : Message)
    {packet : Message} (filled : 0 < packet.size) :
    (header ++ plainBytes number packet.serialize).size = enclosed header.size packet.size := by
  rw [plainBytes, if_neg (Message.serialize_ne_nil filled), Message.size_append,
    Message.size_cons, Message.size_nil, Field.size_bytes, length_varint_eq_one small,
    Message.length_serialize, enclosed]
  omega

/-! ### The sizes -/

theorem nodup_fields : (session.fields packet).numbers.Nodup := by
  unfold fields
  split
  · exact (by decide : [1, 45].Nodup)
  · exact nodup_singleton 1

theorem size_forward :
    (session.forward packet).size =
      packet.kept (session.fields packet).numbers + (session.fields packet).size :=
  Message.size_setAll (nodup_fields session packet) packet

def acceptedNumbers : List Nat := [3, 2, 40, 48, 46, 47, 6, 41, 33]

theorem numbers_acceptedFields :
    (acceptedFields kind request accepted sendDateTime).numbers =
      match kind with
      | .direct => PacketField.uid.number :: acceptedNumbers
      | .group => PacketField.gid.number :: acceptedNumbers := by
  cases kind <;> rfl

theorem numbers_pathFields :
    (pathFields session kind frame accepted sendDateTime).numbers =
      (session.fields frame.packet).numbers ++
        match kind with
        | .direct => acceptedNumbers
        | .group => PacketField.gid.number :: acceptedNumbers := by
  unfold pathFields Message.numbers
  cases kind <;> rw [map_append, map_append, append_assoc] <;> rfl

theorem nodup_acceptedFields :
    (acceptedFields kind request accepted sendDateTime).numbers.Nodup := by
  rw [numbers_acceptedFields]
  cases kind <;> decide

section Received

variable {number : Nat} (notUid : number ≠ PacketField.uid.number)
include notUid

section

variable (notRequestId : number ≠ PacketField.requestId.number)
include notRequestId

/-- What the Message node reads is what the sender wrote, but for the fields of the Gateway. -/
theorem get?_received : (received session packet).get? number = packet.get? number := by
  unfold received
  rw [Message.get?_set_of_ne notUid]
  unfold forward fields
  split
  · exact (Message.get?_set_of_ne notRequestId _ _).trans (Message.get?_set_of_ne notUid _ _)
  · exact Message.get?_set_of_ne notUid _ _

theorem getInt_received : (received session packet).getInt number = packet.getInt number := by
  unfold Message.getInt
  rw [get?_received session packet notUid notRequestId]

theorem getBytes_received : (received session packet).getBytes number = packet.getBytes number := by
  unfold Message.getBytes
  rw [get?_received session packet notUid notRequestId]

theorem has_received : (received session packet).has number = packet.has number := by
  unfold Message.has
  rw [get?_received session packet notUid notRequestId]

end

end Received

theorem getInt_uid_received :
    (received session packet).getInt PacketField.uid.number = session.actor := by
  unfold Message.getInt received
  rw [Message.get?_set_self]

theorem clientMessageId_received :
    clientMessageId (received session packet) = clientMessageId packet := by
  unfold clientMessageId
  rw [getBytes_received session packet (by decide) (by decide),
    getInt_received session packet (by decide) (by decide)]

theorem receiver_received :
    receiver kind (received session packet) = receiver kind packet := by
  cases kind with
  | direct => exact getInt_received session packet (by decide) (by decide)
  | group =>
    simp only [receiver]
    rw [has_received session packet (by decide) (by decide),
      getInt_received session packet (by decide) (by decide),
      getInt_received session packet (by decide) (by decide)]

theorem kept_received (others : List Nat) :
    (received session packet).kept others =
      packet.kept ((session.fields packet).numbers ++ PacketField.uid.number :: others) +
        (session.fields packet).kept (PacketField.uid.number :: others) +
        if PacketField.uid.number ∈ others then 0
        else Field.size ⟨PacketField.uid.number, .int session.actor⟩ := by
  unfold received
  rw [Message.kept_set]
  unfold forward
  rw [Message.kept_setAll (nodup_fields session packet)]

theorem kept_fields {others : List Nat} (uid : PacketField.uid.number ∈ others)
    (requestId : PacketField.requestId.number ∉ others) :
    (session.fields packet).kept others +
        Field.size ⟨PacketField.uid.number, .int session.actor⟩ =
      (session.fields packet).size := by
  unfold fields
  rw [Message.kept_cons, if_pos uid, Nat.zero_add, Nat.add_comm]
  split
  · rw [Message.kept_cons, if_neg requestId]
    rfl
  · rfl

theorem size_pathFields :
    (pathFields session kind frame accepted sendDateTime).size +
        (match kind with
          | .direct => Field.size ⟨PacketField.uid.number, .int session.actor⟩
          | .group => 0) =
      (session.fields frame.packet).size +
        (acceptedFields kind (received session frame.packet) accepted sendDateTime).size := by
  unfold pathFields acceptedFields
  rw [getInt_uid_received, clientMessageId_received, receiver_received]
  cases kind with
  | direct | group =>
    simp only [Message.size_append, Message.size_cons]
    omega

theorem kept_pathFields :
    frame.packet.kept ((session.fields frame.packet).numbers ++ PacketField.uid.number ::
        (acceptedFields kind (received session frame.packet) accepted sendDateTime).numbers) =
      frame.packet.kept (pathFields session kind frame accepted sendDateTime).numbers := by
  have uid : PacketField.uid.number ∈ (session.fields frame.packet).numbers :=
    mem_cons_self
  refine Message.kept_congr (fun number => ?_) _
  rw [numbers_acceptedFields, numbers_pathFields]
  cases kind <;> grind

/-- The size of the packet that is delivered. -/
theorem size_delivered :
    ((received session frame.packet).setAll
        (acceptedFields kind (received session frame.packet) accepted sendDateTime)).size =
      frame.packet.kept (pathFields session kind frame accepted sendDateTime).numbers +
        (pathFields session kind frame accepted sendDateTime).size := by
  rw [Message.size_setAll (nodup_acceptedFields kind _ accepted sendDateTime), kept_received,
    kept_pathFields]
  have path := size_pathFields session kind frame accepted sendDateTime
  have gateway := kept_fields session frame.packet
    (mem_cons_self (l := (acceptedFields kind (received session frame.packet) accepted
      sendDateTime).numbers)) (by rw [numbers_acceptedFields]; cases kind <;> decide)
  cases kind with
  | direct =>
    rw [if_pos (by rw [numbers_acceptedFields]; exact mem_cons_self)]
    simp only at path
    omega
  | group =>
    rw [if_neg (by rw [numbers_acceptedFields]; decide)]
    simp only at path
    omega

/-! ### The path -/

theorem size_fields_pos : 0 < (session.fields packet).size := by
  exact Nat.add_pos_left (Field.size_pos _) _

theorem size_pathFields_pos :
    0 < (pathFields session kind frame accepted sendDateTime).size := by
  unfold pathFields
  rw [append_assoc, Message.size_append]
  exact Nat.add_pos_left (size_fields_pos session frame.packet) _

theorem command_fits_iff :
    (session.commandFrame kind packet now).serialize.length ≤ grpcReceiveLimit ↔
      enclosed (session.commandHeader kind packet now).size
        (packet.kept (session.fields packet).numbers + (session.fields packet).size) ≤
          envelopeLimit := by
  have filled : 0 < (session.forward packet).size := by
    rw [size_forward]
    exact Nat.add_pos_right _ (size_fields_pos session packet)
  unfold commandFrame
  rw [size_frame_le_iff (by decide), size_envelope (by decide) _ filled, size_forward]

theorem delivery_fits_iff {delivery : Message} (filled : 0 < delivery.size) (recipient : Int)
    (lease : SessionLease) :
    (deliveryFrame kind accepted delivery recipient lease).serialize.length ≤ grpcReceiveLimit ↔
      enclosed (deliveryHeader kind accepted recipient lease).size delivery.size ≤
        envelopeLimit := by
  unfold deliveryFrame
  rw [size_frame_le_iff (by decide), size_envelope (by decide) _ filled]

end Sizes

theorem push_fits (order : Client.ByteOrder) (serviceId : UInt32) {header : Nat}
    {delivery : Message} (fits : enclosed header delivery.size ≤ envelopeLimit) :
    ({} : Client.TcpFrameCodec).feed
        (Client.encodeFrame order serviceId delivery.serialize) =
      ([⟨serviceId, delivery.serialize⟩], {}) := by
  have small : delivery.serialize.length ≤ kMaximumPayloadSize := by
    rw [Message.length_serialize]
    unfold enclosed envelopeLimit grpcReceiveLimit at fits
    unfold kMaximumPayloadSize
    omega
  rw [← feedAll_singleton]
  refine feedAll_encode (forall_mem_singleton.mpr small) rfl ?_
  rw [Client.encodeFrame_eq, flatten_singleton, flatMap_singleton, append_nil]

theorem accept_eq_some {kind : ConversationType} {request delivered : Message}
    {accepted : AcceptResult} {sendDateTime : List UInt8} {recipients : List Int}
    (taken : accept kind request accepted sendDateTime = some (delivered, recipients)) :
    delivered = request.setAll (acceptedFields kind request accepted sendDateTime) := by
  unfold accept at taken
  split at taken
  · cases taken
  · grind

/-- A text that is accepted passes the limits of the whole path exactly when what its sender put
into the packet leaves room for the fields and the envelopes of the two nodes. -/
theorem delivery_path_fits_iff (session : Session) (kind : ConversationType)
    (frame : ClientFrame) (now : Int) (accepted : AcceptResult) (sendDateTime : List UInt8)
    (leases : Int → SessionLease) (order : Client.ByteOrder) {delivered : Message}
    {recipients : List Int}
    (taken : accept kind (received session frame.packet) accepted sendDateTime =
      some (delivered, recipients)) :
    PathFits session kind frame now accepted leases order delivered recipients ↔
      LeavesRoom session kind frame now accepted sendDateTime leases recipients := by
  have size : delivered.size = _ :=
    (congrArg Message.size (accept_eq_some taken)).trans
      (size_delivered session kind frame accepted sendDateTime)
  have filled : 0 < delivered.size := by
    rw [size]
    exact Nat.add_pos_right _ (size_pathFields_pos session kind frame accepted sendDateTime)
  constructor
  · intro fits
    refine ⟨(command_fits_iff session kind frame.packet now).mp fits.command,
      fun recipient member online => ?_⟩
    rw [← size]
    exact (delivery_fits_iff kind accepted filled _ _).mp (fits.delivery recipient member online)
  · intro room
    have delivery (recipient : Int) (member : recipient ∈ recipients)
        (online : (leases recipient).empty = false) :
        enclosed (deliveryHeader kind accepted recipient (leases recipient)).size delivered.size ≤
          envelopeLimit := by
      rw [size]
      exact room.delivery recipient member online
    exact ⟨(command_fits_iff session kind frame.packet now).mpr room.command,
      fun recipient member online => (delivery_fits_iff kind accepted filled _ _).mpr
        (delivery recipient member online),
      fun recipient member online => push_fits order _ (delivery recipient member online)⟩

section Examples

variable {length : Nat}

def sender : Session := { actor := 1, connectionId := "connection", generation := 1 }

def shortPacket : Message :=
  [⟨PacketField.to_.number, .int 2⟩, ⟨PacketField.data.number, .bytes [97]⟩,
    ⟨PacketField.clientMessageId.number, .bytes [99]⟩,
    ⟨PacketField.requestId.number, .bytes [114]⟩]

def stored : AcceptResult :=
  { error := .success, messageId := 1000, conversationId := 7, conversationSeq := 1 }

def recipientLease : SessionLease :=
  { gatewayId := "gateway", instanceId := "instance", connectionId := "other", generation := 1 }

def sentAt : List UInt8 := ascii "2026-01-01 00:00:00"

/-- A short text passes. -/
theorem delivery_path_fits_short :
    LeavesRoom sender .direct ⟨shortPacket.serialize, shortPacket, by decide +kernel⟩ 0 stored
        sentAt (fun _ => recipientLease) [2] ∧
      PathFits sender .direct ⟨shortPacket.serialize, shortPacket, by decide +kernel⟩ 0 stored
        (fun _ => recipientLease) .little
        ((received sender shortPacket).setAll
          (acceptedFields .direct (received sender shortPacket) stored sentAt)) [2] := by
  have room : LeavesRoom sender .direct
      ⟨shortPacket.serialize, shortPacket, by decide +kernel⟩ 0 stored
        sentAt (fun _ => recipientLease) [2] :=
    ⟨by decide +kernel, forall_mem_singleton.mpr fun _ => by decide +kernel⟩
  exact ⟨room, (delivery_path_fits_iff _ _ _ _ _ _ _ _ rfl).mpr room⟩

def longPacket (length : Nat) : Message :=
  ⟨8, .bytes (replicate length 97)⟩ :: shortPacket

theorem length_longPacket (short : length < 128 ^ 4) :
    (longPacket length).serialize.length ≤ length + 30 := by
  have width := length_varint_le (by decide : 0 < 4) short
  have rest : shortPacket.size = 13 := by decide +kernel
  rw [Message.length_serialize, longPacket, Message.size_cons, Field.size_bytes,
    length_varint_eq_one (by decide), length_replicate]
  omega

theorem kept_longPacket {numbers : List Nat} (other : 8 ∉ numbers) (long : 128 ^ 3 ≤ length)
    (short : length < 128 ^ 4) :
    (longPacket length).kept numbers = 5 + length + shortPacket.kept numbers := by
  have width : (varint length).length = 4 :=
    Nat.le_antisymm (length_varint_le (by decide) short) (lt_length_varint (by decide) long)
  rw [longPacket, Message.kept_cons, if_neg other, Field.size_bytes,
    length_varint_eq_one (by decide), length_replicate, width]
  omega

theorem enclosed_eq {header content : Nat} (long : 128 ^ 3 ≤ content) (short : content < 128 ^ 4) :
    enclosed header content = header + 5 + content := by
  have width : (varint content).length = 4 :=
    Nat.le_antisymm (length_varint_le (by decide) short) (lt_length_varint (by decide) long)
  rw [enclosed, width]
  omega

def longFrame (length : Nat) (short : length ≤ 5 * 1024 * 1024) : ClientFrame where
  body := (longPacket length).serialize
  packet := longPacket length
  admitted := by
    have size := length_longPacket (by omega : length < 128 ^ 4)
    unfold protocolRecvMss
    omega

theorem command_longPacket_iff (long : 128 ^ 3 ≤ length) (short : length ≤ 5 * 1024 * 1024) :
    (sender.commandFrame .direct (longPacket length) 0).serialize.length ≤ grpcReceiveLimit ↔
      length + 50 ≤ envelopeLimit := by
  have fields : sender.fields (longPacket length) = sender.fields shortPacket := rfl
  have header : (sender.commandHeader .direct (longPacket length) 0).size = 25 :=
    (by decide +kernel : (sender.commandHeader .direct shortPacket 0).size = 25)
  have rest : shortPacket.kept (sender.fields shortPacket).numbers +
      (sender.fields shortPacket).size = 15 := by decide +kernel
  rw [command_fits_iff, header, fields, kept_longPacket (by decide +kernel) long (by omega),
    Nat.add_assoc, rest, enclosed_eq (by omega) (by omega)]
  omega

theorem accept_longPacket (length : Nat) :
    accept .direct (received sender (longPacket length)) stored sentAt =
      some ((received sender (longPacket length)).setAll
        (acceptedFields .direct (received sender (longPacket length)) stored sentAt), [2]) := rfl

theorem delivery_longFrame_iff (long : 128 ^ 3 ≤ length) (short : length ≤ 5 * 1024 * 1024) :
    (deliveryFrame .direct stored ((received sender (longPacket length)).setAll
        (acceptedFields .direct (received sender (longPacket length)) stored sentAt))
      2 recipientLease).serialize.length ≤ grpcReceiveLimit ↔
        length + 96 ≤ envelopeLimit := by
  have header : (deliveryHeader .direct stored 2 recipientLease).size = 29 := by decide +kernel
  have fields : pathFields sender .direct (longFrame length short) stored sentAt =
    pathFields sender .direct (longFrame 0 (by decide)) stored sentAt := rfl
  have rest : shortPacket.kept
        (pathFields sender .direct (longFrame 0 (by decide)) stored sentAt).numbers +
      (pathFields sender .direct (longFrame 0 (by decide)) stored sentAt).size = 57 := by
    decide +kernel
  have size := size_delivered sender .direct (longFrame length short) stored sentAt
  rw [fields] at size
  have other : 8 ∉ (pathFields sender .direct (longFrame 0 (by decide)) stored sentAt).numbers := by
    decide +kernel
  have kept := kept_longPacket other long (by omega)
  have content : ((received sender (longPacket length)).setAll
      (acceptedFields .direct (received sender (longPacket length)) stored sentAt)).size =
        length + 62 := by
    refine size.trans ?_
    change (longPacket length).kept _ + _ = _
    omega
  rw [delivery_fits_iff _ _ (by omega), header, content, enclosed_eq (by omega) (by omega)]
  omega

/-- A text near the limit of the stream is accepted and cannot be delivered, and a text of five
mebibytes, half of what the connection admits, does not reach the Message node. -/
theorem accepted_text_exceeds_stream :
    (∃ (frame : ClientFrame) (delivered : Message), frame.body = frame.packet.serialize ∧
      accept .direct (received sender frame.packet) stored sentAt = some (delivered, [2]) ∧
      (sender.commandFrame .direct frame.packet 0).serialize.length ≤ grpcReceiveLimit ∧
      grpcReceiveLimit <
        (deliveryFrame .direct stored delivered 2 recipientLease).serialize.length) ∧
    ∃ (frame : ClientFrame) (delivered : Message), frame.body = frame.packet.serialize ∧
      accept .direct (received sender frame.packet) stored sentAt = some (delivered, [2]) ∧
      grpcReceiveLimit < (sender.commandFrame .direct frame.packet 0).serialize.length := by
  constructor
  · refine ⟨longFrame 4194240 (by decide), _, rfl, accept_longPacket _,
      (command_longPacket_iff (by decide) (by decide)).mpr (by decide), ?_⟩
    rw [← Nat.not_le, delivery_longFrame_iff (by decide) (by decide)]
    decide
  · refine ⟨longFrame (5 * 1024 * 1024) (Nat.le_refl _), _, rfl, accept_longPacket _, ?_⟩
    rw [← Nat.not_le]
    exact (command_longPacket_iff (by decide) (by decide)).not.mpr (by decide)

end Examples

end Wimi.DeliveryPath
