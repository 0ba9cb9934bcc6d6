/-
This file models the part of `AppController` that handles the messages of one
conversation: sending, the response to a send, a page of the sync, a push, the
requests after a login, and a restart.

The controller keeps the messages of the conversation in memory beside the
repository and looks there for duplicates. Request ids are drawn from a counter;
the requests it has written are kept in order. Acknowledgements, previews and the
list model of the view are left out: nothing here reads them back.
-/

import Wimi.Server.Pull
import Wimi.Client.Repository

namespace Wimi.Client

/-! ### State, requests and responses -/

inductive RequestBody where
  | pullConversation (conversationId : Int) (afterSeq : Nat) (limit : Int)
  | sendText (clientMessageId : Int) (wireClientMessageId : String) (body : String)
deriving DecidableEq, Repr

structure ClientRequest where
  requestId : Nat
  body : RequestBody
deriving DecidableEq, Repr

structure SendResponse where
  errorCode : ErrorCode
  retryable : Bool := false
  messageId : Option Nat := none
  conversationId : Option Int := none
  conversationSeq : Option Nat := none
deriving DecidableEq, Repr

structure PushPacket where
  fromUid : Nat
  seq : Nat := 0
  messageId : Option Nat := none
  conversationId : Option Int := none
  conversationSeq : Option Nat := none
  data : String
  sendDateTime : String := ""
deriving DecidableEq, Repr

structure Controller where
  authenticatedUid : Nat
  localConversationId : String
  remoteConversationId : Option Int := none
  repository : Repository
  messages : List MessageRecord := []
  nextClientMessageId : Int := -1000
  outgoingRequestMessages : Nat → Option Int := fun _ => none
  syncRequestConversations : Nat → Bool := fun _ => false
  nextRequestId : Nat := 0
  written : List ClientRequest := []

def wireClientMessageId (uid : Nat) (clientMessageId : Int) : String :=
  toString uid ++ ":" ++ toString (-clientMessageId)

namespace Controller

variable (controller : Controller)

def syncCursor : Nat := controller.repository.syncCursor controller.localConversationId

def request (body : RequestBody) : Controller :=
  { controller with
    nextRequestId := controller.nextRequestId + 1
    written := controller.written ++ [{ requestId := controller.nextRequestId, body }] }

def updateMessageState (clientMessageId : Int) (state : MessageDeliveryState) : Controller :=
  if controller.messages.any fun message =>
      message.clientMessageId = clientMessageId ∧ canTransition message.deliveryState state then
    { controller with
      messages := controller.messages.replaceF fun message =>
        if message.clientMessageId = clientMessageId ∧
            canTransition message.deliveryState state then
          some { message with deliveryState := state }
        else none
      repository := controller.repository.updateDeliveryState clientMessageId state }
  else controller

def attachRemoteConversation (remoteConversationId : Int) : Controller :=
  if remoteConversationId ≤ 0 then controller
  else { controller with remoteConversationId := some remoteConversationId }

/-! ### Sending -/

def sendText (clientMessageId : Int) (body : String) : Controller :=
  let sent := controller.request (.sendText clientMessageId
    (wireClientMessageId controller.authenticatedUid clientMessageId) body)
  { sent with
    outgoingRequestMessages := Function.update sent.outgoingRequestMessages
      controller.nextRequestId (some clientMessageId) }

/-- `sendMessage` with a text already trimmed. Without a connection the message stays behind
as unknown. -/
def sendMessage (body timestamp : String) (ready : Bool) : Controller :=
  if body = "" then controller
  else
    let clientMessageId := controller.nextClientMessageId
    let message : MessageRecord :=
      { clientMessageId, senderId := "me", body,
        timestamp, outgoing := true, deliveryState := .pendingLocal }
    let drawn := { controller with nextClientMessageId := clientMessageId - 1 }
    match controller.repository.enqueueOutgoing controller.localConversationId message with
    | none =>
      { drawn with
        messages := drawn.messages ++ [{ message with deliveryState := .permanentFailed }] }
    | some repository =>
      let stored := { drawn with
        repository
        messages := drawn.messages ++ [message] }
      if ready then
        (stored.updateMessageState clientMessageId .waitingAccept).sendText clientMessageId body
      else stored.updateMessageState clientMessageId .unknown

def acceptRecord (clientMessageId : Int) (messageId conversationSeq : Nat)
    (message : MessageRecord) : Option MessageRecord :=
  if message.clientMessageId = clientMessageId then
    some { message with
      messageId := some messageId
      conversationSeq := some conversationSeq
      deliveryState := .accepted }
  else none

/-- The branch of `HandleGatewayResponse` for a text. A response without the ids counts as a
refusal. The result of `AcceptOutgoing` is not looked at. -/
def handleSendResponse (requestId : Nat) (response : SendResponse) : Controller :=
  match controller.outgoingRequestMessages requestId with
  | none => controller
  | some clientMessageId =>
    let taken := { controller with
      outgoingRequestMessages :=
        Function.update controller.outgoingRequestMessages requestId none }
    match response.errorCode, response.messageId, response.conversationId,
      response.conversationSeq with
    | .success, some messageId, some conversationId, some conversationSeq =>
      if taken.messages.any fun message => message.clientMessageId = clientMessageId then
        let accepted := { taken with
          messages :=
            taken.messages.replaceF (acceptRecord clientMessageId messageId conversationSeq)
          repository := (taken.repository.acceptOutgoing clientMessageId messageId
            taken.localConversationId conversationSeq).getD taken.repository }
        accepted.attachRemoteConversation conversationId
      else taken
    | errorCode, _, _, _ =>
      taken.updateMessageState clientMessageId
        (if response.retryable ∨ isRetryableError errorCode then .retryableFailed
        else .permanentFailed)

def handleGatewayFailure (requestId : Nat) (errorCode : ErrorCode) (outcomeUnknown : Bool) :
    Controller :=
  let dropped := { controller with
    outgoingRequestMessages := Function.update controller.outgoingRequestMessages requestId none
    syncRequestConversations :=
      Function.update controller.syncRequestConversations requestId false }
  match controller.outgoingRequestMessages requestId with
  | none => dropped
  | some clientMessageId =>
    dropped.updateMessageState clientMessageId
      (if outcomeUnknown then .unknown
      else if isRetryableError errorCode then .retryableFailed
      else .permanentFailed)

/-! ### Receiving -/

def stateOfStatus : Server.MessageStatus → MessageDeliveryState
  | .read => .read
  | .delivered => .delivered
  | .wait => .accepted
  | .withdraw => .accepted

def pageRecord (uid : Nat) (item : Server.ChatMessage) : MessageRecord where
  clientMessageId := item.messageId
  messageId := some item.messageId
  conversationSeq := some item.conversationSeq
  senderId := toString item.fromUid
  body := item.content
  timestamp := item.sendDateTime
  outgoing := item.fromUid = uid
  deliveryState := stateOfStatus item.status

def pullConversationMessages (conversationId : Int) (afterSeq : Nat) : Controller :=
  let sent := controller.request (.pullConversation conversationId afterSeq 50)
  { sent with
    syncRequestConversations := Function.update sent.syncRequestConversations
      controller.nextRequestId true }

def additions (items : List Server.ChatMessage) : List MessageRecord :=
  (items.filter fun item =>
    ¬ controller.messages.any fun message => message.messageId = some item.messageId).map
      (pageRecord controller.authenticatedUid)

def storePage (response : Server.PullResponse) : Controller :=
  match controller.repository.applyIncomingBatch controller.localConversationId
    (controller.additions response.messageList)
    (response.nextSeq.getD controller.syncCursor) with
  | none => controller
  | some repository =>
    let stored := { controller with
      repository
      messages := controller.messages ++ controller.additions response.messageList }
    match response.hasMore, response.nextSeq with
    | some true, some nextSeq =>
      stored.pullConversationMessages (response.conversationId.getD 0) nextSeq
    | _, _ => stored

def handlePullResponse (requestId : Nat) (response : Server.PullResponse) : Controller :=
  let taken := { controller with
    syncRequestConversations :=
      Function.update controller.syncRequestConversations requestId false }
  if controller.syncRequestConversations requestId = false ∨ response.error ≠ .success then taken
  else (taken.attachRemoteConversation (response.conversationId.getD 0)).storePage response

/-- `HandleGatewayPush` for a text. A push moves the cursor to its own sequence number. -/
def handleGatewayPush (packet : PushPacket) (now : String) : Controller :=
  let attached := controller.attachRemoteConversation (packet.conversationId.getD 0)
  let messageId := packet.messageId.getD packet.seq
  if attached.messages.any fun message => message.messageId = some messageId then attached
  else
    let incoming : MessageRecord :=
      { clientMessageId := messageId
        messageId := some messageId
        conversationSeq := packet.conversationSeq
        senderId := toString packet.fromUid
        body := packet.data
        timestamp := if packet.sendDateTime = "" then now else packet.sendDateTime
        outgoing := false
        deliveryState := .delivered }
    match attached.repository.applyIncomingBatch attached.localConversationId [incoming]
      (packet.conversationSeq.getD attached.syncCursor) with
    | none => attached
    | some repository =>
      { attached with repository, messages := attached.messages ++ [incoming] }

/-! ### After a login, and a restart -/

def syncKnownConversations : Controller :=
  match controller.remoteConversationId with
  | none => controller
  | some conversationId => controller.pullConversationMessages conversationId controller.syncCursor

def isPending (message : MessageRecord) : Bool :=
  message.outgoing ∧ (message.deliveryState = .pendingLocal ∨
    message.deliveryState = .waitingAccept ∨ message.deliveryState = .unknown ∨
    message.deliveryState = .retryableFailed)

def resume (message : MessageRecord) : Controller :=
  if isPending message then
    let waiting :=
      if message.deliveryState ≠ .waitingAccept then
        controller.updateMessageState message.clientMessageId .waitingAccept
      else controller
    waiting.sendText message.clientMessageId message.body
  else controller

def resumePendingOutgoing : Controller :=
  controller.messages.foldl resume controller

def authenticated : Controller :=
  controller.syncKnownConversations.resumePendingOutgoing

/-- A restart: memory is loaded from the tables, and no request waits for its response. -/
def restart : Controller :=
  let messages := controller.repository.load controller.localConversationId
  { controller with
    messages
    nextClientMessageId :=
      messages.foldl (fun next message => min next (message.clientMessageId - 1)) (-1000)
    outgoingRequestMessages := fun _ => none
    syncRequestConversations := fun _ => false }

/-! ### What the handlers do -/

variable {controller}

theorem attachRemoteConversation_spec (controller : Controller) (remoteConversationId : Int) :
    ∃ remote, controller.attachRemoteConversation remoteConversationId =
      { controller with remoteConversationId := remote } := by
  unfold attachRemoteConversation
  split
  · exact ⟨controller.remoteConversationId, rfl⟩
  · exact ⟨_, rfl⟩

theorem handleSendResponse_accepted {requestId : Nat} {clientMessageId : Int}
    (waits : controller.outgoingRequestMessages requestId = some clientMessageId)
    (inMemory : controller.messages.any fun message => message.clientMessageId = clientMessageId)
    {messageId conversationSeq : Nat} {conversationId : Int} {retryable : Bool} :
    ∃ remote, controller.handleSendResponse requestId
        { errorCode := .success, retryable, messageId := some messageId,
          conversationId := some conversationId, conversationSeq := some conversationSeq } =
      { controller with
        remoteConversationId := remote
        outgoingRequestMessages :=
          Function.update controller.outgoingRequestMessages requestId none
        messages :=
          controller.messages.replaceF (acceptRecord clientMessageId messageId conversationSeq)
        repository := (controller.repository.acceptOutgoing clientMessageId messageId
          controller.localConversationId conversationSeq).getD controller.repository } := by
  unfold handleSendResponse
  rw [waits]
  dsimp only
  rw [if_pos inMemory]
  obtain ⟨remote, attached⟩ := attachRemoteConversation_spec _ conversationId
  exact ⟨remote, attached⟩

theorem storePage_spec (controller : Controller) (response : Server.PullResponse)
    (known : controller.localConversationId ∈ controller.repository.conversations) :
    ∃ inserted, Repository.insertAll controller.localConversationId
        (controller.additions response.messageList) controller.repository = some inserted ∧
      ∃ stored, stored =
        { controller with
          repository := inserted.replaceCursor controller.localConversationId
            (response.nextSeq.getD controller.syncCursor)
          messages := controller.messages ++ controller.additions response.messageList } ∧
        (controller.storePage response = stored ∨
          ∃ nextSeq, response.nextSeq = some nextSeq ∧ controller.storePage response =
            stored.pullConversationMessages (response.conversationId.getD 0) nextSeq) := by
  obtain ⟨inserted, all⟩ := Option.isSome_iff_exists.mp
    (Repository.insertAll_isSome (controller.additions response.messageList) known)
  refine ⟨inserted, all, _, rfl, ?_⟩
  unfold storePage Repository.applyIncomingBatch
  rw [all, Option.map_some]
  dsimp only
  split
  · exact .inr ⟨_, ‹_›, rfl⟩
  · exact .inl rfl

/-- A property that does not depend on the requests and that the updates of message states keep
is kept by a login. -/
theorem authenticated_rule {property : Controller → Prop}
    (requests : ∀ (controller : Controller) outgoingRequestMessages syncRequestConversations
      nextRequestId written, property controller → property
        { controller with
          outgoingRequestMessages, syncRequestConversations, nextRequestId, written })
    (updated : ∀ {controller : Controller} (clientMessageId : Int), property controller →
      property (controller.updateMessageState clientMessageId .waitingAccept))
    (holds : property controller) : property controller.authenticated := by
  have synced : property controller.syncKnownConversations := by
    unfold syncKnownConversations
    split
    · exact holds
    · exact requests controller _ _ _ _ holds
  refine List.foldlRecOn _ _ synced fun controller holds message _ => ?_
  unfold resume
  split
  · split
    · exact requests (controller.updateMessageState _ _) _ _ _ _ (updated _ holds)
    · exact requests controller _ _ _ _ holds
  · exact holds

end Controller

theorem isPending_of_transition {record : MessageRecord} {state : MessageDeliveryState}
    (allowed : canTransition record.deliveryState state)
    (pending : Controller.isPending { record with deliveryState := state }) :
    Controller.isPending record := by
  obtain ⟨outgoing, waits⟩ := of_decide_eq_true pending
  exact decide_eq_true ⟨outgoing, waits_of_canTransition allowed waits⟩

end Wimi.Client
