/-
This file puts one client and the server of one conversation side by side: other
users' messages are accepted, pushes arrive, are dropped or come late, requests are
answered or not, and the client sends, logs in and restarts in between.

The server accepts one message after the other under the next sequence number, and
answers a text it has already with the numbers of the first time. What the client
has stored is described by `ClientSound`, and what a handler may do to it by
`Progress`: nothing that was stored is lost, and whatever the cursor passes over is
stored. Handlers are put together from writes that each make progress.
-/

import Wimi.Client.Controller

namespace Wimi.Client

open Function List Option

/-! ### The client and the server -/

inductive ServerResponse where
  | page (requestId : Nat) (response : Server.PullResponse)
  | text (requestId : Nat) (response : SendResponse)
deriving DecidableEq, Repr

structure SyncSystem where
  store : Server.Store
  client : Controller
  responses : List ServerResponse := []

/-- What can happen next. A response or a push that is never chosen is lost. -/
inductive SyncAction where
  | arrive (senderId receiverId : Nat) (clientMessageId content sendDateTime : String)
  | serve (index receiverId : Nat) (sendDateTime : String)
  | refuse (index : Nat) (errorCode : ErrorCode) (retryable : Bool)
  | deliver (index : Nat)
  | push (index : Nat) (now : String)
  | send (body timestamp : String) (ready : Bool)
  | login
  | fail (requestId : Nat) (errorCode : ErrorCode) (outcomeUnknown : Bool)
  | restart
deriving DecidableEq, Repr

def nextRow (store : Server.Store) (conversationId senderId receiverId : Nat)
    (clientMessageId content sendDateTime : String) : Server.MessageRow where
  messageId := store.autoIncrement
  senderId := senderId
  receiverId := receiverId
  conversationId := some conversationId
  conversationSeq := some (store.latestSeq conversationId + 1)
  clientMessageId := some clientMessageId
  content := content
  sendDateTime := sendDateTime

def append (store : Server.Store) (conversationId : Nat) (row : Server.MessageRow) :
    Server.Store :=
  { store.apply conversationId
      { latestSeq := some (store.latestSeq conversationId + 1), message := some row } with
    autoIncrement := store.autoIncrement + 1 }

def acceptedResponse (row : Server.MessageRow) : SendResponse where
  errorCode := .success
  messageId := some row.messageId
  conversationId := row.conversationId.map Nat.cast
  conversationSeq := row.conversationSeq

def pushPacket (row : Server.MessageRow) : PushPacket where
  fromUid := row.senderId
  seq := row.messageId
  messageId := some row.messageId
  conversationId := row.conversationId.map Nat.cast
  conversationSeq := row.conversationSeq
  data := row.content
  sendDateTime := row.sendDateTime

def sentAs (uid : Nat) (clientMessageId : String) (row : Server.MessageRow) : Bool :=
  row.senderId = uid ∧ row.clientMessageId = some clientMessageId

namespace SyncSystem

variable (member : Server.MemberRow) (system : SyncSystem)

def respond (response : ServerResponse) : SyncSystem :=
  { system with responses := system.responses ++ [response] }

def serve (receiverId : Nat) (sendDateTime : String) (request : ClientRequest) : SyncSystem :=
  match request.body with
  | .pullConversation conversationId afterSeq limit =>
    system.respond (.page request.requestId
      (Server.executeGatewayCommand system.store .pullSessionMessageListReq member.uid
        { conversationId := some conversationId, afterSeq := some afterSeq, limit := some limit }))
  | .sendText _ wireClientMessageId body =>
    match system.store.messages.find? (sentAs member.uid wireClientMessageId) with
    | some row =>
      system.respond (.text request.requestId
        (if row.content = body then acceptedResponse row
        else { errorCode := .idempotencyConflict }))
    | none =>
      let row := nextRow system.store member.conversationId member.uid receiverId
        wireClientMessageId body sendDateTime
      { system with store := append system.store member.conversationId row }.respond
        (.text request.requestId (acceptedResponse row))

def refusal (request : ClientRequest) (errorCode : ErrorCode) (retryable : Bool) :
    ServerResponse :=
  match request.body with
  | .pullConversation .. => .page request.requestId { error := errorCode, retryable }
  | .sendText .. => .text request.requestId { errorCode, retryable }

end SyncSystem

def Controller.receive (controller : Controller) : ServerResponse → Controller
  | .page requestId response => controller.handlePullResponse requestId response
  | .text requestId response => controller.handleSendResponse requestId response

open Controller

/-- One step of the client, of the server or of the network between them, for the user and the
conversation of a membership. -/
def syncStep (member : Server.MemberRow) (system : SyncSystem) : SyncAction → Option SyncSystem
  | .arrive senderId receiverId clientMessageId content sendDateTime =>
    if senderId = member.uid then none
    else some { system with
      store := append system.store member.conversationId (nextRow system.store
        member.conversationId senderId receiverId clientMessageId content sendDateTime) }
  | .serve index receiverId sendDateTime =>
    system.client.written[index]?.map (system.serve member receiverId sendDateTime)
  | .refuse index errorCode retryable =>
    if errorCode = .success then none
    else system.client.written[index]?.map fun request =>
      system.respond (SyncSystem.refusal request errorCode retryable)
  | .deliver index =>
    system.responses[index]?.map fun response =>
      { system with client := system.client.receive response }
  | .push index now =>
    (system.store.messages.filter fun row => row.senderId ≠ member.uid)[index]?.map fun row =>
      { system with client := system.client.handleGatewayPush (pushPacket row) now }
  | .send body timestamp ready =>
    some { system with client := system.client.sendMessage body timestamp ready }
  | .login => some { system with client := system.client.authenticated }
  | .fail requestId errorCode outcomeUnknown =>
    some { system with
      client := system.client.handleGatewayFailure requestId errorCode outcomeUnknown }
  | .restart => some { system with client := system.client.restart }

def SyncSystem.initial (member : Server.MemberRow) (type : Server.ConversationType)
    (businessId : Nat) (localConversationId : String) : SyncSystem where
  store :=
    { conversations :=
        [{ conversationId := member.conversationId, type, businessId }]
      conversationMembers := [member] }
  client :=
    { authenticatedUid := member.uid
      localConversationId
      repository := { conversations := [localConversationId] } }

/-! ### What is to be stored -/

def seqOf (message : Server.MessageRow) : Nat := message.conversationSeq.getD 0

def VisibleTo (member : Server.MemberRow) (message : Server.MessageRow) : Prop :=
  member.joinedSeq ≤ seqOf message ∧ ∀ left, member.leftSeq = some left → seqOf message ≤ left

def Stored (client : Controller) (message : Server.MessageRow) : Prop :=
  ∃ row ∈ client.repository.messages, row.conversationId = client.localConversationId ∧
    row.record.messageId = some message.messageId

/-- Nothing the user can see is missing up to the cursor. -/
def Repaired (member : Server.MemberRow) (system : SyncSystem) : Prop :=
  ∀ message ∈ system.store.messages, VisibleTo member message →
    seqOf message ≤ system.client.syncCursor → Stored system.client message

def GapFree (member : Server.MemberRow) (store : Server.Store) (client : Controller) (seq : Nat) :
    Prop :=
  ∀ message ∈ store.messages, VisibleTo member message → client.syncCursor < seqOf message →
    seqOf message < seq → Stored client message

/-- A push, or the response to a text of one's own, comes when nothing is missing between the
cursor and its number. -/
def Contiguous (member : Server.MemberRow) (system : SyncSystem) : SyncAction → Prop
  | .push index _ =>
    ∀ row, (system.store.messages.filter fun row => row.senderId ≠ member.uid)[index]? = some row →
      GapFree member system.store system.client (seqOf row)
  | .deliver index =>
    ∀ requestId response seq, system.responses[index]? = some (.text requestId response) →
      response.conversationSeq = some seq → GapFree member system.store system.client seq
  | _ => True

/-! ### What the client knows of the server -/

structure ServerSound (member : Server.MemberRow) (store : Server.Store) : Prop where
  conversation : ∃ row, store.conversation member.conversationId = some row
  membership : (store.conversationMembers.find? fun row =>
    row.conversationId = member.conversationId ∧ row.uid = member.uid) = some member
  placed : ∀ message ∈ store.messages, message.conversationId = some member.conversationId
  numbered : ∀ message ∈ store.messages, message.conversationSeq = some (seqOf message) ∧
    seqOf message ≤ store.latestSeq member.conversationId
  identified : ∀ message ∈ store.messages, message.messageId < store.autoIncrement
  uniqueId : ∀ first ∈ store.messages, ∀ second ∈ store.messages,
    first.messageId = second.messageId → first = second
  uniqueSeq : ∀ first ∈ store.messages, ∀ second ∈ store.messages,
    seqOf first = seqOf second → first = second
  uniqueOwn : ∀ first ∈ store.messages, ∀ second ∈ store.messages, ∀ clientMessageId,
    sentAs member.uid clientMessageId first → sentAs member.uid clientMessageId second →
      first = second

structure Carries (member : Server.MemberRow) (record : MessageRecord)
    (message : Server.MessageRow) : Prop where
  id : record.messageId = some message.messageId
  seq : record.conversationSeq = message.conversationSeq
  key : record.clientMessageId = message.messageId ∨ (record.clientMessageId < 0 ∧
    sentAs member.uid (wireClientMessageId member.uid record.clientMessageId) message)

structure Unaccepted (record : MessageRecord) : Prop where
  id : record.messageId = none
  seq : record.conversationSeq = none
  key : record.clientMessageId < 0

structure RowSound (member : Server.MemberRow) (store : Server.Store)
    (localConversationId : String) (row : StoredMessage) : Prop where
  conversation : row.conversationId = localConversationId
  source : Unaccepted row.record ∨ ∃ message ∈ store.messages, Carries member row.record message
  own : isPending row.record → row.record.clientMessageId < 0

structure RecordSound (rows : List StoredMessage) (record : MessageRecord) : Prop where
  id : ∀ messageId, record.messageId = some messageId →
    ∃ row ∈ rows, row.record.messageId = some messageId
  own : isPending record → record.clientMessageId < 0 ∧
    ∃ row ∈ rows, row.record.clientMessageId = record.clientMessageId

def BodySound (member : Server.MemberRow) (cursor : Nat) : RequestBody → Prop
  | .pullConversation conversationId afterSeq _ =>
    conversationId = member.conversationId ∧ afterSeq ≤ cursor
  | .sendText clientMessageId wire _ => wire = wireClientMessageId member.uid clientMessageId

structure ClientSound (member : Server.MemberRow) (store : Server.Store) (client : Controller) :
    Prop where
  uid : client.authenticatedUid = member.uid
  known : client.localConversationId ∈ client.repository.conversations
  rows : ∀ row ∈ client.repository.messages,
    RowSound member store client.localConversationId row
  memory : ∀ record ∈ client.messages, RecordSound client.repository.messages record
  remote : ∀ conversationId, client.remoteConversationId = some conversationId →
    conversationId = member.conversationId
  negative : client.nextClientMessageId < 0
  drawn : ∀ request ∈ client.written, request.requestId < client.nextRequestId
  once : ∀ first ∈ client.written, ∀ second ∈ client.written,
    first.requestId = second.requestId → first = second
  bodies : ∀ request ∈ client.written, BodySound member client.syncCursor request.body
  waiting : ∀ requestId clientMessageId,
    client.outgoingRequestMessages requestId = some clientMessageId → clientMessageId < 0 ∧
      (∃ row ∈ client.repository.messages, row.record.clientMessageId = clientMessageId) ∧
      ∃ wire body, ⟨requestId, .sendText clientMessageId wire body⟩ ∈ client.written
  bounded : client.syncCursor ≤
    max (store.latestSeq member.conversationId) (member.joinedSeq - 1)

structure Progress (member : Server.MemberRow) (store : Server.Store)
    (before after : Controller) : Prop where
  sound : ClientSound member store after
  written : ∀ request ∈ before.written, request ∈ after.written
  keys : ∀ row ∈ before.repository.messages, ∃ kept ∈ after.repository.messages,
    kept.record.clientMessageId = row.record.clientMessageId
  cursor : before.syncCursor ≤ after.syncCursor
  stored : ∀ message ∈ store.messages, Stored before message → Stored after message
  passed : ∀ message ∈ store.messages, VisibleTo member message →
    before.syncCursor < seqOf message → seqOf message ≤ after.syncCursor → Stored after message

variable {message : Server.MessageRow} {record : MessageRecord}

section Progress

variable {member : Server.MemberRow} {store : Server.Store} {client before after : Controller}

theorem ClientSound.progress_self (sound : ClientSound member store client) :
    Progress member store client client where
  sound := sound
  written _ := id
  keys row member := ⟨row, member, rfl⟩
  cursor := le_rfl
  stored _ _ := id
  passed _ _ _ above upTo := absurd upTo (not_le.mpr above)

theorem Progress.trans {middle : Controller} (first : Progress member store before middle)
    (second : Progress member store middle after) : Progress member store before after where
  sound := second.sound
  written request member := second.written request (first.written request member)
  keys row member := by
    obtain ⟨kept, keptMember, same⟩ := first.keys row member
    obtain ⟨last, lastMember, again⟩ := second.keys kept keptMember
    exact ⟨last, lastMember, again.trans same⟩
  cursor := first.cursor.trans second.cursor
  stored message inStore kept := second.stored message inStore (first.stored message inStore kept)
  passed message inStore visible above upTo := by
    rcases le_or_gt (seqOf message) middle.syncCursor with early | late
    · exact second.stored message inStore (first.passed message inStore visible above early)
    · exact second.passed message inStore visible late upTo

theorem progress_of_tables (sound : ClientSound member store after)
    (conversation : after.localConversationId = before.localConversationId)
    (repository : after.repository = before.repository)
    (written : ∀ request ∈ before.written, request ∈ after.written) :
    Progress member store before after := by
  have cursor : after.syncCursor = before.syncCursor := by
    unfold syncCursor
    rw [conversation, repository]
  refine ⟨sound, written, fun row member => ⟨row, repository ▸ member, rfl⟩, cursor.ge,
    fun message _ kept => ?_, fun _ _ _ above upTo => ?_⟩
  · unfold Stored at kept ⊢
    rw [conversation, repository]
    exact kept
  · exact absurd (cursor ▸ upTo) (not_le.mpr above)

/-! ### Requests -/

section

variable (sound : ClientSound member store client)
include sound

theorem ClientSound.request {body : RequestBody}
    (bodySound : BodySound member client.syncCursor body) :
    ClientSound member store (client.request body) where
  uid := sound.uid
  known := sound.known
  rows := sound.rows
  memory := sound.memory
  remote := sound.remote
  negative := sound.negative
  drawn := by
    refine forall_mem_append.mpr ⟨fun request member => ?_, ?_⟩
    · exact Nat.lt_succ_of_lt (sound.drawn request member)
    · exact forall_mem_singleton.mpr (Nat.lt_succ_self _)
  once := by
    have later : ∀ request ∈ client.written, request.requestId ≠ client.nextRequestId :=
      fun request member => Nat.ne_of_lt (sound.drawn request member)
    intro first firstMember second secondMember same
    rcases mem_append.mp firstMember with old | new <;>
      rcases mem_append.mp secondMember with old' | new'
    · exact sound.once first old second old' same
    · rw [mem_singleton.mp new'] at same
      exact absurd same (later first old)
    · rw [mem_singleton.mp new] at same
      exact absurd same.symm (later second old')
    · rw [mem_singleton.mp new, mem_singleton.mp new']
  bodies := forall_mem_append.mpr ⟨sound.bodies, forall_mem_singleton.mpr bodySound⟩
  waiting requestId clientMessageId waits := by
    obtain ⟨negative, row, wire, text, member⟩ := sound.waiting requestId clientMessageId waits
    exact ⟨negative, row, wire, text, mem_append_left _ member⟩
  bounded := sound.bounded

theorem ClientSound.setWaiting {outgoing : Nat → Option Int} {syncing : Nat → Bool}
    (waiting : ∀ requestId clientMessageId, outgoing requestId = some clientMessageId →
      clientMessageId < 0 ∧
      (∃ row ∈ client.repository.messages, row.record.clientMessageId = clientMessageId) ∧
      ∃ wire body, ⟨requestId, .sendText clientMessageId wire body⟩ ∈ client.written) :
    ClientSound member store { client with
      outgoingRequestMessages := outgoing, syncRequestConversations := syncing } :=
  { sound with waiting }

theorem ClientSound.takeWaiting (requestId : Nat) (syncing : Nat → Bool) :
    ClientSound member store { client with
      outgoingRequestMessages := update client.outgoingRequestMessages requestId none
      syncRequestConversations := syncing } := by
  refine sound.setWaiting fun other clientMessageId waits => ?_
  rw [update_apply] at waits
  split at waits
  · cases waits
  · exact sound.waiting other clientMessageId waits

theorem ClientSound.pull {afterSeq : Nat} (behind : afterSeq ≤ client.syncCursor) :
    Progress member store client
      (client.pullConversationMessages member.conversationId afterSeq) := by
  have body : BodySound member client.syncCursor
      (.pullConversation member.conversationId afterSeq 50) := ⟨rfl, behind⟩
  have requested := sound.request body
  exact progress_of_tables (requested.setWaiting requested.waiting) rfl rfl
    fun _ => mem_append_left _

theorem ClientSound.sendText {clientMessageId : Int} (negative : clientMessageId < 0)
    (row : ∃ row ∈ client.repository.messages, row.record.clientMessageId = clientMessageId)
    (body : String) : Progress member store client (client.sendText clientMessageId body) := by
  have wire : BodySound member client.syncCursor (.sendText clientMessageId
      (wireClientMessageId client.authenticatedUid clientMessageId) body) := by
    unfold BodySound
    rw [sound.uid]
  have requested := sound.request wire
  refine progress_of_tables (requested.setWaiting fun requestId other waits => ?_) rfl rfl
    fun _ => mem_append_left _
  rw [update_apply] at waits
  split at waits
  · cases waits
    subst requestId
    exact ⟨negative, row, _, _, mem_append_right _ (mem_singleton_self _)⟩
  · exact requested.waiting requestId other waits

theorem ClientSound.attach {conversationId : Int} (own : conversationId = member.conversationId) :
    Progress member store client (client.attachRemoteConversation conversationId) := by
  unfold attachRemoteConversation
  split
  · exact sound.progress_self
  refine progress_of_tables { sound with remote := fun other same => ?_ } rfl rfl fun _ => id
  cases same
  exact own

end

/-! ### Writes to the tables -/

def Keeps (row kept : StoredMessage) : Prop :=
  kept.record.clientMessageId = row.record.clientMessageId ∧
    ∀ messageId, row.record.messageId = some messageId → kept.record.messageId = some messageId

theorem keeps_append (rows added : List StoredMessage) :
    ∀ row ∈ rows, ∃ kept ∈ rows ++ added, Keeps row kept :=
  fun row stored => ⟨row, mem_append_left _ stored, rfl, fun _ => id⟩

theorem keeps_self (rows : List StoredMessage) : ∀ row ∈ rows, ∃ kept ∈ rows, Keeps row kept :=
  fun row stored => ⟨row, stored, rfl, fun _ => id⟩

theorem RecordSound.of_keeps {rows kept : List StoredMessage} (sound : RecordSound rows record)
    (keeps : ∀ row ∈ rows, ∃ other ∈ kept, Keeps row other) : RecordSound kept record where
  id messageId same := by
    obtain ⟨row, member, id⟩ := sound.id messageId same
    obtain ⟨other, otherMember, _, sameId⟩ := keeps row member
    exact ⟨other, otherMember, sameId messageId id⟩
  own pending := by
    obtain ⟨negative, row, member, key⟩ := sound.own pending
    obtain ⟨other, otherMember, sameKey, _⟩ := keeps row member
    exact ⟨negative, other, otherMember, sameKey.trans key⟩

/-- The rule for a handler that writes to the tables and to memory. -/
theorem ClientSound.write (sound : ClientSound member store client) {repository : Repository}
    {messages : List MessageRecord}
    (conversations : repository.conversations = client.repository.conversations)
    (rows : ∀ row ∈ repository.messages, RowSound member store client.localConversationId row)
    (memory : ∀ record ∈ messages, RecordSound repository.messages record)
    (keeps : ∀ row ∈ client.repository.messages, ∃ kept ∈ repository.messages, Keeps row kept)
    (cursor : client.syncCursor ≤ repository.syncCursor client.localConversationId)
    (bounded : repository.syncCursor client.localConversationId ≤
      max (store.latestSeq member.conversationId) (member.joinedSeq - 1))
    (passed : ∀ message ∈ store.messages, VisibleTo member message →
      client.syncCursor < seqOf message →
      seqOf message ≤ repository.syncCursor client.localConversationId →
      ∃ row ∈ repository.messages, row.record.messageId = some message.messageId) :
    Progress member store client
      { client with repository, messages } where
  sound :=
    { uid := sound.uid
      known := by
        rw [conversations]
        exact sound.known
      rows
      memory
      remote := sound.remote
      negative := sound.negative
      drawn := sound.drawn
      once := sound.once
      bodies := by
        intro request written
        have before := sound.bodies request written
        revert before
        cases request.body with
        | pullConversation conversationId afterSeq limit =>
          exact fun before => ⟨before.1, before.2.trans cursor⟩
        | sendText clientMessageId wire body => exact id
      waiting := by
        intro requestId clientMessageId waits
        obtain ⟨negative, ⟨row, stored, key⟩, written⟩ :=
          sound.waiting requestId clientMessageId waits
        obtain ⟨kept, keptStored, sameKey, _⟩ := keeps row stored
        exact ⟨negative, ⟨kept, keptStored, sameKey.trans key⟩, written⟩
      bounded }
  written _ := id
  keys row stored := by
    obtain ⟨kept, keptStored, sameKey, _⟩ := keeps row stored
    exact ⟨kept, keptStored, sameKey⟩
  cursor := cursor
  stored message _ before := by
    obtain ⟨row, stored, _, id⟩ := before
    obtain ⟨kept, keptStored, _, sameId⟩ := keeps row stored
    exact ⟨kept, keptStored, (rows kept keptStored).conversation, sameId _ id⟩
  passed message inStore visible above upTo := by
    obtain ⟨row, stored, id⟩ := passed message inStore visible above upTo
    exact ⟨row, stored, (rows row stored).conversation, id⟩

theorem ClientSound.updateMessageState (sound : ClientSound member store client)
    {clientMessageId : Int} (negative : clientMessageId < 0) (state : MessageDeliveryState) :
    Progress member store client (client.updateMessageState clientMessageId state) := by
  unfold Controller.updateMessageState
  split
  · have keeps : ∀ row ∈ client.repository.messages, ∃ kept ∈
        (client.repository.updateDeliveryState clientMessageId state).messages, Keeps row kept := by
      intro row stored
      refine ⟨_, mem_map.mpr ⟨row, stored, rfl⟩, ?_⟩
      split
      · exact ⟨rfl, fun _ => id⟩
      · exact ⟨rfl, fun _ => id⟩
    refine sound.write rfl ?_ ?_ keeps le_rfl sound.bounded
      fun _ _ _ above upTo => absurd upTo (not_le.mpr above)
    · intro row stored
      obtain ⟨old, oldStored, rfl⟩ := mem_map.mp stored
      have oldSound := sound.rows old oldStored
      split
      · rename_i same
        refine ⟨oldSound.conversation, ?_, fun _ => same ▸ negative⟩
        exact oldSound.source.imp (fun unaccepted => { unaccepted with })
          fun ⟨message, inStore, carries⟩ => ⟨message, inStore, { carries with }⟩
      · exact oldSound
    refine Lists.forall_mem_replaceF
      (fun record inMemory => (sound.memory record inMemory).of_keeps keeps)
      fun record inMemory after replaced => ?_
    have recordSound := (sound.memory record inMemory).of_keeps keeps
    split at replaced
    · rename_i conditions
      cases replaced
      exact ⟨recordSound.id, fun pending =>
        recordSound.own (isPending_of_transition conditions.2 pending)⟩
    · cases replaced
  · exact sound.progress_self

/-! ### Messages from the server -/

structure Incoming (record : MessageRecord) (message : Server.MessageRow) : Prop where
  id : record.messageId = some message.messageId
  seq : record.conversationSeq = message.conversationSeq
  key : record.clientMessageId = message.messageId
  settled : isPending record = false

theorem Incoming.rowSound (incoming : Incoming record message) (inStore : message ∈ store.messages)
    (localConversationId : String) :
    RowSound member store localConversationId ⟨localConversationId, record⟩ where
  conversation := rfl
  source := .inr ⟨message, inStore, incoming.id, incoming.seq, .inl incoming.key⟩
  own pending := absurd (incoming.settled.symm.trans pending) Bool.false_ne_true

section

variable (server : ServerSound member store) {localConversationId : String} {row : StoredMessage}
  (sound : RowSound member store localConversationId row)
include server sound

theorem RowSound.id_of_seq (inStore : message ∈ store.messages)
    (seq : row.record.conversationSeq = some (seqOf message)) :
    row.record.messageId = some message.messageId := by
  obtain unaccepted | ⟨other, otherInStore, carries⟩ := sound.source
  · exact nomatch unaccepted.seq.symm.trans seq
  have same : other = message := by
    refine server.uniqueSeq other otherInStore message inStore (some.inj ?_)
    exact (server.numbered other otherInStore).1.symm.trans (carries.seq.symm.trans seq)
  rw [carries.id, same]

theorem RowSound.id_of_collides (incoming : Incoming record message)
    (inStore : message ∈ store.messages)
    (collides : StoredMessage.collides ⟨localConversationId, record⟩ row) :
    row.record.messageId = some message.messageId := by
  have nonnegative : (0 : Int) ≤ message.messageId := Int.natCast_nonneg _
  rcases of_decide_eq_true collides with key | ⟨_, id⟩ | ⟨_, _, seq⟩
  · have key : row.record.clientMessageId = message.messageId := key.symm.trans incoming.key
    obtain unaccepted | ⟨other, _, carries⟩ := sound.source
    · exact absurd (key ▸ unaccepted.key) (not_lt.mpr nonnegative)
    rcases carries.key with same | ⟨negative, _⟩
    · rw [carries.id, Int.natCast_inj.mp (same.symm.trans key)]
    · exact absurd (key ▸ negative) (not_lt.mpr nonnegative)
  · exact id.symm.trans incoming.id
  · refine sound.id_of_seq server inStore (seq.symm.trans ?_)
    exact incoming.seq.trans (server.numbered message inStore).1

end

/-- A batch of messages of the server is written with a cursor. -/
theorem ClientSound.batch (server : ServerSound member store)
    (sound : ClientSound member store client) {records : List MessageRecord}
    (incoming : ∀ record ∈ records, ∃ message ∈ store.messages, Incoming record message)
    {inserted : Repository} (all : Repository.insertAll client.localConversationId records
      client.repository = some inserted) {cursor : Nat}
    (bounded : cursor ≤ max (store.latestSeq member.conversationId) (member.joinedSeq - 1))
    (covered : ∀ message ∈ store.messages, VisibleTo member message →
      client.syncCursor < seqOf message → seqOf message ≤ cursor →
      Stored client message ∨ ∃ record ∈ records, Incoming record message) :
    Progress member store client { client with
      repository := inserted.replaceCursor client.localConversationId cursor
      messages := client.messages ++ records } := by
  obtain ⟨added, equal, own⟩ := Repository.insertAll_spec all
  have rowsSound : ∀ row ∈ inserted.messages,
      RowSound member store client.localConversationId row := by
    rw [equal]
    refine forall_mem_append.mpr ⟨sound.rows, fun row inAdded => ?_⟩
    obtain ⟨conversation, record⟩ := row
    obtain ⟨rfl, inRecords⟩ := own _ inAdded
    obtain ⟨message, inStore, carries⟩ := incoming _ inRecords
    exact carries.rowSound inStore _
  have found : ∀ record ∈ records, ∀ message ∈ store.messages, Incoming record message →
      ∃ row ∈ inserted.messages, row.record.messageId = some message.messageId := by
    intro record inRecords message inStore carries
    obtain ⟨row, stored, collides⟩ := Repository.insertAll_collides all inRecords
    exact ⟨row, stored, (rowsSound row stored).id_of_collides server carries inStore collides⟩
  have keeps : ∀ row ∈ client.repository.messages, ∃ kept ∈ inserted.messages, Keeps row kept :=
    equal ▸ keeps_append _ added
  have before : inserted.syncCursor client.localConversationId = client.syncCursor := by
    rw [equal]
    rfl
  have after : (inserted.replaceCursor client.localConversationId cursor).syncCursor
      client.localConversationId = max client.syncCursor cursor := by
    rw [Repository.syncCursor_replaceCursor, before]
  refine sound.write (equal ▸ rfl) rowsSound ?_ keeps ?_ ?_ ?_
  · refine forall_mem_append.mpr ⟨fun record inMemory => ?_, fun record inRecords => ?_⟩
    · exact (sound.memory record inMemory).of_keeps keeps
    obtain ⟨message, inStore, carries⟩ := incoming record inRecords
    refine ⟨fun messageId same => ?_, fun pending => ?_⟩
    · cases carries.id.symm.trans same
      exact found record inRecords message inStore carries
    · exact absurd (carries.settled.symm.trans pending) Bool.false_ne_true
  · rw [after]
    exact le_max_left _ _
  · rw [after]
    exact max_le sound.bounded bounded
  rw [after]
  intro message inStore visible above upTo
  have upTo : seqOf message ≤ cursor := (le_max_iff.mp upTo).resolve_left (not_le.mpr above)
  rcases covered message inStore visible above upTo with
    ⟨row, stored, _, id⟩ | ⟨record, inRecords, carries⟩
  · obtain ⟨kept, keptStored, _, sameId⟩ := keeps row stored
    exact ⟨kept, keptStored, sameId _ id⟩
  · exact found record inRecords message inStore carries

theorem ClientSound.stored_of_memory (sound : ClientSound member store client)
    (inMemory : record ∈ client.messages) (same : record.messageId = some message.messageId) :
    Stored client message := by
  obtain ⟨row, stored, id⟩ := (sound.memory record inMemory).id _ same
  exact ⟨row, stored, (sound.rows row stored).conversation, id⟩

end Progress

end Wimi.Client
