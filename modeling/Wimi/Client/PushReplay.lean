/-
This file proves when a push that is delivered again changes nothing at a client.

The Gateway writes a reliable delivery up to three times until it is acknowledged,
and the client processes every copy with `HandleGatewayPush`. A pushed text is
looked up among the messages of its conversation before anything is stored, so the
second copy finds the first; where the first could not be stored, the second cannot
be stored either, and both leave the client as it was after the conversation was
prepared. A reply only makes sure that a conversation is listed.

An application has no such check. `HandleGatewayPush` appends it to the list, and
writes the list as a whole under the primary key `request_id`: the second copy is
shown a second time, and the table refuses the list from then on.

A local write is the one that stores what was pushed: the message, the list of
applications, or the conversation of a group that was joined. Texts are never null
here, and a packet that could not be parsed is `none`. What a pushed text does to a
listed conversation is what it does to the model of one conversation.
-/

import Wimi.Client.OutboxTable

namespace Wimi.Client.Push

open Function List Option Lists Outbox

/-! ### The conversations of the local database -/

structure ConversationRecord where
  conversationId : String
  title : String
  preview : String := ""
  timestamp : String := ""
  avatarColor : String
  remoteConversationId : Option Int := none
  unreadCount : Int := 0
  pinned : Bool := false
  muted : Bool := false
  online : Bool := false
deriving DecidableEq, Repr

structure ConversationRow extends ConversationRecord where
  sortOrder : Int
deriving DecidableEq, Repr

/-- The tables a push reads and writes, apart from the applications; `ready` is `IsReady`. -/
structure LocalDatabase where
  ready : Bool := true
  conversations : List ConversationRow := []
  messages : List StoredMessage := []
  outbox : List Int := []
  syncState : String → Option Nat := fun _ => none

namespace LocalDatabase

variable (database : LocalDatabase)

def conversationIds : List String :=
  database.conversations.map fun row => row.conversationId

def repository : Repository where
  conversations := database.conversationIds
  messages := database.messages
  outbox := database.outbox
  syncState := database.syncState

def remoteTaken (conversationId : String) (remote : Option Int) : Bool :=
  remote.isSome ∧ database.conversations.any fun row =>
    row.conversationId ≠ conversationId ∧ row.remoteConversationId = remote

def nextSortOrder : Int :=
  (database.conversations.map ConversationRow.sortOrder).min?.getD 0 - 1

/-- `SaveConversation`. A row without a new number keeps its own, which the index has admitted
before. -/
def saveConversation (record : ConversationRecord) : Option LocalDatabase :=
  if database.ready ∧ ¬ database.remoteTaken record.conversationId record.remoteConversationId then
    some { database with
      conversations :=
        if record.conversationId ∈ database.conversationIds then
          updateFirst (fun row => row.conversationId = record.conversationId)
            (fun row =>
              { record with
                conversationId := row.conversationId
                remoteConversationId := record.remoteConversationId <|> row.remoteConversationId
                sortOrder := row.sortOrder })
            database.conversations
        else { record with sortOrder := database.nextSortOrder } :: database.conversations }
  else none

def setRemoteConversationId (conversationId : String) (remote : Int) : LocalDatabase :=
  if database.ready ∧ ¬ database.remoteTaken conversationId (some remote) then
    { database with
      conversations := updateFirst (fun row => row.conversationId = conversationId)
        (fun row => { row with remoteConversationId := some remote }) database.conversations }
  else database

def applyIncomingBatch (conversationId : String) (messages : List MessageRecord)
    (nextCursor : Nat) : Option LocalDatabase :=
  if database.ready then
    (database.repository.applyIncomingBatch conversationId messages nextCursor).map fun written =>
      { database with messages := written.messages, syncState := written.syncState }
  else none

end LocalDatabase

open LocalDatabase

/-! ### The client -/

/-- What a client keeps in memory, the models behind its views, and the local database. The
table of applications is in `requests`. -/
structure PushClient where
  authenticatedUid : Int := 0
  conversations : List ConversationRecord := []
  conversationModel : List ConversationRecord := []
  selectedConversationIndex : Int := -1
  messagesByConversation : String → List MessageRecord := fun _ => []
  messageModel : List MessageRecord := []
  requests : RequestDesk := {}
  database : LocalDatabase := {}

inductive PushService where
  | sendTextRequest
  | sendGroupTextRequest
  | addFriendRequest
  | joinGroupRequest
  | replyFriendRequest
  | replyJoinGroupRequest
  | other
deriving DecidableEq, Repr

structure PushedPacket extends PushPacket where
  gid : Int := 0
  uid : Int := 0
  content : String := ""
  requestMessage : String := ""
  accept : Bool := false
  requestorUid : Int := 0
deriving DecidableEq, Repr

def PushedPacket.textId (packet : PushedPacket) : Nat := packet.messageId.getD packet.seq

def displayTimestamp (now serverTimestamp : String) : String :=
  if serverTimestamp = "" then now
  else if 5 ≤ serverTimestamp.length then
    String.ofList ((serverTimestamp.toList.drop (serverTimestamp.length - 8)).take 5)
  else serverTimestamp

namespace PushClient

variable (client : PushClient)

def isListed (conversationId : String) : Bool :=
  conversationId ∈ client.conversationModel.map ConversationRecord.conversationId

def currentConversationId : String :=
  match client.selectedConversationIndex with
  | .ofNat index =>
    match client.conversationModel[index]? with
    | some record => record.conversationId
    | none => ""
  | .negSucc _ => ""

def ensureConversation (conversationId title avatarColor : String) : Option PushClient :=
  if client.isListed conversationId then some client
  else
    let conversation : ConversationRecord :=
      { conversationId, title, avatarColor }
    (client.database.saveConversation conversation).map fun database =>
      { client with
        database
        conversations := conversation :: client.conversations
        messagesByConversation :=
          Function.update client.messagesByConversation conversationId []
        selectedConversationIndex :=
          if 0 ≤ client.selectedConversationIndex then client.selectedConversationIndex + 1
          else client.selectedConversationIndex
        conversationModel := conversation :: client.conversationModel }

def ensureDirectConversation (peerUid : Int) : Option PushClient :=
  client.ensureConversation (directConversationId peerUid) ("用户 " ++ toString peerUid) "#315FD6"

def ensureGroupConversation (groupId : Int) : Option PushClient :=
  client.ensureConversation (groupConversationId groupId) ("群聊 " ++ toString groupId) "#7656A8"

def attachRemoteConversation (conversationId : String) (remote : Int) : PushClient :=
  if remote ≤ 0 then client
  else
    match client.conversations.find? fun record => record.conversationId = conversationId with
    | none => client
    | some record =>
      if record.remoteConversationId = some remote then client
      else
        { client with
          conversations :=
            updateFirst (fun record => record.conversationId = conversationId)
              (fun record => { record with remoteConversationId := some remote })
              client.conversations
          conversationModel :=
            updateFirst
              (fun record => record.conversationId = conversationId ∧
                record.remoteConversationId ≠ some remote)
              (fun record => { record with remoteConversationId := some remote })
              client.conversationModel
          database := client.database.setRemoteConversationId conversationId remote }

def updatePreview (conversationId preview timestamp : String) (records : List ConversationRecord) :
    List ConversationRecord :=
  updateFirst (fun record => record.conversationId = conversationId)
    (fun record => { record with preview, timestamp }) records

def countUnread (conversationId : String) : PushClient :=
  match client.conversations.find? fun record => record.conversationId = conversationId with
  | none => client
  | some record =>
    let counted := { record with unreadCount := record.unreadCount + 1 }
    { client with
      conversations :=
        updateFirst (fun record => record.conversationId = conversationId)
          (fun record => { record with unreadCount := record.unreadCount + 1 })
          client.conversations
      conversationModel :=
        updateFirst
          (fun record => record.conversationId = conversationId ∧
            record.unreadCount ≠ counted.unreadCount)
          (fun record => { record with unreadCount := counted.unreadCount })
          client.conversationModel
      database := (client.database.saveConversation counted).getD client.database }

def showIncoming (conversationId : String) (incoming : MessageRecord) (now : String)
    (database : LocalDatabase) : PushClient :=
  { client with
    database
    messagesByConversation := Function.update client.messagesByConversation conversationId
      (client.messagesByConversation conversationId ++ [incoming])
    messageModel :=
      if client.currentConversationId = conversationId then client.messageModel ++ [incoming]
      else client.messageModel
    conversationModel := updatePreview conversationId incoming.body
      (displayTimestamp now incoming.timestamp) client.conversationModel
    conversations := updatePreview conversationId incoming.body
      (displayTimestamp now incoming.timestamp) client.conversations }

/-- A numbered message of a conversation that is not open is unread. -/
def receiveText (conversationId : String) (packet : PushedPacket) (now : String)
    (database : LocalDatabase) : PushClient :=
  let shown := client.showIncoming conversationId (pushRecord packet.toPushPacket now) now
    database
  if packet.conversationId.isSome ∧ packet.conversationSeq.isSome ∧
      shown.currentConversationId ≠ conversationId then
    shown.countUnread conversationId
  else shown

def attachPacket (conversationId : String) (packet : PushedPacket) : PushClient :=
  match packet.conversationId with
  | some remote => client.attachRemoteConversation conversationId remote
  | none => client

/-- The conversation of a text: the client in which it is listed, and its key. A group keeps its
key when its conversation could not be saved; a peer is then left with the empty one. -/
def prepareText (group : Bool) (packet : PushedPacket) : PushClient × String :=
  let ensured : PushClient × String :=
    if group then
      ((client.ensureGroupConversation packet.gid).getD client, groupConversationId packet.gid)
    else
      match client.ensureDirectConversation packet.fromUid with
      | some ensured => (ensured, directConversationId packet.fromUid)
      | none => (client, "")
  (ensured.1.attachPacket ensured.2 packet, ensured.2)

def isKnown (conversationId : String) (messageId : Nat) : Bool :=
  (client.messagesByConversation conversationId).any fun message =>
    message.messageId = some messageId

def storeText (conversationId : String) (packet : PushedPacket) (now : String) :
    PushClient × Bool :=
  if client.isKnown conversationId packet.textId then (client, true)
  else
    match client.database.applyIncomingBatch conversationId
      [pushRecord packet.toPushPacket now]
      (packet.conversationSeq.getD (client.database.repository.syncCursor conversationId)) with
    | none => (client, false)
    | some database => (client.receiveText conversationId packet now database, true)

def handleText (group : Bool) (packet : PushedPacket) (now : String) : PushClient × Bool :=
  (client.prepareText group packet).1.storeText (client.prepareText group packet).2 packet now

def pushedRequest (group : Bool) (packet : PushedPacket) : RequestRecord where
  requestId :=
    if group then "group:" ++ toString packet.gid ++ ":" ++ toString packet.uid
    else toString packet.fromUid
  displayName := "用户 " ++ if group then toString packet.uid else toString packet.fromUid
  message := if group then packet.content else packet.requestMessage
  avatarColor := "#367A91"
  kind := if group then .group else .friend
  status := .pending

def handleRequest (group : Bool) (packet : PushedPacket) : PushClient × Bool :=
  let requests := client.requests.snapshot ++ [pushedRequest group packet]
  ({ client with requests := client.requests.setRequests requests client.database.ready },
    client.database.ready && (replaceRequests requests).isSome)

def letsIn (packet : PushedPacket) : Bool :=
  packet.accept ∧ packet.requestorUid = client.authenticatedUid ∧ 0 < packet.gid

def handleJoinReply (packet : PushedPacket) : PushClient × Bool :=
  if client.letsIn packet then
    match client.ensureGroupConversation packet.gid with
    | some ensured => (ensured, true)
    | none => (client, false)
  else (client, true)

def handleGatewayPush (service : PushService) (payload : Option PushedPacket) (now : String) :
    PushClient × Bool :=
  match payload with
  | none => (client, true)
  | some packet =>
    match service with
    | .sendTextRequest => client.handleText false packet now
    | .sendGroupTextRequest => client.handleText true packet now
    | .addFriendRequest => client.handleRequest false packet
    | .joinGroupRequest => client.handleRequest true packet
    | .replyJoinGroupRequest => client.handleJoinReply packet
    | .replyFriendRequest | .other => (client, true)

end PushClient

open PushClient

/-! ### A push that comes again -/

/-- The message lists, the unread counts, the list of applications and the tables are the same. -/
structure SameData (first second : PushClient) : Prop where
  messages : second.messagesByConversation = first.messagesByConversation
  messageModel : second.messageModel = first.messageModel
  unread : (second.conversations.map fun record => (record.conversationId, record.unreadCount)) =
    first.conversations.map fun record => (record.conversationId, record.unreadCount)
  unreadModel :
    (second.conversationModel.map fun record => (record.conversationId, record.unreadCount)) =
      first.conversationModel.map fun record => (record.conversationId, record.unreadCount)
  requests : second.requests = first.requests
  database : second.database = first.database

theorem SameData.refl (client : PushClient) : SameData client client :=
  ⟨rfl, rfl, rfl, rfl, rfl, rfl⟩

/-- Processing a push at `now` and the same push at `later`. -/
structure Harmless (client : PushClient) (service : PushService) (payload : Option PushedPacket)
    (now later : String) : Prop where
  written : (client.handleGatewayPush service payload now).2 = true
  writtenAgain :
    ((client.handleGatewayPush service payload now).1.handleGatewayPush service payload later).2 =
      true
  unchanged : SameData (client.handleGatewayPush service payload now).1
    ((client.handleGatewayPush service payload now).1.handleGatewayPush service payload later).1

variable {now avatarColor title conversationId : String} {first second after before : PushClient}
  {group : Bool} {packet : PushedPacket} {database : LocalDatabase} {record : ConversationRecord}

theorem harmless_of_again {client : PushClient} {service : PushService}
    {payload : Option PushedPacket} {later : String}
    (again : (client.handleGatewayPush service payload now).1.handleGatewayPush service payload
      later = client.handleGatewayPush service payload now) :
    Harmless client service payload now later ↔
      (client.handleGatewayPush service payload now).2 = true := by
  refine ⟨Harmless.written, fun written => ⟨written, ?_, ?_⟩⟩
  · rw [again]
    exact written
  · rw [again]
    exact SameData.refl _

/-! ### The writes of the database -/

namespace LocalDatabase

theorem saveConversation_eq_some {saved : LocalDatabase}
    (taken : database.saveConversation record = some saved) :
    saved.ready = database.ready ∧ record.conversationId ∈ saved.conversationIds := by
  obtain ⟨_, ⟨⟩⟩ := ite_none_right_eq_some.mp taken
  refine ⟨rfl, ?_⟩
  by_cases listed : record.conversationId ∈ database.conversationIds
  · rw [if_pos listed, conversationIds, map_updateFirst (by intro row; rfl)]
    exact listed
  · rw [if_neg listed]
    exact mem_cons_self

theorem saveConversation_repository {saved : LocalDatabase}
    (known : record.conversationId ∈ database.conversationIds)
    (taken : database.saveConversation record = some saved) :
    saved.repository = database.repository := by
  obtain ⟨_, ⟨⟩⟩ := ite_none_right_eq_some.mp taken
  rw [if_pos known]
  simp only [repository, conversationIds]
  rw [map_updateFirst (by intro row; rfl)]

theorem saveConversation_isSome (database : LocalDatabase)
    (unnumbered : record.remoteConversationId = none) :
    (database.saveConversation record).isSome = database.ready := by
  have free : database.remoteTaken record.conversationId record.remoteConversationId = false := by
    rw [unnumbered]
    exact decide_eq_false fun taken => Bool.false_ne_true taken.1
  simp only [saveConversation, free]
  cases database.ready <;> rfl

theorem setRemoteConversationId_frame (database : LocalDatabase) (conversationId : String)
    (remote : Int) :
    (database.setRemoteConversationId conversationId remote).ready = database.ready ∧
      (database.setRemoteConversationId conversationId remote).repository =
        database.repository := by
  simp only [setRemoteConversationId]
  split
  · refine ⟨rfl, ?_⟩
    simp only [repository, conversationIds]
    rw [map_updateFirst (by intro row; rfl)]
  · exact ⟨rfl, rfl⟩

theorem applyIncomingBatch_frame {messages : List MessageRecord} {cursor : Nat}
    {written : LocalDatabase}
    (taken : database.applyIncomingBatch conversationId messages cursor = some written) :
    written.ready = database.ready ∧ written.conversationIds = database.conversationIds := by
  obtain ⟨_, taken⟩ := ite_none_right_eq_some.mp taken
  obtain ⟨_, _, rfl⟩ := map_eq_some_iff.mp taken
  exact ⟨rfl, rfl⟩

theorem applyIncomingBatch_repository (ready : database.ready = true) (conversationId : String)
    (messages : List MessageRecord) (cursor : Nat) :
    (database.applyIncomingBatch conversationId messages cursor).map repository =
      database.repository.applyIncomingBatch conversationId messages cursor := by
  rw [applyIncomingBatch, if_pos ready, Option.map_map]
  cases taken : database.repository.applyIncomingBatch conversationId messages cursor with
  | none => rfl
  | some written =>
    obtain ⟨inserted, all, rfl⟩ := Repository.applyIncomingBatch_spec taken
    obtain ⟨added, rfl, _⟩ := Repository.insertAll_spec all
    simp only [Option.map_some, comp_apply, repository, Repository.replaceCursor]
    rfl

theorem applyIncomingBatch_isSome_iff {message : MessageRecord} {cursor : Nat} :
    (database.applyIncomingBatch conversationId [message] cursor).isSome = true ↔
      database.ready = true ∧
        (database.messages.any (StoredMessage.collides ⟨conversationId, message⟩) = true ∨
          conversationId ∈ database.conversationIds) := by
  have inserted : (database.repository.insertMessage conversationId message true).isSome = true ↔
      database.messages.any (StoredMessage.collides ⟨conversationId, message⟩) = true ∨
        conversationId ∈ database.conversationIds := by
    simp only [Repository.insertMessage]
    split
    · rename_i collides
      exact iff_of_true rfl (.inl collides)
    rename_i fresh
    split
    · rename_i listed
      exact iff_of_true rfl (.inr listed)
    · rename_i unlisted
      exact iff_of_false Bool.false_ne_true (not_or.mpr ⟨fresh, unlisted⟩)
  simp only [applyIncomingBatch]
  split
  · rename_i ready
    rw [← inserted, and_iff_right ready]
    simp only [Repository.applyIncomingBatch, Repository.insertAll]
    cases database.repository.insertMessage conversationId message true <;> rfl
  · grind

end LocalDatabase

/-! ### What preparing a text looks at -/

structure SameShape (first second : PushClient) : Prop where
  ready : second.database.ready = first.database.ready
  listed : second.conversationModel.map ConversationRecord.conversationId =
    first.conversationModel.map ConversationRecord.conversationId
  remotes :
    (second.conversations.map fun record =>
        (record.conversationId, record.remoteConversationId)) =
      first.conversations.map fun record => (record.conversationId, record.remoteConversationId)

theorem SameShape.refl (client : PushClient) : SameShape client client := ⟨rfl, rfl, rfl⟩

theorem SameShape.trans {third : PushClient} (early : SameShape first second)
    (late : SameShape second third) : SameShape first third :=
  ⟨late.ready.trans early.ready, late.listed.trans early.listed,
    late.remotes.trans early.remotes⟩

theorem SameShape.isListed (shape : SameShape first second) (conversationId : String) :
    second.isListed conversationId = first.isListed conversationId := by
  rw [PushClient.isListed, PushClient.isListed, shape.listed]

def Attached (client : PushClient) (conversationId : String) (remote : Int) : Prop :=
  0 < remote → ∀ record,
    (client.conversations.find? fun record => record.conversationId = conversationId) =
      some record → record.remoteConversationId = some remote

theorem SameShape.attached (shape : SameShape first second) {conversationId : String} {remote : Int}
    (attached : Attached first conversationId remote) : Attached second conversationId remote := by
  intro positive record found
  have pairs := congrArg (find? fun pair => pair.1 = conversationId) shape.remotes
  rw [find?_map, find?_map] at pairs
  have foundPair := pairs.symm.trans (congrArg (Option.map _) found)
  obtain ⟨before, foundBefore, equal⟩ := map_eq_some_iff.mp foundPair
  have same : before.remoteConversationId = record.remoteConversationId :=
    congrArg Prod.snd equal
  exact same ▸ attached positive before foundBefore

namespace PushClient

variable {client : PushClient}

theorem attachRemoteConversation_of_attached {remote : Int}
    (attached : Attached client conversationId remote) :
    client.attachRemoteConversation conversationId remote = client := by
  simp only [attachRemoteConversation]
  split
  · rfl
  rename_i positive
  split
  · rfl
  · rename_i record found
    exact if_pos (attached (Int.not_le.mp positive) record found)

theorem attached_attachRemoteConversation (client : PushClient) (conversationId : String)
    (remote : Int) :
    Attached (client.attachRemoteConversation conversationId remote) conversationId remote := by
  intro positive record found
  simp only [attachRemoteConversation, if_neg (Int.not_le.mpr positive)] at found
  split at found
  · rename_i missing
    rw [missing] at found
    cases found
  rename_i before foundBefore
  split at found
  · grind
  obtain ⟨_, _, rfl⟩ := map_eq_some_iff.mp
    ((find?_updateFirst (by intro _ selected; exact selected) _).symm.trans found)
  rfl

structure Frame (before after : PushClient) : Prop where
  ready : after.database.ready = before.database.ready
  listed : after.conversationModel.map ConversationRecord.conversationId =
    before.conversationModel.map ConversationRecord.conversationId
  messages : after.messagesByConversation = before.messagesByConversation
  repository : after.database.repository = before.database.repository

theorem frame_attachRemoteConversation (remote : Int) :
    Frame client (client.attachRemoteConversation conversationId remote) := by
  simp only [attachRemoteConversation]
  split
  · exact ⟨rfl, rfl, rfl, rfl⟩
  split
  · exact ⟨rfl, rfl, rfl, rfl⟩
  split
  · exact ⟨rfl, rfl, rfl, rfl⟩
  obtain ⟨ready, repository⟩ :=
    client.database.setRemoteConversationId_frame conversationId remote
  exact ⟨ready, map_updateFirst (by intro record; rfl) _, rfl, repository⟩

theorem frame_attachPacket (packet : PushedPacket) :
    Frame client (client.attachPacket conversationId packet) := by
  simp only [attachPacket]
  split
  · exact frame_attachRemoteConversation _
  · exact ⟨rfl, rfl, rfl, rfl⟩

theorem attachPacket_again {later : PushClient}
    (shape : SameShape (client.attachPacket conversationId packet) later) :
    later.attachPacket conversationId packet = later := by
  simp only [attachPacket] at shape ⊢
  split
  · rename_i remote numbered
    rw [numbered] at shape
    exact attachRemoteConversation_of_attached
      (shape.attached (attached_attachRemoteConversation client conversationId remote))
  · rfl

theorem Frame.isListed (frame : Frame before after) (conversationId : String) :
    after.isListed conversationId = before.isListed conversationId := by
  rw [PushClient.isListed, PushClient.isListed, frame.listed]

theorem Frame.isKnown (frame : Frame before after) (conversationId : String) (messageId : Nat) :
    after.isKnown conversationId messageId = before.isKnown conversationId messageId := by
  rw [PushClient.isKnown, PushClient.isKnown, frame.messages]

/-! ### The conversation of a push -/

theorem ensureConversation_of_listed (listed : client.isListed conversationId = true) :
    client.ensureConversation conversationId title avatarColor = some client :=
  if_pos listed

theorem ensureConversation_of_closed (unlisted : client.isListed conversationId = false)
    (closed : client.database.ready = false) :
    client.ensureConversation conversationId title avatarColor = none := by
  have refused : (client.database.saveConversation
      { conversationId, title, avatarColor }).isSome =
      client.database.ready := client.database.saveConversation_isSome rfl
  rw [closed, isSome_eq_false_iff, isNone_iff_eq_none] at refused
  simp only [ensureConversation, unlisted, refused, Bool.false_eq_true, if_false, map_none]

theorem ensureConversation_of_open (unlisted : client.isListed conversationId = false)
    (ready : client.database.ready = true) :
    ∃ ensured, client.ensureConversation conversationId title avatarColor = some ensured ∧
      ensured.isListed conversationId = true ∧ ensured.database.ready = true ∧
      conversationId ∈ ensured.database.conversationIds := by
  have accepted : (client.database.saveConversation
      { conversationId, title, avatarColor }).isSome =
      client.database.ready := client.database.saveConversation_isSome rfl
  obtain ⟨saved, taken⟩ := isSome_iff_exists.mp (accepted.trans ready)
  obtain ⟨sameReady, hasRow⟩ := saveConversation_eq_some taken
  simp only [ensureConversation, unlisted, taken]
  exact ⟨_, rfl, decide_eq_true mem_cons_self, sameReady.trans ready, hasRow⟩

def textKey (group : Bool) (packet : PushedPacket) : String :=
  if group then groupConversationId packet.gid else directConversationId packet.fromUid

def spareKey (group : Bool) (packet : PushedPacket) : String :=
  if group then groupConversationId packet.gid else ""

theorem prepareText_of_listed (listed : client.isListed (textKey group packet) = true) :
    client.prepareText group packet =
      (client.attachPacket (textKey group packet) packet, textKey group packet) := by
  cases group with
  | false =>
    have same : client.ensureDirectConversation packet.fromUid = some client :=
      ensureConversation_of_listed listed
    simp only [prepareText, same]
    rfl
  | true =>
    have same : client.ensureGroupConversation packet.gid = some client :=
      ensureConversation_of_listed listed
    simp only [prepareText, same]
    rfl

theorem prepareText_of_closed (unlisted : client.isListed (textKey group packet) = false)
    (closed : client.database.ready = false) :
    client.prepareText group packet =
      (client.attachPacket (spareKey group packet) packet, spareKey group packet) := by
  cases group with
  | false =>
    have refused : client.ensureDirectConversation packet.fromUid = none :=
      ensureConversation_of_closed unlisted closed
    simp only [prepareText, refused]
    rfl
  | true =>
    have refused : client.ensureGroupConversation packet.gid = none :=
      ensureConversation_of_closed unlisted closed
    simp only [prepareText, refused]
    rfl

theorem prepareText_of_open (unlisted : client.isListed (textKey group packet) = false)
    (ready : client.database.ready = true) :
    ∃ ensured : PushClient, client.prepareText group packet =
        (ensured.attachPacket (textKey group packet) packet, textKey group packet) ∧
      ensured.isListed (textKey group packet) = true ∧ ensured.database.ready = true ∧
      textKey group packet ∈ ensured.database.conversationIds := by
  cases group with
  | false =>
    obtain ⟨ensured, taken, listed⟩ := ensureConversation_of_open unlisted ready
    have ensures : client.ensureDirectConversation packet.fromUid = some ensured := taken
    refine ⟨ensured, ?_, listed⟩
    simp only [prepareText, ensures]
    rfl
  | true =>
    obtain ⟨ensured, taken, listed⟩ := ensureConversation_of_open unlisted ready
    have ensures : client.ensureGroupConversation packet.gid = some ensured := taken
    refine ⟨ensured, ?_, listed⟩
    simp only [prepareText, ensures]
    rfl

theorem prepareText_again {later : PushClient}
    (shape : SameShape (client.prepareText group packet).1 later) :
    later.prepareText group packet = (later, (client.prepareText group packet).2) := by
  cases listed : client.isListed (textKey group packet) with
  | true =>
    rw [prepareText_of_listed listed] at shape ⊢
    have stillListed : later.isListed (textKey group packet) = true := by
      rw [shape.isListed, (frame_attachPacket packet).isListed, listed]
    rw [prepareText_of_listed stillListed, attachPacket_again shape]
  | false =>
    cases ready : client.database.ready with
    | true =>
      obtain ⟨ensured, prepared, nowListed, _⟩ := prepareText_of_open listed ready
      rw [prepared] at shape ⊢
      have stillListed : later.isListed (textKey group packet) = true := by
        rw [shape.isListed, (frame_attachPacket packet).isListed, nowListed]
      rw [prepareText_of_listed stillListed, attachPacket_again shape]
    | false =>
      rw [prepareText_of_closed listed ready] at shape ⊢
      have stillUnlisted : later.isListed (textKey group packet) = false := by
        rw [shape.isListed, (frame_attachPacket packet).isListed, listed]
      have stillClosed : later.database.ready = false := by
        rw [shape.ready, (frame_attachPacket packet).ready, ready]
      rw [prepareText_of_closed stillUnlisted stillClosed, attachPacket_again shape]

/-! ### A text that comes again -/

theorem sameShape_countUnread : SameShape client (client.countUnread conversationId) := by
  simp only [countUnread]
  split
  · exact SameShape.refl client
  refine ⟨?_, map_updateFirst (by intro record; rfl) _,
    map_updateFirst (by intro record; rfl) _⟩
  cases saved : client.database.saveConversation _ with
  | none => rfl
  | some database => exact (saveConversation_eq_some saved).1

theorem sameShape_receiveText (ready : database.ready = client.database.ready) :
    SameShape client (client.receiveText conversationId packet now database) := by
  have shown : SameShape client (client.showIncoming conversationId
      (pushRecord packet.toPushPacket now) now database) :=
    ⟨ready, map_updateFirst (by intro record; rfl) _,
      map_updateFirst (by intro record; rfl) _⟩
  simp only [receiveText]
  split
  · exact shown.trans sameShape_countUnread
  · exact shown

theorem countUnread_messages :
    (client.countUnread conversationId).messagesByConversation =
      client.messagesByConversation := by
  simp only [countUnread]
  split <;> rfl

theorem countUnread_repository (known : conversationId ∈ client.database.conversationIds) :
    (client.countUnread conversationId).database.repository = client.database.repository := by
  simp only [countUnread]
  split
  · rfl
  rename_i record found
  cases saved : client.database.saveConversation
      { record with unreadCount := record.unreadCount + 1 } with
  | none => rfl
  | some database =>
    have same : record.conversationId = conversationId := by simpa using find?_some found
    exact saveConversation_repository (same ▸ known) saved

theorem receiveText_repository (known : conversationId ∈ database.conversationIds) :
    (client.receiveText conversationId packet now database).database.repository =
      database.repository := by
  simp only [receiveText]
  split
  · exact countUnread_repository known
  · rfl

theorem receiveText_messages :
    (client.receiveText conversationId packet now database).messagesByConversation conversationId =
      client.messagesByConversation conversationId ++
        [pushRecord packet.toPushPacket now] := by
  simp only [receiveText]
  split
  · rw [countUnread_messages]
    exact update_self ..
  · exact update_self ..

theorem isKnown_receiveText :
    (client.receiveText conversationId packet now database).isKnown conversationId
      packet.textId = true := by
  rw [isKnown, receiveText_messages, List.any_eq_true]
  exact ⟨_, mem_append_right _ mem_cons_self, decide_eq_true rfl⟩

def Storable (client : PushClient) (conversationId : String) (packet : PushedPacket) : Prop :=
  client.database.ready = true ∧
    (client.database.messages.any (StoredMessage.collides
        ⟨conversationId, pushRecord packet.toPushPacket ""⟩) = true ∨
      conversationId ∈ client.database.conversationIds)

theorem storeText_of_known (known : client.isKnown conversationId packet.textId = true) :
    client.storeText conversationId packet now = (client, true) :=
  if_pos known

theorem storeText_of_refused (unknown : client.isKnown conversationId packet.textId = false)
    (refused : ¬ Storable client conversationId packet) :
    client.storeText conversationId packet now = (client, false) := by
  simp only [storeText, unknown, Bool.false_eq_true, if_false]
  split
  · rfl
  rename_i database stored
  exact absurd (applyIncomingBatch_isSome_iff.mp
    (isSome_iff_exists.mpr ⟨database, stored⟩)) refused

theorem storeText_of_storable (now : String)
    (unknown : client.isKnown conversationId packet.textId = false)
    (storable : Storable client conversationId packet) :
    ∃ database : LocalDatabase, database.ready = client.database.ready ∧
      client.storeText conversationId packet now =
        (client.receiveText conversationId packet now database, true) := by
  simp only [storeText, unknown, Bool.false_eq_true, if_false]
  have taken : (client.database.applyIncomingBatch conversationId
      [pushRecord packet.toPushPacket now] (packet.conversationSeq.getD
        (client.database.repository.syncCursor conversationId))).isSome = true :=
    applyIncomingBatch_isSome_iff.mpr storable
  split
  · rename_i refused
    rw [refused] at taken
    cases taken
  · grind [applyIncomingBatch_frame]

theorem storeText_written_iff :
    (client.storeText conversationId packet now).2 = true ↔
      client.isKnown conversationId packet.textId = true ∨
        Storable client conversationId packet := by
  cases known : client.isKnown conversationId packet.textId with
  | true => exact iff_of_true (congrArg Prod.snd (storeText_of_known known)) (.inl rfl)
  | false =>
    by_cases storable : Storable client conversationId packet
    · obtain ⟨database, _, stored⟩ := storeText_of_storable now known storable
      exact iff_of_true (congrArg Prod.snd stored) (.inr storable)
    · rw [storeText_of_refused known storable]
      exact iff_of_false Bool.false_ne_true (not_or.mpr ⟨Bool.false_ne_true, storable⟩)

/-- The second copy of a text finds the first, or is refused as the first was. -/
theorem storeText_again (client : PushClient) (conversationId : String) (packet : PushedPacket)
    (now later : String) :
    SameShape client (client.storeText conversationId packet now).1 ∧
      (client.storeText conversationId packet now).1.storeText conversationId packet later =
        client.storeText conversationId packet now := by
  cases known : client.isKnown conversationId packet.textId with
  | true => grind [storeText_of_known, SameShape.refl]
  | false =>
    by_cases storable : Storable client conversationId packet
    · obtain ⟨database, ready, stored⟩ := storeText_of_storable now known storable
      rw [stored]
      exact ⟨sameShape_receiveText ready, storeText_of_known isKnown_receiveText⟩
    · grind [storeText_of_refused, SameShape.refl]

theorem handleText_again (client : PushClient) (group : Bool) (packet : PushedPacket)
    (now later : String) :
    (client.handleText group packet now).1.handleText group packet later =
      client.handleText group packet now := by
  obtain ⟨shape, again⟩ := (client.prepareText group packet).1.storeText_again
    (client.prepareText group packet).2 packet now later
  rw [handleText, handleText, prepareText_again shape]
  exact again

/-! ### When the local write goes through -/

/-- A pushed text can be written: the database is open, and the conversation is new or has its
row, or the text is there under one of its keys; or the text is known in memory already. -/
def TextAccepted (client : PushClient) (group : Bool) (packet : PushedPacket) : Prop :=
  client.database.ready = true ∧ client.isListed (textKey group packet) = false ∨
    Storable client (textKey group packet) packet ∨
    client.isKnown (if client.isListed (textKey group packet) then textKey group packet
      else spareKey group packet) packet.textId = true

theorem Frame.storable_iff (frame : Frame before after) :
    Storable after conversationId packet ↔ Storable before conversationId packet := by
  have rows : after.database.messages = before.database.messages :=
    congrArg Repository.messages frame.repository
  have listed : after.database.conversationIds = before.database.conversationIds :=
    congrArg Repository.conversations frame.repository
  rw [Storable, Storable, frame.ready, rows, listed]

theorem handleText_written_iff :
    (client.handleText group packet now).2 = true ↔ TextAccepted client group packet := by
  cases listed : client.isListed (textKey group packet) with
  | true =>
    have frame : Frame client (client.attachPacket (textKey group packet) packet) :=
      frame_attachPacket packet
    rw [handleText, prepareText_of_listed listed, storeText_written_iff, frame.isKnown,
      frame.storable_iff, TextAccepted, listed]
    simp only [Bool.true_eq_false, and_false, false_or]
    exact or_comm
  | false =>
    cases ready : client.database.ready with
    | true =>
      obtain ⟨ensured, prepared, _, stillReady, hasRow⟩ := prepareText_of_open listed ready
      have storable : Storable ensured (textKey group packet) packet :=
        ⟨stillReady, .inr hasRow⟩
      rw [handleText, prepared, storeText_written_iff, (frame_attachPacket packet).storable_iff]
      exact iff_of_true (.inr storable) (.inl ⟨ready, listed⟩)
    | false =>
      have frame : Frame client (client.attachPacket (spareKey group packet) packet) :=
        frame_attachPacket packet
      rw [handleText, prepareText_of_closed listed ready, storeText_written_iff, frame.isKnown,
        frame.storable_iff, TextAccepted, listed, Storable, Storable, ready]
      simp only [Bool.false_eq_true, false_and, or_false, false_or, if_false]

/-- The conversation of a group that was joined is listed, or can be saved. -/
def JoinAccepted (client : PushClient) (packet : PushedPacket) : Prop :=
  client.letsIn packet = true → client.isListed (groupConversationId packet.gid) = true ∨
    client.database.ready = true

theorem ensureConversation_authenticatedUid {ensured : PushClient}
    (taken : client.ensureConversation conversationId title avatarColor = some ensured) :
    ensured.authenticatedUid = client.authenticatedUid := by
  simp only [ensureConversation] at taken
  split at taken
  · cases taken
    rfl
  · obtain ⟨_, _, rfl⟩ := map_eq_some_iff.mp taken
    rfl

theorem handleJoinReply_of_ensured {ensured : PushClient} (lets : client.letsIn packet = true)
    (taken : client.ensureGroupConversation packet.gid = some ensured) :
    client.handleJoinReply packet = (ensured, true) := by
  simp only [handleJoinReply, lets, taken, if_true]

/-- The reply that comes again finds the group listed, or is refused as the first was. -/
theorem handleJoinReply_again (client : PushClient) (packet : PushedPacket) :
    (client.handleJoinReply packet).1.handleJoinReply packet = client.handleJoinReply packet ∧
      ((client.handleJoinReply packet).2 = true ↔ JoinAccepted client packet) := by
  cases lets : client.letsIn packet with
  | false =>
    have same : client.handleJoinReply packet = (client, true) :=
      if_neg fun holds => Bool.false_ne_true (lets.symm.trans holds)
    rw [same]
    exact ⟨same, iff_of_true rfl fun holds => absurd (lets.symm.trans holds) Bool.false_ne_true⟩
  | true =>
    cases listed : client.isListed (groupConversationId packet.gid) with
    | true =>
      have same : client.handleJoinReply packet = (client, true) :=
        handleJoinReply_of_ensured lets (ensureConversation_of_listed listed)
      rw [same]
      exact ⟨same, iff_of_true rfl fun _ => .inl listed⟩
    | false =>
      cases ready : client.database.ready with
      | true =>
        obtain ⟨ensured, taken, nowListed, _⟩ := ensureConversation_of_open listed ready
        have stillLets : ensured.letsIn packet = true := by
          rw [letsIn, ensureConversation_authenticatedUid taken]
          exact lets
        rw [handleJoinReply_of_ensured lets taken]
        exact ⟨handleJoinReply_of_ensured stillLets (ensureConversation_of_listed nowListed),
          iff_of_true rfl fun _ => .inr ready⟩
      | false =>
        have refused : client.ensureGroupConversation packet.gid = none :=
          ensureConversation_of_closed listed ready
        have same : client.handleJoinReply packet = (client, false) := by
          simp only [handleJoinReply, lets, refused, if_true]
        rw [same]
        refine ⟨same, iff_of_false Bool.false_ne_true fun accepted => ?_⟩
        rcases accepted lets with isListed | isReady
        · exact Bool.false_ne_true (listed.symm.trans isListed)
        · exact Bool.false_ne_true (ready.symm.trans isReady)

theorem not_sameData_handleRequest (client : PushClient) (group : Bool) (packet : PushedPacket) :
    ¬ SameData (client.handleRequest group packet).1
      ((client.handleRequest group packet).1.handleRequest group packet).1 := by
  intro same
  have lengths := congrArg (fun desk => desk.snapshot.length) same.requests
  simp only [handleRequest, RequestDesk.setRequests, length_append,
    length_singleton] at lengths
  omega

end PushClient

/-! ### Redelivery -/

/-- Nothing but an application is refused by this: a text whose conversation is new or stored,
and a reply, on an open database. -/
def Accepted (client : PushClient) (packet : PushedPacket) : PushService → Prop
  | .sendTextRequest => client.TextAccepted false packet
  | .sendGroupTextRequest => client.TextAccepted true packet
  | .addFriendRequest | .joinGroupRequest => False
  | .replyJoinGroupRequest => client.JoinAccepted packet
  | .replyFriendRequest | .other => True

/-- A push that comes again leaves the client as it was, with both local writes gone through,
exactly when it is not an application and its write can go through at all. -/
theorem push_redelivery_harmless_iff (client : PushClient) (service : PushService)
    (payload : Option PushedPacket) (now later : String) :
    Harmless client service payload now later ↔
      ∀ packet, payload = some packet → Accepted client packet service := by
  cases payload with
  | none => exact (harmless_of_again rfl).trans (iff_of_true rfl fun _ wrong => by cases wrong)
  | some packet =>
    have only : (∀ other, some packet = some other → Accepted client other service) ↔
        Accepted client packet service :=
      ⟨fun all => all packet rfl, fun holds other same => some.inj same ▸ holds⟩
    rw [only]
    cases service with
    | sendTextRequest =>
      refine (harmless_of_again ?_).trans ?_
      · exact client.handleText_again false packet now later
      · exact handleText_written_iff
    | sendGroupTextRequest =>
      refine (harmless_of_again ?_).trans ?_
      · exact client.handleText_again true packet now later
      · exact handleText_written_iff
    | addFriendRequest =>
      exact iff_of_false (fun harmless =>
        client.not_sameData_handleRequest false packet harmless.unchanged) id
    | joinGroupRequest =>
      exact iff_of_false (fun harmless =>
        client.not_sameData_handleRequest true packet harmless.unchanged) id
    | replyJoinGroupRequest =>
      obtain ⟨again, written⟩ := client.handleJoinReply_again packet
      refine (harmless_of_again ?_).trans ?_
      · exact again
      · exact written
    | replyFriendRequest | other => exact (harmless_of_again rfl).trans (iff_of_true rfl trivial)

/-- A friend application that is delivered twice is listed twice, and the second list is refused
by the table. -/
theorem friend_application_listed_twice :
    let packet : PushedPacket := { fromUid := 7, data := "", requestMessage := "hi" }
    let first := ({} : PushClient).handleGatewayPush .addFriendRequest (some packet) "10:00"
    let second := first.1.handleGatewayPush .addFriendRequest (some packet) "10:05"
    ¬ Harmless {} .addFriendRequest (some packet) "10:00" "10:05" ∧
      second.1.requests.table.map RequestRecord.requestId = ["7"] := by
  refine ⟨fun harmless => ?_, ?_⟩
  · exact not_sameData_handleRequest {} false _ harmless.unchanged
  · decide +kernel

/-! ### The controller of one conversation -/

/-- The client lists the conversation of the controller, with the same messages and the same
tables. The number of the conversation is not compared. -/
structure Shows (client : PushClient) (controller : Controller) : Prop where
  ready : client.database.ready = true
  listed : client.isListed controller.localConversationId = true
  known : controller.localConversationId ∈ controller.repository.conversations
  messages : client.messagesByConversation controller.localConversationId = controller.messages
  repository : client.database.repository = controller.repository

section

variable {client : PushClient} {controller : Controller}
  (shows : Shows client controller) (packet : PushedPacket)
include shows

theorem Shows.attach (remote : Int) :
    Shows (client.attachPacket conversationId packet)
      (controller.attachRemoteConversation remote) := by
  have frame : PushClient.Frame client (client.attachPacket conversationId packet) :=
    frame_attachPacket packet
  obtain ⟨number, attached⟩ := controller.attachRemoteConversation_spec remote
  rw [attached]
  exact
    { ready := frame.ready.trans shows.ready
      listed := (frame.isListed _).trans shows.listed
      known := shows.known
      messages := (congrFun frame.messages _).trans shows.messages
      repository := frame.repository.trans shows.repository }

theorem Shows.receive {now : String} (ready : database.ready = client.database.ready)
    (known : controller.localConversationId ∈ database.conversationIds) :
    Shows (client.receiveText controller.localConversationId packet now database)
      { controller with
        repository := database.repository
        messages := controller.messages ++ [pushRecord packet.toPushPacket now] } := by
  have shape : SameShape client
      (client.receiveText controller.localConversationId packet now database) :=
    sameShape_receiveText ready
  exact
    { ready := shape.ready.trans shows.ready
      listed := (shape.isListed _).trans shows.listed
      known
      messages := by rw [receiveText_messages, shows.messages]
      repository := receiveText_repository known }

/-- Storing a text does what `Controller.handleGatewayPush` does behind the attached number. -/
theorem Shows.storeText (own : controller.localConversationId = conversationId) (now : String) :
    Shows (client.storeText conversationId packet now).1
      (if controller.messages.any fun message => message.messageId = some packet.textId then
        controller
      else
        match controller.repository.applyIncomingBatch controller.localConversationId
          [pushRecord packet.toPushPacket now]
          (packet.conversationSeq.getD controller.syncCursor) with
        | none => controller
        | some repository =>
          { controller with
            repository
            messages := controller.messages ++ [pushRecord packet.toPushPacket now] }) := by
  subst own
  rw [storeText, isKnown, shows.messages]
  split
  · exact shows
  have stored := applyIncomingBatch_repository shows.ready
    controller.localConversationId [pushRecord packet.toPushPacket now]
    (packet.conversationSeq.getD controller.syncCursor)
  rw [shows.repository] at stored ⊢
  rw [← stored, Controller.syncCursor]
  split
  · rename_i refused
    rw [refused]
    exact shows
  · rename_i database taken
    rw [taken]
    obtain ⟨ready, same⟩ := applyIncomingBatch_frame taken
    refine shows.receive packet ready ?_
    rw [same]
    change _ ∈ client.database.repository.conversations
    rw [shows.repository]
    exact shows.known

/-- A pushed text does to the client what it does to the controller of its conversation. -/
theorem Shows.handleGatewayPush {group : Bool}
    (own : controller.localConversationId = textKey group packet) (now : String) :
    Shows
      (client.handleGatewayPush (if group then .sendGroupTextRequest else .sendTextRequest)
        (some packet) now).1
      (controller.handleGatewayPush packet.toPushPacket now) := by
  have handled : client.handleGatewayPush
      (if group then .sendGroupTextRequest else .sendTextRequest) (some packet) now =
      client.handleText group packet now := by cases group <;> rfl
  have listed := shows.listed
  rw [own] at listed
  rw [handled, handleText, prepareText_of_listed listed]
  obtain ⟨number, numbered⟩ := controller.attachRemoteConversation_spec
    (packet.conversationId.getD 0)
  refine (shows.attach packet (packet.conversationId.getD 0)).storeText packet ?_ now
  rw [numbered]
  exact own

end

end Wimi.Client.Push
