/-
This file models the reads of the Message service: `syncConversation`, the page of
a conversation after a sequence number, and the two older queries by message id,
with the handlers `PullSessionMessages` and `PullMessages` that answer a request
with them.

A page is what the client's gap repair rests on, so its contents are characterised
here: it has exactly the messages of the member's range between the number it
starts after and the number it ends at.
-/

import Wimi.Lib.Lists
import Wimi.Protocol
import Wimi.Server.Store

namespace Wimi.Server

open List Option

/-! ### Requests and responses -/

structure PullRequest where
  uid : Int := 0
  fromUid : Int := 0
  toUid : Int := 0
  lastMsgId : Int := 0
  limit : Option Int := none
  conversationId : Option Int := none
  afterSeq : Option Int := none
deriving DecidableEq, Repr

structure ChatMessage where
  messageId : Nat
  fromUid : Nat := 0
  toUid : Nat := 0
  conversationId : Nat := 0
  conversationSeq : Nat := 0
  clientMessageId : String := ""
  type : MessageType
  content : String
  status : MessageStatus
  sendDateTime : String
  readDateTime : String
deriving DecidableEq, Repr

structure PullResponse where
  error : ErrorCode
  retryable : Option Bool := none
  message : String := ""
  uid : Option Int := none
  conversationId : Option Int := none
  latestSeq : Option Nat := none
  nextSeq : Option Nat := none
  hasMore : Option Bool := none
  conversationType : Option ConversationType := none
  messageList : List ChatMessage := []
deriving DecidableEq, Repr

structure ConversationSyncResult where
  error : ErrorCode := .mysqlFailed
  conversationType : Option ConversationType := none
  latestSeq : Nat := 0
  nextSeq : Nat := 0
  hasMore : Bool := false
  messages : List MessageRow := []
deriving DecidableEq, Repr

/-! ### The page of a conversation -/

def boundedCount (pullCount : Int) : Nat :=
  (max 1 (min (if 0 < pullCount then pullCount else 50) 100)).toNat

def Store.membership (store : Store) (uid conversationId : Nat) :
    Option (ConversationRow × MemberRow) :=
  match store.conversation conversationId,
    store.conversationMembers.find? fun row =>
      row.conversationId = conversationId ∧ row.uid = uid with
  | some conversation, some member => some (conversation, member)
  | _, _ => none

def lastVisible (conversation : ConversationRow) (member : MemberRow) : Nat :=
  member.leftSeq.getD conversation.latestSeq

def inRange (conversationId after last : Nat) (message : MessageRow) : Bool :=
  message.conversationId = some conversationId ∧
    after < message.conversationSeq.getD 0 ∧ message.conversationSeq.getD 0 ≤ last

def bySequence (first second : MessageRow) : Bool :=
  first.conversationSeq.getD 0 ≤ second.conversationSeq.getD 0

/-- The rows of a page: one more than the count is read, to learn if there are more. -/
def page (messages : List MessageRow) (count : Nat) (selected : MessageRow → Bool) :
    List MessageRow :=
  ((messages.filter selected).mergeSort bySequence).take (count + 1)

def syncConversation (store : Store) (uid conversationId afterSeq pullCount : Int) :
    ConversationSyncResult :=
  if uid ≤ 0 ∨ conversationId ≤ 0 ∨ afterSeq < 0 then { error := .jsonParser }
  else
    match store.membership uid.toNat conversationId.toNat with
    | none => { error := .messageOwnershipInvalid }
    | some (conversation, member) =>
      let count := boundedCount pullCount
      let effectiveAfter := max afterSeq.toNat (member.joinedSeq - 1)
      let rows := page store.messages count
        (inRange conversationId.toNat effectiveAfter (lastVisible conversation member))
      let messages := rows.take count
      { error := .success
        conversationType := some conversation.type
        latestSeq := conversation.latestSeq
        nextSeq := (messages.getLast?.bind MessageRow.conversationSeq).getD effectiveAfter
        hasMore := count < rows.length
        messages }

variable {store : Store} {conversationId pullCount lastMessageId : Int} {message : MessageRow}
  {selected : MessageRow → Bool}

theorem mem_syncConversation {uid afterSeq : Int}
    (member : message ∈ (syncConversation store uid conversationId afterSeq pullCount).messages) :
    message ∈ store.messages ∧ ∃ conversation membership after,
      store.membership uid.toNat conversationId.toNat = some (conversation, membership) ∧
      membership.joinedSeq - 1 ≤ after ∧
      inRange conversationId.toNat after (lastVisible conversation membership) message := by
  unfold syncConversation at member
  split at member
  · cases member
  split at member
  · cases member
  rename_i conversation membership found
  obtain ⟨stored, within⟩ := mem_filter.mp (mem_mergeSort.mp
    (mem_of_mem_take (mem_of_mem_take member)))
  exact ⟨stored, conversation, membership, _, found, le_max_right _ _, within⟩

theorem syncConversation_congr {other : Store} {uid : Int}
    (memberships : ∀ conversationId,
      store.membership uid.toNat conversationId = other.membership uid.toNat conversationId)
    (same : ∀ conversation membership after,
      store.membership uid.toNat conversationId.toNat = some (conversation, membership) →
      membership.joinedSeq - 1 ≤ after →
      store.messages.filter
          (inRange conversationId.toNat after (lastVisible conversation membership)) =
        other.messages.filter
          (inRange conversationId.toNat after (lastVisible conversation membership)))
    (afterSeq pullCount : Int) :
    syncConversation store uid conversationId afterSeq pullCount =
      syncConversation other uid conversationId afterSeq pullCount := by
  unfold syncConversation
  rw [← memberships]
  split
  · rfl
  · grind [page, le_max_right]

theorem pairwise_bySequence (messages : List MessageRow) :
    (messages.mergeSort bySequence).Pairwise fun first second =>
      first.conversationSeq.getD 0 ≤ second.conversationSeq.getD 0 := by
  have sorted : (messages.mergeSort bySequence).Pairwise (bySequence · ·) := by
    refine pairwise_mergeSort (fun first second third => ?_) (fun first second => ?_) messages
    · simp only [bySequence, decide_eq_true_eq]
      exact Nat.le_trans
    · simp only [bySequence, Bool.or_eq_true, decide_eq_true_eq]
      exact Nat.le_total _ _
  exact sorted.imp fun ordered => of_decide_eq_true ordered

theorem boundedCount_pos (pullCount : Int) : 0 < boundedCount pullCount := by
  unfold boundedCount
  omega

theorem inRange_numbered {conversationId after last : Nat}
    (within : inRange conversationId after last message) :
    ∃ seq, message.conversationSeq = some seq := by
  obtain ⟨_, above, _⟩ := of_decide_eq_true within
  cases equal : message.conversationSeq with
  | none =>
    rw [equal] at above
    cases above
  | some seq => exact ⟨seq, rfl⟩

/-- The rows leave out no selected message up to the number `last`, and that is the number
before the first or one of theirs. -/
structure CompleteUpTo (messages : List MessageRow) (selected : MessageRow → Bool)
    (start last : Nat) (rows : List MessageRow) : Prop where
  complete : ∀ message ∈ messages, selected message → message.conversationSeq.getD 0 ≤ last →
    message ∈ rows
  ends : last = start ∨
    ∃ message ∈ messages, selected message ∧ message.conversationSeq = some last

theorem page_complete {messages : List MessageRow} {count start : Nat} (positive : 0 < count)
    (numbered : ∀ message, selected message → ∃ seq, message.conversationSeq = some seq)
    (unique : ∀ first ∈ messages, ∀ second ∈ messages,
      first.conversationSeq.getD 0 = second.conversationSeq.getD 0 → first = second) :
    CompleteUpTo messages selected start
      ((((page messages count selected).take count).getLast?.bind
        MessageRow.conversationSeq).getD start)
      ((page messages count selected).take count) := by
  have rows : (page messages count selected).take count =
      ((messages.filter selected).mergeSort bySequence).take count := by
    unfold page
    rw [take_take, Nat.min_eq_left (Nat.le_succ _)]
  have member : ∀ message, message ∈ (messages.filter selected).mergeSort bySequence ↔
      message ∈ messages ∧ selected message := by
    intro message
    rw [mem_mergeSort, mem_filter]
  rw [rows]
  cases ends : (((messages.filter selected).mergeSort bySequence).take count).getLast? with
  | none => exact ⟨by grind, .inl rfl⟩
  | some last =>
    have isLast := mem_of_getLast? ends
    obtain ⟨stored, holds⟩ := (member last).mp (mem_of_mem_take isLast)
    obtain ⟨seq, equal⟩ := numbered last holds
    rw [bind_some, equal]
    refine ⟨fun message kept within upTo => ?_, .inr ⟨last, stored, holds, equal⟩⟩
    refine Lists.mem_take_of_le (pairwise_bySequence _) ?_ isLast
      ((member message).mpr ⟨kept, within⟩) ?_
    · grind
    · rw [equal]
      exact upTo

/-- A page leaves out nothing of its range up to the number it ends at. -/
theorem syncConversation_complete {uid afterSeq : Int}
    (success : (syncConversation store uid conversationId afterSeq pullCount).error = .success)
    (unique : ∀ first ∈ store.messages, ∀ second ∈ store.messages,
      first.conversationSeq.getD 0 = second.conversationSeq.getD 0 → first = second) :
    ∃ conversation membership,
      store.membership uid.toNat conversationId.toNat = some (conversation, membership) ∧
      let result := syncConversation store uid conversationId afterSeq pullCount
      let start := max afterSeq.toNat (membership.joinedSeq - 1)
      CompleteUpTo store.messages
        (inRange conversationId.toNat start (lastVisible conversation membership)) start
        result.nextSeq result.messages := by
  unfold syncConversation at success ⊢
  split at success
  · cases success
  rename_i valid
  rw [if_neg valid]
  split at success
  · cases success
  rename_i conversation membership found
  rw [found]
  exact ⟨conversation, membership, rfl,
    page_complete (boundedCount_pos pullCount) (fun _ => inRange_numbered) unique⟩

/-! ### The queries by message id -/

def toInt32 (value : Int) : Int := value.bmod (2 ^ 32)

/-- `... AND messageId >= ? ORDER BY messageId DESC LIMIT ?`, with no result for an empty set
or a limit that is not valid. -/
def messagesFrom (store : Store) (selected : MessageRow → Bool) (lastMessageId pullCount : Int) :
    Option (List MessageRow) :=
  if lastMessageId < 0 then none
  else
    let rows := ((store.messages.filter fun message =>
        selected message ∧ lastMessageId ≤ message.messageId).mergeSort fun first second =>
      second.messageId ≤ first.messageId).take pullCount.toNat
    if rows.isEmpty then none else some rows

def sentBetween (fromUid toUid : Int) (message : MessageRow) : Bool :=
  message.senderId = fromUid ∧ message.receiverId = toUid

def sentTo (uid : Int) (message : MessageRow) : Bool :=
  message.receiverId = uid

def getSessionMessage (store : Store) (fromUid toUid lastMessageId pullCount : Int) :
    Option (List MessageRow) :=
  messagesFrom store (sentBetween fromUid toUid) lastMessageId pullCount

def getUserMessage (store : Store) (uid lastMessageId pullCount : Int) : Option (List MessageRow) :=
  messagesFrom store (sentTo uid) lastMessageId pullCount

theorem mem_messagesFrom {rows : List MessageRow}
    (found : messagesFrom store selected lastMessageId pullCount = some rows)
    (member : message ∈ rows) : message ∈ store.messages ∧ selected message := by
  unfold messagesFrom at found
  dsimp only at found
  split at found
  · cases found
  split at found
  · cases found
  cases found
  obtain ⟨stored, conditions⟩ :=
    mem_filter.mp (mem_mergeSort.mp (mem_of_mem_take member))
  exact ⟨stored, (of_decide_eq_true conditions).1⟩

theorem messagesFrom_eq_none (nothing : lastMessageId < 0 ∨ pullCount ≤ 0) :
    messagesFrom store selected lastMessageId pullCount = none := by
  unfold messagesFrom
  rcases nothing with negative | noRows
  · rw [if_pos negative]
  · have zero : pullCount.toNat = 0 := Int.toNat_of_nonpos noRows
    simp [zero]

theorem messagesFrom_congr {other : Store}
    (same : store.messages.filter selected = other.messages.filter selected)
    (lastMessageId pullCount : Int) :
    messagesFrom store selected lastMessageId pullCount =
      messagesFrom other selected lastMessageId pullCount := by
  have narrowed : ∀ messages : List MessageRow,
      (messages.filter fun message => selected message ∧ lastMessageId ≤ message.messageId) =
        (messages.filter selected).filter fun message => lastMessageId ≤ message.messageId := by
    intro messages
    rw [List.filter_filter]
    refine filter_congr fun message _ => ?_
    rw [Bool.decide_and, Bool.decide_eq_true, Bool.and_comm]
  unfold messagesFrom
  rw [narrowed, narrowed, same]

theorem messagesFrom_singleton (only : store.messages = [message]) (holds : selected message)
    (read : ¬ (lastMessageId < 0 ∨ pullCount ≤ 0)) (reached : lastMessageId ≤ message.messageId) :
    messagesFrom store selected lastMessageId pullCount = some [message] := by
  obtain ⟨count, positive⟩ : ∃ count, pullCount.toNat = count + 1 := ⟨pullCount.toNat - 1, by omega⟩
  unfold messagesFrom
  rw [if_neg fun negative => read (.inl negative), only]
  simp [holds, reached, positive]

/-! ### The handlers -/

def MessageRow.syncItem (message : MessageRow) : ChatMessage where
  messageId := message.messageId
  fromUid := message.senderId
  toUid := message.receiverId
  conversationId := message.conversationId.getD 0
  conversationSeq := message.conversationSeq.getD 0
  clientMessageId := message.clientMessageId.getD ""
  type := message.type
  content := message.content
  status := message.status
  sendDateTime := message.sendDateTime
  readDateTime := message.readDateTime

def MessageRow.legacyItem (message : MessageRow) : ChatMessage where
  messageId := message.messageId
  type := message.type
  content := message.content
  status := message.status
  sendDateTime := message.sendDateTime
  readDateTime := message.readDateTime

def pullSessionMessages (store : Store) (request : PullRequest) : PullResponse :=
  match request.conversationId with
  | some conversationId =>
    let sync := syncConversation store request.uid conversationId (request.afterSeq.getD 0)
      (request.limit.getD 50)
    { error := sync.error
      conversationId := some conversationId
      latestSeq := some sync.latestSeq
      nextSeq := some sync.nextSeq
      hasMore := some sync.hasMore
      conversationType := sync.conversationType
      messageList :=
        if sync.error ≠ .success then [] else sync.messages.map MessageRow.syncItem }
  | none =>
    match getSessionMessage store request.fromUid request.toUid (toInt32 request.lastMsgId)
      (request.limit.getD 0) with
    | none => { error := .success }
    | some messages =>
      { error := .success
        uid := some request.toUid
        messageList := messages.map MessageRow.legacyItem }

def pullMessages (store : Store) (request : PullRequest) : PullResponse :=
  { error := .success
    uid := some request.uid
    messageList :=
      match getUserMessage store request.uid (toInt32 request.lastMsgId)
        (request.limit.getD 0) with
      | none => []
      | some messages => messages.map MessageRow.legacyItem }

inductive PullCommand where
  | pullSessionMessageListReq
  | pullMessageListReq
deriving DecidableEq, Repr

/-- The actor of the command is the user the Gateway has authenticated, whatever the packet
says. -/
def executeGatewayCommand (store : Store) (command : PullCommand) (actorUid : Int)
    (request : PullRequest) : PullResponse :=
  if actorUid ≤ 0 then
    { error := .authenticationRequired
      retryable := some (isRetryableError .authenticationRequired)
      message := "connection control command belongs to gateway" }
  else
    match command with
    | .pullSessionMessageListReq => pullSessionMessages store { request with uid := actorUid }
    | .pullMessageListReq => pullMessages store { request with uid := actorUid }

end Wimi.Server
