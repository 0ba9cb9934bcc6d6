/-
This file is about what the sync cursor promises: that the messages up to it are
stored, so that a page from the cursor on brings everything that was missed.

A page keeps the promise, for it has every message of its range. A push and the
response to a text move the cursor to their own number, whether or not the messages
before it are there, and so a push that was dropped before one that arrived is
never asked for again. If each of them comes only when nothing before it is
missing, the promise holds in every state of every run.
-/

import Wimi.Server.AcceptSound
import Wimi.Client.Sync

namespace Wimi.Client

open Function List Option Transition Server Controller SyncSystem

/-! ### The handlers of the client -/

section Handlers

variable {member : Server.MemberRow} {store : Server.Store} {client : Controller}

theorem ClientSound.handleGatewayPush (server : ServerSound member store)
    (sound : ClientSound member store client) {message : Server.MessageRow}
    (inStore : message ∈ store.messages)
    (gapFree : GapFree member store client (seqOf message)) (now : String) :
    Progress member store client (client.handleGatewayPush (pushPacket message) now) := by
  have own : ((pushPacket message).conversationId.getD 0) = member.conversationId := by
    simp [pushPacket, server.placed message inStore]
  have attached := sound.attach own
  obtain ⟨remote, equal⟩ := client.attachRemoteConversation_spec
    ((pushPacket message).conversationId.getD 0)
  unfold Controller.handleGatewayPush
  rw [equal] at attached ⊢
  dsimp only
  split
  · exact attached
  split
  · exact attached
  rename_i repository written
  obtain ⟨inserted, all, rfl⟩ := Repository.applyIncomingBatch_spec written
  obtain ⟨numbered, latest⟩ := server.numbered message inStore
  have cursor : (pushPacket message).conversationSeq.getD
      ({ client with remoteConversationId := remote } : Controller).syncCursor =
      seqOf message := by
    rw [show (pushPacket message).conversationSeq = message.conversationSeq from rfl, numbered]
    rfl
  rw [cursor]
  refine attached.trans (attached.sound.batch server ?_ all (le_max_of_le_left latest) ?_)
  · refine forall_mem_singleton.mpr ⟨message, inStore, rfl, rfl, rfl, rfl⟩
  intro other otherInStore visible above upTo
  rcases Nat.lt_or_eq_of_le upTo with before | same
  · exact .inl (gapFree other otherInStore visible above before)
  · cases server.uniqueSeq other otherInStore message inStore same
    exact .inr ⟨_, mem_singleton_self _, rfl, rfl, rfl, rfl⟩

structure PageSound (member : Server.MemberRow) (store : Server.Store) (afterSeq nextSeq : Nat)
    (response : Server.PullResponse) : Prop where
  conversation : response.conversationId = some (member.conversationId : Int)
  next : response.nextSeq = some nextSeq
  items : ∀ item ∈ response.messageList, ∃ message ∈ store.messages, item = message.syncItem
  complete : ∀ message ∈ store.messages, VisibleTo member message → afterSeq < seqOf message →
    seqOf message ≤ nextSeq → message.syncItem ∈ response.messageList
  bounded : nextSeq ≤
    max (store.latestSeq member.conversationId) (max afterSeq (member.joinedSeq - 1))

theorem incoming_pageRecord (server : ServerSound member store) {message : Server.MessageRow}
    (inStore : message ∈ store.messages) (uid : Nat) :
    Incoming (pageRecord uid message.syncItem) message where
  id := rfl
  seq := (server.numbered message inStore).1.symm
  key := rfl
  settled := by
    unfold isPending pageRecord
    cases message.syncItem.status <;> simp [stateOfStatus]

section

variable (server : ServerSound member store) (sound : ClientSound member store client)
  {response : Server.PullResponse}
include server sound

theorem ClientSound.storePage {afterSeq nextSeq : Nat}
    (page : PageSound member store afterSeq nextSeq response)
    (behind : afterSeq ≤ client.syncCursor) :
    Progress member store client (client.storePage response) := by
  obtain ⟨inserted, all, stored, equal, result⟩ :=
    storePage_spec client response sound.known
  rw [page.next, getD_some] at equal
  have incoming : ∀ record ∈ client.additions response.messageList,
      ∃ message ∈ store.messages, Incoming record message := by
    intro record added
    obtain ⟨item, inPage, rfl⟩ := mem_map.mp added
    obtain ⟨message, inStore, rfl⟩ := page.items item (mem_filter.mp inPage).1
    exact ⟨message, inStore, incoming_pageRecord server inStore _⟩
  have covered : ∀ message ∈ store.messages, VisibleTo member message →
      client.syncCursor < seqOf message → seqOf message ≤ nextSeq → Stored client message ∨
        ∃ record ∈ client.additions response.messageList, Incoming record message := by
    intro message inStore visible above upTo
    have listed := page.complete message inStore visible (behind.trans_lt above) upTo
    by_cases inMemory : client.messages.any fun record =>
        record.messageId = some message.syncItem.messageId
    · obtain ⟨record, found, same⟩ := any_eq_true.mp inMemory
      exact .inl (sound.stored_of_memory found (of_decide_eq_true same))
    refine .inr ⟨_, mem_map.mpr ⟨message.syncItem, ?_, rfl⟩,
      incoming_pageRecord server inStore _⟩
    exact mem_filter.mpr ⟨listed, decide_eq_true inMemory⟩
  have bounded : nextSeq ≤ max (store.latestSeq member.conversationId) (member.joinedSeq - 1) := by
    refine page.bounded.trans (max_le (le_max_left _ _) (max_le ?_ (le_max_right _ _)))
    exact behind.trans sound.bounded
  have batch := sound.batch server incoming all bounded covered
  rw [← equal] at batch
  rcases result with same | ⟨next, isNext, same⟩
  · rw [same]
    exact batch
  rw [same, page.conversation]
  refine batch.trans (batch.sound.pull ?_)
  cases page.next.symm.trans isNext
  rw [equal]
  unfold syncCursor
  rw [Repository.syncCursor_replaceCursor]
  exact le_max_right _ _

theorem ClientSound.handlePullResponse
    (page : response.error = .success → ∃ afterSeq nextSeq, afterSeq ≤ client.syncCursor ∧
      PageSound member store afterSeq nextSeq response) (requestId : Nat) :
    Progress member store client (client.handlePullResponse requestId response) := by
  have taken : Progress member store client { client with
      syncRequestConversations :=
        update client.syncRequestConversations requestId false } :=
    progress_of_tables (sound.setWaiting sound.waiting) rfl rfl fun _ => id
  unfold Controller.handlePullResponse
  split
  · exact taken
  rename_i conditions
  obtain ⟨afterSeq, nextSeq, behind, pageSound⟩ :=
    page (not_not.mp fun failed => conditions (.inr failed))
  rw [pageSound.conversation]
  have attached := taken.trans (taken.sound.attach rfl)
  exact attached.trans (attached.sound.storePage server pageSound
    (behind.trans attached.cursor))

end

structure TextSound (member : Server.MemberRow) (store : Server.Store)
    (written : List ClientRequest) (requestId : Nat) (response : SendResponse)
    (clientMessageId : Int) (message : Server.MessageRow) : Prop where
  request : ∃ wire body, ⟨requestId, .sendText clientMessageId wire body⟩ ∈ written
  inStore : message ∈ store.messages
  own : sentAs member.uid (wireClientMessageId member.uid clientMessageId) message
  id : response.messageId = some message.messageId
  conversation : response.conversationId = some (member.conversationId : Int)
  seq : response.conversationSeq = some (seqOf message)

theorem recordSound_acceptRecord {rows : List StoredMessage} {clientMessageId : Int}
    {messageId conversationSeq : Nat}
    (found : ∃ row ∈ rows, row.record.messageId = some messageId)
    {messages : List MessageRecord} (memory : ∀ record ∈ messages, RecordSound rows record) :
    ∀ record ∈ messages.replaceF
      (acceptRecord clientMessageId messageId conversationSeq),
      RecordSound rows record := by
  refine Lists.forall_mem_replaceF memory fun record _ after replaced => ?_
  unfold acceptRecord at replaced
  split at replaced
  · cases replaced
    refine ⟨fun other same => ?_, fun pending => ?_⟩
    · cases same
      exact found
    · simp [isPending] at pending
  · cases replaced

def acceptRow (clientMessageId : Int) (message : Server.MessageRow) (row : StoredMessage) :
    StoredMessage :=
  if row.record.clientMessageId = clientMessageId then
    Repository.acceptedRow message.messageId (seqOf message) row
  else row

section Accept

variable {localConversationId : String} {row : StoredMessage} {clientMessageId : Int}
  {message : Server.MessageRow}

section

variable (server : ServerSound member store) (sound : RowSound member store localConversationId row)
  (negative : clientMessageId < 0) (inStore : message ∈ store.messages)
  (own : sentAs member.uid (wireClientMessageId member.uid clientMessageId) message)
include server sound negative inStore own

theorem RowSound.acceptRow :
    RowSound member store localConversationId (acceptRow clientMessageId message row) := by
  unfold Client.acceptRow
  split
  · rename_i same
    refine ⟨sound.conversation, .inr ⟨message, inStore, rfl, ?_, .inr ?_⟩, fun _ => same ▸ negative⟩
    · exact (server.numbered message inStore).1.symm
    · exact ⟨same ▸ negative, same ▸ own⟩
  · exact sound

theorem RowSound.keeps_acceptRow : Keeps row (Client.acceptRow clientMessageId message row) := by
  unfold Client.acceptRow
  split
  · rename_i same
    refine ⟨rfl, fun messageId id => ?_⟩
    obtain unaccepted | ⟨other, otherInStore, carries⟩ := sound.source
    · exact nomatch unaccepted.id.symm.trans id
    rcases carries.key with ofServer | ⟨_, sent⟩
    · omega
    · cases server.uniqueOwn other otherInStore message inStore _ sent (same ▸ own)
      exact carries.id.symm.trans id
  · exact ⟨rfl, fun _ => id⟩

end

end Accept

/-- The ids of an accepted text are written, or are there already. -/
theorem ClientSound.accept (server : ServerSound member store)
    (sound : ClientSound member store client) {clientMessageId : Int}
    (negative : clientMessageId < 0)
    (row : ∃ row ∈ client.repository.messages, row.record.clientMessageId = clientMessageId)
    {message : Server.MessageRow} (inStore : message ∈ store.messages)
    (own : sentAs member.uid (wireClientMessageId member.uid clientMessageId) message)
    (gapFree : GapFree member store client (seqOf message)) :
    Progress member store client { client with
      messages := client.messages.replaceF
        (acceptRecord clientMessageId message.messageId (seqOf message))
      repository := (client.repository.acceptOutgoing clientMessageId message.messageId
        client.localConversationId (seqOf message)).getD client.repository } := by
  unfold Repository.acceptOutgoing
  split
  · rename_i violates
    obtain ⟨_, _, conditions⟩ := any_eq_true.mp violates
    obtain ⟨_, another⟩ := of_decide_eq_true conditions
    obtain ⟨other, stored, otherConditions⟩ := any_eq_true.mp another
    have found : other.record.messageId = some message.messageId :=
      (of_decide_eq_true otherConditions).2.elim id fun ⟨_, seq⟩ =>
        (sound.rows other stored).id_of_seq server inStore seq
    exact sound.write rfl sound.rows
      (recordSound_acceptRecord ⟨other, stored, found⟩ sound.memory)
      (keeps_self _) le_rfl sound.bounded
      fun _ _ _ above upTo => absurd upTo (not_le.mpr above)
  have keeps : ∀ row ∈ client.repository.messages, ∃ kept ∈
      client.repository.messages.map (acceptRow clientMessageId message), Keeps row kept :=
    fun row stored => ⟨_, mem_map_of_mem stored,
      (sound.rows row stored).keeps_acceptRow server negative inStore own⟩
  have found : ∃ row ∈ client.repository.messages.map (acceptRow clientMessageId message),
      row.record.messageId = some message.messageId := by
    obtain ⟨row, stored, same⟩ := row
    refine ⟨_, mem_map_of_mem stored, ?_⟩
    rw [acceptRow, if_pos same]
    rfl
  have cursor := Repository.syncCursor_raiseCursor client.repository client.localConversationId
    (seqOf message)
  refine sound.write rfl ?_ (recordSound_acceptRecord found fun record inMemory =>
    (sound.memory record inMemory).of_keeps keeps) keeps ?_ ?_ ?_
  · intro row stored
    obtain ⟨old, oldStored, rfl⟩ := mem_map.mp stored
    exact (sound.rows old oldStored).acceptRow server negative inStore own
  · exact (le_max_left _ _).trans cursor.ge
  · exact cursor.le.trans (max_le sound.bounded
      (le_max_of_le_left (server.numbered message inStore).2))
  intro other otherInStore visible above upTo
  have upTo := (le_max_iff.mp (le_of_le_of_eq upTo cursor)).resolve_left (not_le.mpr above)
  rcases Nat.lt_or_eq_of_le upTo with before | same
  · obtain ⟨row, stored, _, id⟩ := gapFree other otherInStore visible above before
    obtain ⟨kept, keptStored, _, sameId⟩ := keeps row stored
    exact ⟨kept, keptStored, sameId _ id⟩
  · cases server.uniqueSeq other otherInStore message inStore same
    exact found

theorem ClientSound.handleSendResponse (server : ServerSound member store)
    (sound : ClientSound member store client) {requestId : Nat} {response : SendResponse}
    (text : response.errorCode = .success → ∃ clientMessageId message,
      TextSound member store client.written requestId response clientMessageId message)
    (gapFree : ∀ seq, response.conversationSeq = some seq → GapFree member store client seq) :
    Progress member store client (client.handleSendResponse requestId response) := by
  unfold Controller.handleSendResponse
  split
  · exact sound.progress_self
  rename_i clientMessageId waits
  obtain ⟨negative, row, wire, body, written⟩ := sound.waiting requestId clientMessageId waits
  have taken : Progress member store client { client with
      outgoingRequestMessages :=
        update client.outgoingRequestMessages requestId none } :=
    progress_of_tables (sound.takeWaiting requestId client.syncRequestConversations) rfl rfl
      fun _ => id
  dsimp only
  split
  · rename_i messageId conversationId conversationSeq success isId isConversation isSeq
    obtain ⟨sentId, message, textSound⟩ := text success
    obtain ⟨otherWire, otherBody, sent⟩ := textSound.request
    cases sound.once _ written _ sent rfl
    cases textSound.id.symm.trans isId
    cases textSound.conversation.symm.trans isConversation
    cases textSound.seq.symm.trans isSeq
    split
    · have accepted := taken.trans (taken.sound.accept server negative row textSound.inStore
        textSound.own (gapFree _ textSound.seq))
      exact accepted.trans (accepted.sound.attach rfl)
    · exact taken
  · exact taken.trans (taken.sound.updateMessageState negative _)

section

variable (sound : ClientSound member store client)
include sound

theorem ClientSound.handleGatewayFailure (requestId : Nat) (errorCode : ErrorCode)
    (outcomeUnknown : Bool) : Progress member store client
      (client.handleGatewayFailure requestId errorCode outcomeUnknown) := by
  have dropped : Progress member store client { client with
      outgoingRequestMessages := update client.outgoingRequestMessages requestId none
      syncRequestConversations :=
        update client.syncRequestConversations requestId false } :=
    progress_of_tables (sound.takeWaiting requestId _) rfl rfl fun _ => id
  unfold Controller.handleGatewayFailure
  split
  · exact dropped
  rename_i clientMessageId waits
  obtain ⟨negative, _⟩ := sound.waiting requestId clientMessageId waits
  exact dropped.trans (dropped.sound.updateMessageState negative _)

theorem ClientSound.enqueue {message : MessageRecord} (unaccepted : Unaccepted message)
    {repository : Repository}
    (written : client.repository.enqueueOutgoing client.localConversationId message =
      some repository) :
    Progress member store client { client with
      repository, messages := client.messages ++ [message] } ∧
    ∃ row ∈ repository.messages, row.record.clientMessageId = message.clientMessageId := by
  obtain ⟨outbox, rfl⟩ := Repository.enqueueOutgoing_spec written
  have keeps := keeps_append client.repository.messages [⟨client.localConversationId, message⟩]
  have found : ∃ row ∈ client.repository.messages ++ [⟨client.localConversationId, message⟩],
      row.record.clientMessageId = message.clientMessageId :=
    ⟨_, mem_append_right _ (mem_singleton_self _), rfl⟩
  refine ⟨sound.write rfl (forall_mem_append.mpr ⟨sound.rows, ?_⟩)
    (forall_mem_append.mpr ⟨fun record inMemory => ?_, ?_⟩) keeps le_rfl sound.bounded
    fun _ _ _ above upTo => absurd upTo (not_le.mpr above), found⟩
  · exact forall_mem_singleton.mpr ⟨rfl, .inl unaccepted, fun _ => unaccepted.key⟩
  · exact (sound.memory record inMemory).of_keeps keeps
  refine forall_mem_singleton.mpr ⟨fun messageId same => ?_, fun _ => ?_⟩
  · exact nomatch unaccepted.id.symm.trans same
  · exact ⟨unaccepted.key, found⟩

theorem ClientSound.sendMessage (body timestamp : String) (ready : Bool) :
    Progress member store client (client.sendMessage body timestamp ready) := by
  unfold Controller.sendMessage
  split
  · exact sound.progress_self
  dsimp only
  have negative := sound.negative
  have drawn : Progress member store client
      { client with nextClientMessageId := client.nextClientMessageId - 1 } := by
    refine progress_of_tables { sound with negative := ?_ } rfl rfl fun _ => id
    show client.nextClientMessageId - 1 < 0
    omega
  split
  · refine drawn.trans (drawn.sound.write rfl sound.rows (forall_mem_append.mpr
      ⟨sound.memory, forall_mem_singleton.mpr ⟨nofun, fun pending => ?_⟩⟩) (keeps_self _)
      le_rfl sound.bounded fun _ _ _ above upTo => absurd upTo (not_le.mpr above))
    simp [Controller.isPending] at pending
  rename_i repository written
  obtain ⟨enqueued, row⟩ := drawn.sound.enqueue ⟨rfl, rfl, negative⟩ written
  have stored := drawn.trans enqueued
  split
  · have waiting := stored.trans (stored.sound.updateMessageState negative .waitingAccept)
    obtain ⟨old, oldStored, same⟩ := row
    obtain ⟨kept, keptStored, sameKey⟩ :=
      (stored.sound.updateMessageState negative .waitingAccept).keys old oldStored
    exact waiting.trans (waiting.sound.sendText negative
      ⟨kept, keptStored, sameKey.trans same⟩ body)
  · exact stored.trans (stored.sound.updateMessageState negative .unknown)

theorem ClientSound.resume {message : MessageRecord}
    (own : Controller.isPending message → message.clientMessageId < 0 ∧
      ∃ row ∈ client.repository.messages, row.record.clientMessageId = message.clientMessageId) :
    Progress member store client (client.resume message) := by
  unfold Controller.resume
  split
  · rename_i pending
    obtain ⟨negative, row, stored, same⟩ := own pending
    have waiting : Progress member store client
        (if message.deliveryState ≠ .waitingAccept then
          client.updateMessageState message.clientMessageId .waitingAccept
        else client) := by
      split
      · exact sound.updateMessageState negative _
      · exact sound.progress_self
    obtain ⟨kept, keptStored, sameKey⟩ := waiting.keys row stored
    exact waiting.trans
      (waiting.sound.sendText negative ⟨kept, keptStored, sameKey.trans same⟩ _)
  · exact sound.progress_self

theorem ClientSound.authenticated : Progress member store client client.authenticated := by
  have synced : Progress member store client client.syncKnownConversations := by
    unfold Controller.syncKnownConversations
    split
    · exact sound.progress_self
    rename_i conversationId remote
    rw [sound.remote conversationId remote]
    exact sound.pull le_rfl
  have loop : ∀ (messages : List MessageRecord) (start : Controller),
      ClientSound member store start →
      (∀ message ∈ messages, Controller.isPending message → message.clientMessageId < 0 ∧
        ∃ row ∈ start.repository.messages,
          row.record.clientMessageId = message.clientMessageId) →
      Progress member store start (messages.foldl Controller.resume start) := by
    intro messages
    induction messages with
    | nil => exact fun _ startSound _ => startSound.progress_self
    | cons message rest inductionHypothesis =>
      intro start startSound own
      obtain ⟨first, later⟩ := forall_mem_cons.mp own
      have turn := startSound.resume first
      refine turn.trans (inductionHypothesis _ turn.sound fun other inRest pending => ?_)
      obtain ⟨negative, row, stored, same⟩ := later other inRest pending
      obtain ⟨kept, keptStored, sameKey⟩ := turn.keys row stored
      exact ⟨negative, kept, keptStored, sameKey.trans same⟩
  exact synced.trans (loop _ _ synced.sound fun message inMemory =>
    (synced.sound.memory message inMemory).own)

end

theorem foldl_min_le (messages : List MessageRecord) (start : Int) :
    messages.foldl (fun next message => min next (message.clientMessageId - 1)) start ≤ start := by
  induction messages generalizing start with
  | nil => exact le_rfl
  | cons message rest inductionHypothesis =>
    exact (inductionHypothesis _).trans (min_le_left _ _)

theorem ClientSound.restart (sound : ClientSound member store client) :
    Progress member store client client.restart := by
  refine progress_of_tables { sound with memory := ?_, negative := ?_, waiting := nofun } rfl rfl
    fun _ => id
  · intro record loaded
    obtain ⟨row, selected, rfl⟩ := mem_map.mp loaded
    have stored := (mem_filter.mp selected).1
    exact ⟨fun _ same => ⟨row, stored, same⟩, fun pending =>
      ⟨(sound.rows row stored).own pending, row, stored, rfl⟩⟩
  · exact (foldl_min_le _ _).trans_lt (by decide)

end Handlers

/-! ### The server -/

section Server

variable {member : Server.MemberRow} {store : Server.Store} {client : Controller}

structure IsNext (member : Server.MemberRow) (store : Server.Store) (row : Server.MessageRow) :
    Prop where
  id : row.messageId = store.autoIncrement
  conversation : row.conversationId = some member.conversationId
  seq : row.conversationSeq = some (store.latestSeq member.conversationId + 1)
  fresh : ∀ clientMessageId, sentAs member.uid clientMessageId row →
    ∀ other ∈ store.messages, ¬ sentAs member.uid clientMessageId other

variable {row : Server.MessageRow}

theorem IsNext.seqOf_eq (next : IsNext member store row) :
    seqOf row = store.latestSeq member.conversationId + 1 := by
  unfold seqOf
  rw [next.seq, getD_some]

theorem latestSeq_append (server : ServerSound member store) (row : Server.MessageRow) :
    (append store member.conversationId row).latestSeq member.conversationId =
      store.latestSeq member.conversationId + 1 :=
  latestSeqIn_update_self _ (isSome_iff_exists.mpr server.conversation)

/-- The step is what a commit of the accept transaction does to the messages and the counters,
for a conversation that is there. -/
theorem append_of_effect {collate : String → String} {committed : Server.Store}
    {conversationId : Nat} (effect : Server.Effect collate store committed (some row))
    (placed : row.conversationId = some conversationId)
    (present : ∃ conversation, store.conversation conversationId = some conversation) :
    row.conversationSeq = some (store.latestSeq conversationId + 1) ∧
      (append store conversationId row).messages = committed.messages ∧
      (append store conversationId row).latestSeq = committed.latestSeq := by
  cases effect with
  | appended _ own conversation sequence messages latestSeq _ =>
    cases placed.symm.trans conversation
    refine ⟨sequence, messages.symm, latestSeq.trans ?_ |>.symm⟩
    funext other
    rw [update_apply]
    split
    · rename_i same
      rw [same]
      exact (latestSeqIn_update_self _ (isSome_iff_exists.mpr present)).symm
    rename_i different
    exact (latestSeqIn_update_of_ne store.conversations
      (some (store.latestSeq conversationId + 1)) different).symm

theorem unique_append {Key : Type} {rows : List Server.MessageRow}
    (has : Server.MessageRow → Key → Prop)
    (unique : ∀ first ∈ rows, ∀ second ∈ rows, ∀ key, has first key → has second key →
      first = second) (fresh : ∀ key, has row key → ∀ other ∈ rows, ¬ has other key) :
    ∀ first ∈ rows ++ [row], ∀ second ∈ rows ++ [row], ∀ key, has first key → has second key →
      first = second := by
  intro first firstMember second secondMember key firstHas secondHas
  rcases mem_append.mp firstMember with old | new <;>
    rcases mem_append.mp secondMember with old' | new'
  · exact unique first old second old' key firstHas secondHas
  · grind
  · grind
  · rw [mem_singleton.mp new, mem_singleton.mp new']

section

variable (server : ServerSound member store)
include server

theorem ServerSound.append (next : IsNext member store row) :
    ServerSound member (append store member.conversationId row) where
  conversation := by
    obtain ⟨old, found⟩ := server.conversation
    have updated := find?_updateLatestSeq store.conversations member.conversationId
      (store.latestSeq member.conversationId + 1) member.conversationId
    exact ⟨_, updated.trans (congrArg (Option.map _) found)⟩
  membership := by
    rw [show (Client.append store member.conversationId row).conversationMembers =
      store.conversationMembers ++ [] from rfl, append_nil]
    exact server.membership
  placed := forall_mem_append.mpr
    ⟨server.placed, forall_mem_singleton.mpr next.conversation⟩
  numbered := by
    rw [latestSeq_append server row]
    refine forall_mem_append.mpr ⟨fun message inStore => ?_, ?_⟩
    · exact (server.numbered message inStore).imp_right Nat.le_succ_of_le
    · refine forall_mem_singleton.mpr ⟨?_, next.seqOf_eq.le⟩
      rw [next.seqOf_eq, next.seq]
  identified := by
    refine forall_mem_append.mpr ⟨fun message inStore => ?_, ?_⟩
    · exact Nat.lt_succ_of_lt (server.identified message inStore)
    · exact forall_mem_singleton.mpr (next.id ▸ Nat.lt_succ_self _)
  uniqueId first firstMember second secondMember same := by
    refine unique_append (fun message id => message.messageId = id) ?_ ?_ first firstMember second
      secondMember _ rfl same.symm
    · exact fun first old second old' _ firstId secondId =>
        server.uniqueId first old second old' (firstId.trans secondId.symm)
    · rintro _ rfl other inStore equal
      exact absurd (server.identified other inStore) (not_lt.mpr (next.id ▸ equal.ge))
  uniqueSeq first firstMember second secondMember same := by
    refine unique_append (fun message seq => seqOf message = seq) ?_ ?_ first firstMember second
      secondMember _ rfl same.symm
    · exact fun first old second old' _ firstSeq secondSeq =>
        server.uniqueSeq first old second old' (firstSeq.trans secondSeq.symm)
    rintro _ rfl other inStore equal
    have latest := (server.numbered other inStore).2
    rw [equal, next.seqOf_eq] at latest
    exact absurd latest (Nat.not_succ_le_self _)
  uniqueOwn := unique_append (fun message clientMessageId =>
    sentAs member.uid clientMessageId message) server.uniqueOwn next.fresh

theorem ServerSound.membership_eq :
    ∃ conversation, store.membership member.uid member.conversationId =
        some (conversation, member) ∧
      conversation.latestSeq = store.latestSeq member.conversationId := by
  obtain ⟨conversation, found⟩ := server.conversation
  refine ⟨conversation, ?_, (Server.Store.latestSeq_of_conversation found).symm⟩
  unfold Server.Store.membership
  rw [found, server.membership]

theorem inRange_of_visibleTo {conversation : Server.ConversationRow}
    (latest : conversation.latestSeq = store.latestSeq member.conversationId)
    {message : Server.MessageRow} (inStore : message ∈ store.messages)
    (visible : VisibleTo member message) {afterSeq : Nat} (above : afterSeq < seqOf message) :
    inRange member.conversationId (max afterSeq (member.joinedSeq - 1))
      (lastVisible conversation member) message := by
  obtain ⟨joined, left⟩ := visible
  refine decide_eq_true ⟨server.placed message inStore, ?_, ?_⟩
  · show max afterSeq (member.joinedSeq - 1) < seqOf message
    omega
  unfold lastVisible
  cases leaves : member.leftSeq with
  | none =>
    rw [latest]
    exact (server.numbered message inStore).2
  | some last => exact left last leaves

theorem pageSound_of_success (afterSeq : Nat) (limit : Int)
    (success : (executeGatewayCommand store .pullSessionMessageListReq member.uid
      { conversationId := some (member.conversationId : Int), afterSeq := some (afterSeq : Int),
        limit := some limit }).error = .success) :
    ∃ nextSeq, PageSound member store afterSeq nextSeq
      (executeGatewayCommand store .pullSessionMessageListReq member.uid
        { conversationId := some (member.conversationId : Int), afterSeq := some (afterSeq : Int),
          limit := some limit }) := by
  unfold executeGatewayCommand at success ⊢
  split at success
  · cases success
  rename_i positive
  rw [if_neg positive]
  simp only [pullSessionMessages] at success ⊢
  rw [if_neg (not_not.mpr success)]
  obtain ⟨conversation, membership, found, complete, ends⟩ :=
    syncConversation_complete success server.uniqueSeq
  obtain ⟨own, ownFound, latest⟩ := server.membership_eq
  cases ownFound.symm.trans found
  refine ⟨_, rfl, rfl, fun item inPage => ?_, fun message inStore visible above upTo => ?_, ?_⟩
  · obtain ⟨message, listed, rfl⟩ := mem_map.mp inPage
    exact ⟨message, (mem_syncConversation listed).1, rfl⟩
  · exact mem_map_of_mem (complete message inStore
      (inRange_of_visibleTo server latest inStore visible above) upTo)
  rcases ends with start | ⟨message, inStore, _, last⟩
  · exact le_max_of_le_right start.le
  have bound := (server.numbered message inStore).2
  rw [seqOf, last] at bound
  exact le_max_of_le_left bound

end

end Server

/-! ### Every run -/

def ResponseSound (member : Server.MemberRow) (store : Server.Store) (client : Controller) :
    ServerResponse → Prop
  | .page _ response =>
    response.error = .success → ∃ afterSeq nextSeq, afterSeq ≤ client.syncCursor ∧
      PageSound member store afterSeq nextSeq response
  | .text requestId response =>
    response.errorCode = .success → ∃ clientMessageId message,
      TextSound member store client.written requestId response clientMessageId message

structure SyncSound (member : Server.MemberRow) (system : SyncSystem) : Prop where
  server : ServerSound member system.store
  client : ClientSound member system.store system.client
  responses : ∀ response ∈ system.responses,
    ResponseSound member system.store system.client response
  repaired : Repaired member system

section Run

variable {member : Server.MemberRow} {system : SyncSystem}

section

variable (sound : SyncSound member system)
include sound

/-- The rule for a step of the client. -/
theorem SyncSound.of_progress {after : Controller}
    (progress : Progress member system.store system.client after) :
    SyncSound member { system with client := after } where
  server := sound.server
  client := progress.sound
  responses response inFlight := by
    have before := sound.responses response inFlight
    cases response with
    | page requestId response =>
      intro success
      obtain ⟨afterSeq, nextSeq, behind, page⟩ := before success
      exact ⟨afterSeq, nextSeq, behind.trans progress.cursor, page⟩
    | text requestId response =>
      intro success
      obtain ⟨clientMessageId, message, text⟩ := before success
      obtain ⟨wire, body, written⟩ := text.request
      exact ⟨clientMessageId, message, { text with
        request := ⟨wire, body, progress.written _ written⟩ }⟩
  repaired message inStore visible upTo := by
    rcases le_or_gt (seqOf message) system.client.syncCursor with early | late
    · exact progress.stored message inStore (sound.repaired message inStore visible early)
    · exact progress.passed message inStore visible late upTo

/-- The rule for a message that is accepted. It is the only one with its number, and the cursor
is not there yet unless the user cannot see it. -/
theorem SyncSound.append {row : Server.MessageRow} (next : IsNext member system.store row) :
    SyncSound member
      { system with store := append system.store member.conversationId row } := by
  have latest := latestSeq_append sound.server row
  have older : ∀ message ∈ system.store.messages,
      message ∈ (Client.append system.store member.conversationId row).messages :=
    fun message inStore => mem_append_left _ inStore
  have seq := next.seqOf_eq
  refine ⟨sound.server.append next, { sound.client with rows := ?_, bounded := ?_ }, ?_, ?_⟩
  · intro stored inTable
    have before := sound.client.rows stored inTable
    exact { before with source := before.source.imp_right fun ⟨message, inStore, carries⟩ =>
      ⟨message, older message inStore, carries⟩ }
  · rw [latest]
    exact sound.client.bounded.trans (max_le_max_right _ (Nat.le_succ _))
  · intro response inFlight
    have before := sound.responses response inFlight
    cases response with
    | page requestId response =>
      intro success
      obtain ⟨afterSeq, nextSeq, behind, page⟩ := before success
      refine ⟨afterSeq, nextSeq, behind, page.conversation, page.next, fun item listed => ?_, ?_,
        ?_⟩
      · obtain ⟨message, inStore, same⟩ := page.items item listed
        exact ⟨message, older message inStore, same⟩
      · refine forall_mem_append.mpr ⟨page.complete, forall_mem_singleton.mpr ?_⟩
        intro visible above upTo
        have bounded := page.bounded
        have joined := visible.1
        omega
      show nextSeq ≤ _
      rw [latest]
      exact page.bounded.trans (max_le_max_right _ (Nat.le_succ _))
    | text requestId response =>
      intro success
      obtain ⟨clientMessageId, message, text⟩ := before success
      exact ⟨clientMessageId, message, { text with inStore := older message text.inStore }⟩
  refine forall_mem_append.mpr ⟨sound.repaired, forall_mem_singleton.mpr ?_⟩
  intro visible upTo
  have bounded := sound.client.bounded
  have joined := visible.1
  have upTo : seqOf row ≤ system.client.syncCursor := upTo
  omega

theorem SyncSound.respond {response : ServerResponse}
    (responseSound : ResponseSound member system.store system.client response) :
    SyncSound member (system.respond response) :=
  { sound with
    responses := forall_mem_append.mpr
      ⟨sound.responses, forall_mem_singleton.mpr responseSound⟩ }

theorem SyncSound.serve {request : ClientRequest} (written : request ∈ system.client.written)
    (receiverId : Nat) (sendDateTime : String) :
    SyncSound member (system.serve member receiverId sendDateTime request) := by
  obtain ⟨requestId, body⟩ := request
  have bodySound := sound.client.bodies _ written
  unfold SyncSystem.serve
  cases body with
  | pullConversation conversationId afterSeq limit =>
    obtain ⟨rfl, behind⟩ := bodySound
    refine sound.respond fun success => ?_
    obtain ⟨nextSeq, page⟩ := pageSound_of_success sound.server afterSeq limit success
    exact ⟨afterSeq, nextSeq, behind, page⟩
  | sendText clientMessageId wire text =>
    cases (show wire = wireClientMessageId member.uid clientMessageId from bodySound)
    dsimp only
    split
    · rename_i row found
      refine sound.respond fun success => ?_
      have inStore := mem_of_find?_eq_some found
      have own := find?_some found
      split at success
      · rename_i same
        rw [if_pos same]
        refine ⟨clientMessageId, row, ⟨_, _, written⟩, inStore, own, rfl, ?_, ?_⟩
        · simp [acceptedResponse, sound.server.placed row inStore]
        · exact (sound.server.numbered row inStore).1
      · cases success
    rename_i absent
    have next : IsNext member system.store (nextRow system.store member.conversationId member.uid
        receiverId (wireClientMessageId member.uid clientMessageId) text sendDateTime) := by
      refine ⟨rfl, rfl, rfl, fun sent own other inStore otherOwn => ?_⟩
      have same : wireClientMessageId member.uid clientMessageId = sent :=
        some.inj (of_decide_eq_true own).2
      exact find?_eq_none.mp absent other inStore (same ▸ otherOwn)
    refine (sound.append next).respond fun _ => ?_
    exact ⟨clientMessageId, _, ⟨_, _, written⟩,
      mem_append_right _ (mem_singleton_self _), decide_eq_true ⟨rfl, rfl⟩, rfl, rfl, rfl⟩

theorem SyncSound.refuse (request : ClientRequest) {errorCode : ErrorCode}
    (failed : errorCode ≠ .success) (retryable : Bool) :
    SyncSound member (system.respond (refusal request errorCode retryable)) := by
  obtain ⟨requestId, body⟩ := request
  cases body with
  | pullConversation conversationId afterSeq limit =>
    exact sound.respond fun success => absurd success failed
  | sendText clientMessageId wire text => exact sound.respond fun success => absurd success failed

theorem SyncSound.deliver {response : ServerResponse} (inFlight : response ∈ system.responses)
    (gapFree : ∀ requestId text seq, response = .text requestId text →
      text.conversationSeq = some seq → GapFree member system.store system.client seq) :
    SyncSound member { system with client := system.client.receive response } := by
  have responseSound := sound.responses response inFlight
  cases response with
  | page requestId page =>
    exact sound.of_progress
      (sound.client.handlePullResponse sound.server responseSound requestId)
  | text requestId text =>
    exact sound.of_progress (sound.client.handleSendResponse sound.server responseSound
      fun seq => gapFree requestId text seq rfl)

end

theorem syncSound_step (member : Server.MemberRow) {system next : SyncSystem}
    {action : SyncAction} (sound : SyncSound member system)
    (contiguous : Contiguous member system action)
    (taken : syncStep member system action = some next) : SyncSound member next := by
  cases action with
  | arrive senderId receiverId clientMessageId content sendDateTime =>
    simp only [syncStep] at taken
    split at taken
    · cases taken
    rename_i another
    cases taken
    refine sound.append ⟨rfl, rfl, rfl, fun _ own => ?_⟩
    exact absurd (of_decide_eq_true own).1 another
  | serve index receiverId sendDateTime =>
    obtain ⟨request, found, rfl⟩ := map_eq_some_iff.mp taken
    exact sound.serve (mem_of_getElem? found) receiverId sendDateTime
  | refuse index errorCode retryable =>
    simp only [syncStep] at taken
    split at taken
    · cases taken
    rename_i failed
    obtain ⟨request, _, rfl⟩ := map_eq_some_iff.mp taken
    exact sound.refuse request failed retryable
  | deliver index =>
    obtain ⟨response, found, rfl⟩ := map_eq_some_iff.mp taken
    refine sound.deliver (mem_of_getElem? found) ?_
    rintro requestId text seq rfl isSeq
    exact contiguous requestId text seq found isSeq
  | push index now =>
    obtain ⟨row, found, rfl⟩ := map_eq_some_iff.mp taken
    have inStore := (mem_filter.mp (mem_of_getElem? found)).1
    exact sound.of_progress
      (sound.client.handleGatewayPush sound.server inStore (contiguous row found) now)
  | send body timestamp ready =>
    cases taken
    exact sound.of_progress (sound.client.sendMessage body timestamp ready)
  | login =>
    cases taken
    exact sound.of_progress sound.client.authenticated
  | fail requestId errorCode outcomeUnknown =>
    cases taken
    exact sound.of_progress
      (sound.client.handleGatewayFailure requestId errorCode outcomeUnknown)
  | restart =>
    cases taken
    exact sound.of_progress sound.client.restart

theorem serverSound_initial (member : Server.MemberRow) (type : Server.ConversationType)
    (businessId : Nat) (localConversationId : String) :
    ServerSound member
      (initial member type businessId localConversationId).store where
  conversation := ⟨_, find?_cons_of_pos (decide_eq_true rfl)⟩
  membership := find?_cons_of_pos (decide_eq_true ⟨rfl, rfl⟩)
  placed := forall_mem_nil _
  numbered := forall_mem_nil _
  identified := forall_mem_nil _
  uniqueId := forall_mem_nil _
  uniqueSeq := forall_mem_nil _
  uniqueOwn := forall_mem_nil _

theorem clientSound_initial (member : Server.MemberRow) (type : Server.ConversationType)
    (businessId : Nat) (localConversationId : String) :
    ClientSound member (initial member type businessId localConversationId).store
      (initial member type businessId localConversationId).client where
  uid := rfl
  known := mem_singleton_self _
  rows := forall_mem_nil _
  memory := forall_mem_nil _
  remote _ known := nomatch known
  negative := show (-1000 : Int) < 0 by decide
  drawn := forall_mem_nil _
  once := forall_mem_nil _
  bodies := forall_mem_nil _
  waiting _ _ waits := nomatch waits
  bounded := Nat.zero_le _

end Run

/-- In every run in which no push and no response to a text comes over a gap, everything the
user can see up to the cursor is stored. -/
theorem cursor_covers_in_contiguous_run (member : Server.MemberRow)
    (type : Server.ConversationType) (businessId : Nat) (localConversationId : String)
    {actions : List SyncAction} {final : SyncSystem}
    (contiguous : Along (syncStep member) (Contiguous member)
      (initial member type businessId localConversationId) actions)
    (reached : run (syncStep member)
      (initial member type businessId localConversationId) actions = some final) :
    Repaired member final := by
  have start : SyncSound member
      (initial member type businessId localConversationId) :=
    ⟨serverSound_initial member type businessId localConversationId,
      clientSound_initial member type businessId localConversationId,
      forall_mem_nil _, forall_mem_nil _⟩
  exact (run_invariant_along (SyncSound member) (Contiguous member)
    (fun _ _ _ sound met taken => syncSound_step member sound met taken) start contiguous
    reached).repaired

/-! ### A push that is missed -/

def reader : Server.MemberRow where
  conversationId := 5
  uid := 1

def readerAfter (actions : List SyncAction) : SyncSystem :=
  (run (syncStep reader) (initial reader .direct 5 "direct:2") actions).getD
    (initial reader .direct 5 "direct:2")

theorem run_readerAfter {actions : List SyncAction}
    (enabled : (run (syncStep reader)
      (initial reader .direct 5 "direct:2") actions).isSome) :
    run (syncStep reader) (initial reader .direct 5 "direct:2") actions =
      some (readerAfter actions) := by
  obtain ⟨final, taken⟩ := isSome_iff_exists.mp enabled
  rw [readerAfter, taken, getD_some]

def repairedRun : List SyncAction :=
  [.arrive 2 1 "2:1000" "first" "10:00", .push 0 "10:00", .arrive 2 1 "2:1001" "second" "10:01",
   .login, .serve 0 2 "", .deliver 0]

theorem contiguous_repairedRun : Along (syncStep reader) (Contiguous reader)
    (initial reader .direct 5 "direct:2") repairedRun := by
  refine along_cons trivial rfl (along_cons ?_ rfl
    (along_cons trivial rfl (along_cons trivial rfl
      (along_cons trivial rfl (along_cons ?_ rfl trivial)))))
  · rintro row found message inStore _ above before
    cases found
    exact absurd before (Nat.not_lt.mpr above)
  · rintro requestId response seq found
    cases found

theorem cursor_covers_in_contiguous_run_repaired :
    (readerAfter repairedRun).client.syncCursor = 2 ∧ Repaired reader (readerAfter repairedRun) :=
  ⟨by decide +kernel, cursor_covers_in_contiguous_run reader .direct 5 "direct:2"
    contiguous_repairedRun (run_readerAfter (by decide +kernel))⟩

def missedRun : List SyncAction :=
  [.arrive 2 1 "2:1000" "first" "10:00", .arrive 2 1 "2:1001" "second" "10:01", .push 1 "10:01",
   .login, .serve 0 2 "", .deliver 0]

/-- The cursor is at the second message, and the page after the login starts there: the first
message is never stored. -/
theorem dropped_push_is_not_repaired :
    run (syncStep reader) (initial reader .direct 5 "direct:2") missedRun =
        some (readerAfter missedRun) ∧
      (readerAfter missedRun).client.syncCursor = 2 ∧
      ((readerAfter missedRun).client.repository.messages.map fun row => row.record.messageId) =
        [some 2] ∧
      ¬ Repaired reader (readerAfter missedRun) := by
  refine ⟨run_readerAfter (by decide +kernel), by decide +kernel, by decide +kernel,
    fun repaired => ?_⟩
  obtain ⟨message, inStore, id, seq⟩ : ∃ message ∈ (readerAfter missedRun).store.messages,
      message.messageId = 1 ∧ seqOf message = 1 := by decide +kernel
  have upTo : seqOf message ≤ (readerAfter missedRun).client.syncCursor :=
    seq.le.trans (by decide +kernel)
  obtain ⟨row, stored, _, same⟩ := repaired message inStore ⟨seq.ge, nofun⟩ upTo
  have absent : ∀ row ∈ (readerAfter missedRun).client.repository.messages,
      row.record.messageId ≠ some 1 := by decide +kernel
  exact absent row stored (id ▸ same)

end Wimi.Client
