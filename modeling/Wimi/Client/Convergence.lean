/-
This file is about an outgoing message whose first accept response was lost. After
the next login the client asks for the page of the conversation and sends the
message again, and the page and the response arrive in either order.

The response first: the row of the message gets the server's id, and the page
finds it in memory. The page first: the page is stored under the server's id as a
row of its own, and the unique keys then refuse the update of the message's row.
So the message converges exactly in the first order.
-/

import Wimi.Client.Controller

namespace Wimi.Client

open Function List Repository

/-! ### A message waiting to be accepted -/

def acceptedOrLater (state : MessageDeliveryState) : Bool :=
  state = .accepted ∨ state = .delivered ∨ state = .read

/-- The message with this client id is stored once and waits in the outbox, not accepted; of
the server's message nothing is known here yet. -/
structure Pending (clientMessageId : Int) (messageId conversationSeq : Nat)
    (controller : Controller) : Prop where
  negative : clientMessageId < 0
  known : controller.localConversationId ∈ controller.repository.conversations
  oneRecord : (controller.messages.countP fun message =>
    message.clientMessageId = clientMessageId) = 1
  oneRow : (controller.repository.messages.countP fun row =>
    row.record.clientMessageId = clientMessageId) = 1
  waiting : ∀ row ∈ controller.repository.messages,
    row.record.clientMessageId = clientMessageId →
      row.conversationId = controller.localConversationId ∧
      ¬ acceptedOrLater row.record.deliveryState
  queued : clientMessageId ∈ controller.repository.outbox
  newRecord : ∀ message ∈ controller.messages, message.messageId ≠ some messageId
  newRow : ∀ row ∈ controller.repository.messages, row.record.messageId ≠ some messageId ∧
    row.record.clientMessageId ≠ messageId ∧
    ¬ (row.conversationId = controller.localConversationId ∧
      row.record.conversationSeq = some conversationSeq)

section Pending

variable {clientMessageId : Int} {messageId conversationSeq : Nat} {controller : Controller}

section

variable (pending : Pending clientMessageId messageId conversationSeq controller)
include pending

theorem Pending.updateMessageState (other : Int) : Pending clientMessageId messageId conversationSeq
      (controller.updateMessageState other .waitingAccept) := by
  unfold Controller.updateMessageState
  split
  · refine ⟨pending.negative, pending.known, ?_, ?_, ?_, pending.queued, ?_, ?_⟩
    · simp [Lists.countP_replaceF, pending.oneRecord]
    · dsimp only [updateDeliveryState]
      rw [countP_map, ← pending.oneRow]
      congr 1
      funext row
      dsimp only [comp]
      split <;> rfl
    · intro row member
      obtain ⟨old, stored, rfl⟩ := mem_map.mp member
      have before := pending.waiting old stored
      split
      · exact fun same => ⟨(before same).1, nofun⟩
      · exact before
    · refine Lists.forall_mem_replaceF pending.newRecord fun record member after replaced => ?_
      split at replaced
      · cases replaced
        exact pending.newRecord record member
      · cases replaced
    intro row member
    obtain ⟨old, stored, rfl⟩ := mem_map.mp member
    have before := pending.newRow old stored
    split
    · exact before
    · exact before
  · exact pending

theorem Pending.authenticated :
    Pending clientMessageId messageId conversationSeq controller.authenticated :=
  Controller.authenticated_rule (fun _ _ _ _ _ pending => { pending with })
    (fun _ pending => pending.updateMessageState _) pending

end

end Pending

/-! ### The two events -/

inductive Order where
  | acceptFirst
  | pageFirst
deriving DecidableEq, Repr

/-- The client handles the accept response and the page in the given order. -/
def Controller.handle (controller : Controller) (order : Order) (sendId : Nat)
    (accepted : SendResponse) (pullId : Nat) (page : Server.PullResponse) : Controller :=
  match order with
  | .acceptFirst => (controller.handleSendResponse sendId accepted).handlePullResponse pullId page
  | .pageFirst => (controller.handlePullResponse pullId page).handleSendResponse sendId accepted

open Controller

/-- The message is the server's, once: one row with the id, the message's own row accepted,
nothing of it in the outbox, and one record of it in memory. -/
structure Converged (clientMessageId : Int) (messageId : Nat) (controller : Controller) :
    Prop where
  oneRow : (controller.repository.messages.countP fun row =>
    row.record.messageId = some messageId) = 1
  accepted : ∃ row ∈ controller.repository.messages,
    row.record.clientMessageId = clientMessageId ∧ acceptedOrLater row.record.deliveryState
  sent : clientMessageId ∉ controller.repository.outbox
  oneRecord : (controller.messages.countP fun message =>
    message.clientMessageId = clientMessageId ∨ message.messageId = some messageId) = 1

theorem handlePullResponse_result {controller : Controller} {pullId : Nat}
    {page : Server.PullResponse} (waits : controller.syncRequestConversations pullId = true)
    (success : page.error = .success)
    (known : controller.localConversationId ∈ controller.repository.conversations) :
    ∃ inserted, insertAll controller.localConversationId
        (controller.additions page.messageList) controller.repository = some inserted ∧
      (controller.handlePullResponse pullId page).repository.messages = inserted.messages ∧
      (controller.handlePullResponse pullId page).repository.outbox = inserted.outbox ∧
      (controller.handlePullResponse pullId page).messages =
        controller.messages ++ controller.additions page.messageList ∧
      (controller.handlePullResponse pullId page).outgoingRequestMessages =
        controller.outgoingRequestMessages := by
  obtain ⟨remote, attached⟩ := attachRemoteConversation_spec
    { controller with
      syncRequestConversations := update controller.syncRequestConversations pullId false }
    (page.conversationId.getD 0)
  unfold handlePullResponse
  rw [if_neg (by simp [waits, success]), attached]
  obtain ⟨inserted, all, stored, rfl, same | ⟨nextSeq, _, same⟩⟩ :=
    storePage_spec
      { controller with
        remoteConversationId := remote
        syncRequestConversations :=
          update controller.syncRequestConversations pullId false } page known
  · exact ⟨inserted, all, by rw [same]; rfl, by rw [same]; rfl, by rw [same]; rfl, by rw [same]⟩
  · exact ⟨inserted, all, by rw [same]; rfl, by rw [same]; rfl, by rw [same]; rfl,
      by rw [same]; rfl⟩

theorem mem_additions {controller : Controller} {items : List Server.ChatMessage}
    {record : MessageRecord} (member : record ∈ controller.additions items) :
    ∃ item ∈ items, record = pageRecord controller.authenticatedUid item ∧
      ∀ message ∈ controller.messages, message.messageId ≠ some item.messageId := by
  obtain ⟨item, inPage, rfl⟩ := mem_map.mp member
  obtain ⟨listed, absent⟩ := mem_filter.mp inPage
  refine ⟨item, listed, rfl, fun message inMemory same => ?_⟩
  have present : (controller.messages.any fun other =>
      other.messageId = some item.messageId) = true :=
    any_eq_true.mpr ⟨message, inMemory, decide_eq_true same⟩
  simp [present] at absent

section Orders

variable {clientMessageId : Int} {messageId conversationSeq : Nat} {controller : Controller}
  {sendId pullId : Nat} {page : Server.PullResponse}

section

variable (pending : Pending clientMessageId messageId conversationSeq controller)
include pending

theorem Pending.inMemory :
    controller.messages.any fun message => message.clientMessageId = clientMessageId := by
  have one : 0 < controller.messages.countP fun message =>
      message.clientMessageId = clientMessageId := by
    rw [pending.oneRecord]
    exact Nat.one_pos
  obtain ⟨message, member, same⟩ := countP_pos_iff.mp one
  exact any_eq_true.mpr ⟨message, member, same⟩

theorem Pending.row :
    ∃ row ∈ controller.repository.messages, row.record.clientMessageId = clientMessageId := by
  have one : 0 < controller.repository.messages.countP fun row =>
      row.record.clientMessageId = clientMessageId := by
    rw [pending.oneRow]
    exact Nat.one_pos
  obtain ⟨row, member, same⟩ := countP_pos_iff.mp one
  exact ⟨row, member, of_decide_eq_true same⟩

theorem Pending.acceptViolates_eq_false :
    controller.repository.acceptViolates clientMessageId messageId conversationSeq = false := by
  rw [Bool.eq_false_iff]
  intro violates
  obtain ⟨row, member, conditions⟩ := any_eq_true.mp violates
  obtain ⟨same, another⟩ := of_decide_eq_true conditions
  obtain ⟨other, otherMember, otherConditions⟩ := any_eq_true.mp another
  obtain ⟨_, sameId | ⟨sameConversation, sameSeq⟩⟩ := of_decide_eq_true otherConditions
  · exact (pending.newRow other otherMember).1 sameId
  · exact (pending.newRow other otherMember).2.2
      ⟨sameConversation.trans (pending.waiting row member same).1, sameSeq⟩

/-- The accept response on its own leaves the message converged and its id in memory. -/
theorem Pending.accept (waits : controller.outgoingRequestMessages sendId = some clientMessageId)
    (conversationId : Int) (retryable : Bool) : ∃ after, controller.handleSendResponse sendId
        { errorCode := .success, retryable, messageId := some messageId,
          conversationId := some conversationId, conversationSeq := some conversationSeq } =
        after ∧
      Converged clientMessageId messageId after ∧
      (∃ message ∈ after.messages, message.messageId = some messageId) ∧
      after.localConversationId ∈ after.repository.conversations ∧
      after.syncRequestConversations = controller.syncRequestConversations := by
  obtain ⟨remote, same⟩ := handleSendResponse_accepted waits pending.inMemory
  have written : (controller.repository.acceptOutgoing clientMessageId messageId
      controller.localConversationId conversationSeq).getD controller.repository =
      { controller.repository.raiseCursor controller.localConversationId conversationSeq with
        messages := controller.repository.messages.map fun row =>
          if row.record.clientMessageId = clientMessageId then
            acceptedRow messageId conversationSeq row
          else row
        outbox := controller.repository.outbox.filter fun queued => queued ≠ clientMessageId } := by
    unfold acceptOutgoing
    rw [pending.acceptViolates_eq_false]
    rfl
  rw [written] at same
  refine ⟨_, same, ⟨?_, ?_, ?_, ?_⟩, ?_, pending.known, rfl⟩
  · rw [countP_map, ← pending.oneRow]
    refine countP_congr fun row member => ?_
    have fresh := (pending.newRow row member).1
    by_cases own : row.record.clientMessageId = clientMessageId
    · simp [own, acceptedRow]
    · simp [own, fresh]
  · obtain ⟨row, member, own⟩ := pending.row
    refine ⟨_, mem_map.mpr ⟨row, member, rfl⟩, ?_⟩
    rw [if_pos own]
    exact ⟨own, rfl⟩
  · simp
  · rw [Lists.countP_replaceF, ← pending.oneRecord]
    · refine countP_congr fun message member => ?_
      simp [pending.newRecord message member]
    intro record after replaced
    unfold acceptRecord at replaced
    split at replaced
    · rename_i own
      cases replaced
      simp [own]
    · cases replaced
  obtain ⟨message, member, own⟩ := any_eq_true.mp pending.inMemory
  have accepted : acceptRecord clientMessageId messageId conversationSeq message =
      some _ := if_pos (of_decide_eq_true own)
  obtain ⟨first, final, replaced, inMemory⟩ := Lists.exists_mem_replaceF member accepted
  refine ⟨final, inMemory, ?_⟩
  unfold acceptRecord at replaced
  split at replaced
  · cases replaced
    rfl
  · cases replaced

end

theorem Converged.handlePullResponse (converged : Converged clientMessageId messageId controller)
    (negative : clientMessageId < 0)
    (inMemory : ∃ message ∈ controller.messages, message.messageId = some messageId)
    (known : controller.localConversationId ∈ controller.repository.conversations)
    (waits : controller.syncRequestConversations pullId = true) (success : page.error = .success) :
    Converged clientMessageId messageId (controller.handlePullResponse pullId page) := by
  obtain ⟨inserted, all, messages, outbox, memory, _⟩ :=
    handlePullResponse_result waits success known
  obtain ⟨added, rfl, own⟩ := insertAll_spec all
  have others : ∀ record ∈ controller.additions page.messageList,
      record.messageId ≠ some messageId ∧ record.clientMessageId ≠ clientMessageId := by
    intro record member
    obtain ⟨item, _, rfl, absent⟩ := mem_additions member
    obtain ⟨message, stored, same⟩ := inMemory
    refine ⟨fun equal => absent message stored (same.trans equal.symm), ?_⟩
    have nonnegative : (0 : Int) ≤ item.messageId := Int.natCast_nonneg _
    exact fun equal => absurd (equal ▸ nonnegative) (not_le.mpr negative)
  refine ⟨?_, ?_, ?_, ?_⟩
  · rw [messages, countP_append, converged.oneRow, countP_eq_zero.mpr]
    intro row member
    simpa using (others row.record (own row member).2).1
  · obtain ⟨row, member, accepted⟩ := converged.accepted
    rw [messages]
    exact ⟨row, mem_append_left _ member, accepted⟩
  · rw [outbox]
    exact converged.sent
  rw [memory, countP_append, converged.oneRecord, countP_eq_zero.mpr]
  intro record member
  simpa using ⟨(others record member).2, (others record member).1⟩

/-- A page with the message, before it is accepted, puts a row of its own in the way of the
update. -/
theorem Pending.page_blocks
    (pending : Pending clientMessageId messageId conversationSeq controller)
    (waits : controller.syncRequestConversations pullId = true) (success : page.error = .success)
    (contains : ∃ item ∈ page.messageList, item.messageId = messageId ∧
      item.conversationSeq = conversationSeq) :
    (controller.handlePullResponse pullId page).repository.acceptViolates clientMessageId messageId
        conversationSeq = true ∧
      clientMessageId ∈ (controller.handlePullResponse pullId page).repository.outbox := by
  obtain ⟨inserted, all, messages, outbox, _⟩ :=
    handlePullResponse_result waits success pending.known
  obtain ⟨added, rfl, own⟩ := insertAll_spec all
  obtain ⟨item, listed, sameId, sameSeq⟩ := contains
  have adds : pageRecord controller.authenticatedUid item ∈
      controller.additions page.messageList := by
    refine mem_map.mpr ⟨item, mem_filter.mpr ⟨listed, ?_⟩, rfl⟩
    simpa [sameId] using pending.newRecord
  obtain ⟨blocking, member, collision⟩ := insertAll_collides all adds
  have inAdded : blocking ∈ added := by
    refine (mem_append.mp member).resolve_left fun old => ?_
    obtain ⟨newId, newClient, newSeq⟩ := pending.newRow blocking old
    rcases of_decide_eq_true collision with client | ⟨_, id⟩ | ⟨conversation, _, seq⟩
    · exact newClient (client.symm.trans (congrArg Nat.cast sameId))
    · exact newId (id.symm.trans (congrArg some sameId))
    · exact newSeq ⟨conversation.symm, seq.symm.trans (congrArg some sameSeq)⟩
  obtain ⟨conversation, recordAdded⟩ := own blocking inAdded
  obtain ⟨source, _, equal, _⟩ := mem_additions recordAdded
  have notOwn : blocking.record.clientMessageId ≠ clientMessageId := by
    rw [equal]
    have nonnegative : (0 : Int) ≤ source.messageId := Int.natCast_nonneg _
    exact fun same => absurd (same ▸ nonnegative) (not_le.mpr pending.negative)
  have key : blocking.record.messageId = some messageId ∨
      (blocking.conversationId = controller.localConversationId ∧
        blocking.record.conversationSeq = some conversationSeq) := by
    rcases of_decide_eq_true collision with client | ⟨_, id⟩ | ⟨_, _, seq⟩
    · left
      rw [equal] at client ⊢
      have same : item.messageId = source.messageId :=
        Int.natCast_inj.mp (show (item.messageId : Int) = source.messageId from client)
      exact congrArg some (same.symm.trans sameId)
    · exact .inl (id.symm.trans (congrArg some sameId))
    · exact .inr ⟨conversation, seq.symm.trans (congrArg some sameSeq)⟩
  obtain ⟨row, stored, same⟩ := pending.row
  refine ⟨?_, ?_⟩
  · unfold acceptViolates
    rw [messages]
    refine any_eq_true.mpr ⟨row, mem_append_left _ stored, decide_eq_true ⟨same, ?_⟩⟩
    refine any_eq_true.mpr ⟨blocking, mem_append_right _ inAdded, decide_eq_true ?_⟩
    refine ⟨notOwn, key.imp_right fun both => ⟨?_, both.2⟩⟩
    exact both.1.trans (pending.waiting row stored same).1.symm
  · rw [outbox]
    exact pending.queued

end Orders

/-- A message whose accept response was lost converges after the next login exactly if the
client handles the response to its second sending before the page with it. -/
theorem own_message_converges_iff_accept_first {clientMessageId : Int}
    {messageId conversationSeq : Nat} {controller : Controller}
    (pending : Pending clientMessageId messageId conversationSeq controller) {sendId pullId : Nat}
    (sent : controller.authenticated.outgoingRequestMessages sendId = some clientMessageId)
    (pulled : controller.authenticated.syncRequestConversations pullId = true)
    {page : Server.PullResponse} (success : page.error = .success)
    (contains : ∃ item ∈ page.messageList, item.messageId = messageId ∧
      item.conversationSeq = conversationSeq)
    (conversationId : Int) (retryable : Bool) (order : Order) :
    Converged clientMessageId messageId
        (controller.authenticated.handle order sendId
          { errorCode := .success, retryable := retryable, messageId := some messageId,
            conversationId := some conversationId, conversationSeq := some conversationSeq }
          pullId page) ↔
      order = .acceptFirst := by
  have waiting := pending.authenticated
  cases order with
  | acceptFirst =>
    obtain ⟨after, same, converged, inMemory, known, requests⟩ :=
      waiting.accept sent conversationId retryable
    simp only [handle, same, iff_true]
    exact converged.handlePullResponse pending.negative inMemory known (requests ▸ pulled) success
  | pageFirst =>
    simp only [handle, reduceCtorEq, iff_false]
    intro converged
    obtain ⟨violates, queued⟩ := waiting.page_blocks pulled success contains
    obtain ⟨_, _, _, _, memory, requests⟩ :=
      handlePullResponse_result pulled success waiting.known
    have inMemory : (controller.authenticated.handlePullResponse pullId page).messages.any
        fun message => message.clientMessageId = clientMessageId := by
      rw [memory, any_append, waiting.inMemory, Bool.true_or]
    obtain ⟨remote, same⟩ :=
      handleSendResponse_accepted (requests ▸ sent) inMemory
    rw [same] at converged
    refine converged.sent ?_
    unfold acceptOutgoing
    rw [if_pos violates]
    exact queued

/-! ### One message in both orders -/

def lostMessage : MessageRecord where
  clientMessageId := -1000
  senderId := "me"
  body := "hello"
  timestamp := "10:00"
  outgoing := true
  deliveryState := .unknown

def lostController : Controller where
  authenticatedUid := 1
  localConversationId := "direct:2"
  remoteConversationId := some 5
  repository :=
    { conversations := ["direct:2"]
      messages := [⟨"direct:2", lostMessage⟩]
      outbox := [-1000] }
  messages := [lostMessage]
  nextClientMessageId := -1001

def lostAccepted : SendResponse where
  errorCode := .success
  messageId := some 7
  conversationId := some 5
  conversationSeq := some 1

def lostPage : Server.PullResponse where
  error := .success
  conversationId := some 5
  latestSeq := some 1
  nextSeq := some 1
  hasMore := some false
  conversationType := some .direct
  messageList :=
    [{ messageId := 7, fromUid := 1, toUid := 2, conversationId := 5, conversationSeq := 1,
       clientMessageId := "1:1000", type := .text, content := "hello", status := .wait,
       sendDateTime := "", readDateTime := "" }]

theorem pending_lostController : Pending (-1000) 7 1 lostController where
  negative := by decide
  known := by decide
  oneRecord := by decide
  oneRow := by decide
  waiting := by decide
  queued := by decide
  newRecord := by decide
  newRow := by decide

/-- The response first. -/
theorem own_message_converges_iff_accept_first_in_time :
    Converged (-1000) 7
      (lostController.authenticated.handle .acceptFirst 1 lostAccepted 0 lostPage) :=
  (own_message_converges_iff_accept_first pending_lostController (by decide) (by decide) rfl
    (by decide) 5 false .acceptFirst).mpr rfl

/-- The page first: the message's own row is still waiting, it is still in the outbox, and
memory has it twice. -/
theorem page_first_leaves_message_waiting :
    Pending (-1000) 7 1 lostController ∧
      (let final := lostController.authenticated.handle .pageFirst 1 lostAccepted 0 lostPage
      (final.repository.messages.map fun row =>
          (row.record.clientMessageId, row.record.messageId, row.record.deliveryState)) =
        [(-1000, none, .waitingAccept), (7, some 7, .accepted)] ∧
      final.repository.outbox = [-1000] ∧
      (final.messages.map fun message => (message.clientMessageId, message.messageId)) =
        [(-1000, some 7), (7, some 7)] ∧
      ¬ Converged (-1000) 7 final) := by
  refine ⟨pending_lostController, by decide, by decide, by decide, fun converged => ?_⟩
  exact converged.sent (by decide)

end Wimi.Client
