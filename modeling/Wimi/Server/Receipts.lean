/-
This file models the receipts of messages: `MessageService::Ack` with its two
queries, `acknowledgeConversationMessage` for clients that name the conversation
and `updateMessageForReceiver` for older ones, taken between any two statements of
the accepting calls.

On the receipts that `Ack` produces the two queries change the row of a message
alike, so what a receipt can do to a message is said once, and so is what it can do
to the cursors of a member. A receipt does not change what the accepting calls
read, and they do not change what a receipt has written; the lifecycle of every
message and every cursor over whole runs follows.
-/

import Wimi.Server.Paging
import Wimi.Server.ReceiptColumns

namespace Wimi.Server

open Function List Option Transition Lists

/-! ### The two queries -/

def MessageStatus.value : MessageStatus → Nat
  | .withdraw => 0
  | .wait => 1
  | .delivered => 2
  | .read => 3

open MessageStatus

def MessageStatus.greatest (first second : MessageStatus) : MessageStatus :=
  if first.value < second.value then second else first

/-- How a transaction ends for its caller: with its result, with an error after a rollback, or
with an error although it is committed. -/
inductive Execution where
  | completed
  | failed
  | replyLost
deriving DecidableEq, Repr

def Execution.result (store : Store) (done : Store × Int) : Execution → Store × Int
  | .completed => done
  | .failed => (store, -1)
  | .replyLost => (done.1, -1)

def MessageRow.hasId (messageId : Int) (row : MessageRow) : Bool := row.messageId = messageId

open MessageRow

def MessageRow.receiveLegacy (status : MessageStatus) (readDateTime : String) (row : MessageRow) :
    MessageRow :=
  if readDateTime = "" then { row with status := row.status.greatest status }
  else
    { row with
      readDateTime :=
        if row.status.value < status.value ∨ row.readDateTime = "" then readDateTime
        else row.readDateTime
      status := row.status.greatest status }

def updateMessageForReceiver (store : Store) (messageId receiverId : Int) (status : MessageStatus)
    (readDateTime : String) (execution : Execution) : Store × Int :=
  execution.result store <|
    match store.messages.find? (hasId messageId) with
    | none => (store, 0)
    | some owner =>
      if (owner.receiverId : Int) ≠ receiverId then (store, -2)
      else
        ({ store with
            messages := updateFirst
              (fun row => row.hasId messageId && decide ((row.receiverId : Int) = receiverId))
              (receiveLegacy status readDateTime) store.messages }, 1)

def MessageRow.receiveDirect (status : MessageStatus) (readDateTime : String) (row : MessageRow) :
    MessageRow :=
  { row with
    readDateTime :=
      if status = .read ∧ (row.status.value < 3 ∨ row.readDateTime = "") then readDateTime
      else row.readDateTime
    status := row.status.greatest status }

def MemberRow.advance (status : MessageStatus) (conversationSeq : Nat) (row : MemberRow) :
    MemberRow :=
  { row with
    deliveredSeq := max row.deliveredSeq conversationSeq
    readSeq := if status = .read then max row.readSeq conversationSeq else row.readSeq }

def MemberRow.hasKey (uid conversationId : Int) (row : MemberRow) : Bool :=
  row.conversationId = conversationId ∧ row.uid = uid

def acknowledgeConversationMessage (store : Store)
    (messageId uid conversationId conversationSeq : Int) (status : MessageStatus)
    (readDateTime : String) (execution : Execution) : Store × Int :=
  if messageId ≤ 0 ∨ uid ≤ 0 ∨ conversationId ≤ 0 ∨ conversationSeq ≤ 0 then (store, 0)
  else
    execution.result store <|
      match store.messages.find? (hasId messageId),
        store.membership uid.toNat conversationId.toNat with
      | some message, some (conversation, _) =>
        if message.conversationId = some conversationId.toNat ∧
            message.conversationSeq = some conversationSeq.toNat then
          if conversation.type = .direct ∧ (message.receiverId : Int) ≠ uid then (store, -2)
          else
            ({ store with
                messages :=
                  if conversation.type = .direct then
                    updateFirst (hasId messageId)
                      (receiveDirect status readDateTime) store.messages
                  else store.messages
                conversationMembers := updateFirst (MemberRow.hasKey uid conversationId)
                  (MemberRow.advance status conversationSeq.toNat) store.conversationMembers }, 1)
        else (store, 0)
      | _, _ => (store, 0)

/-! ### The handler -/

inductive ReceiptType where
  | unspecified
  | delivered
  | read
  | transport
  | unknown (code : Int)
deriving DecidableEq, Repr

inductive MessageState where
  | delivered
  | read
deriving DecidableEq, Repr

structure AckRequest where
  seq : Int := 0
  uid : Int := 0
  receiptType : Option ReceiptType := none
  conversationId : Option Int := none
  conversationSeq : Option Int := none
deriving DecidableEq, Repr

structure AckResponse where
  error : ErrorCode
  messageId : Option Int := none
  messageState : Option MessageState := none
deriving DecidableEq, Repr

structure AckResult where
  store : Store
  response : AckResponse
  acknowledged : Bool := false
deriving DecidableEq, Repr

structure DateTime where
  text : String
  nonempty : text ≠ ""
deriving DecidableEq

def AckRequest.hasConversationCursor (request : AckRequest) : Bool :=
  request.conversationId.isSome && request.conversationSeq.isSome

def AckRequest.update (request : AckRequest) (store : Store) (status : MessageStatus)
    (readTime : String) (execution : Execution) : Store × Int :=
  match request.conversationId, request.conversationSeq with
  | some conversationId, some conversationSeq =>
    acknowledgeConversationMessage store request.seq request.uid conversationId conversationSeq
      status readTime execution
  | _, _ => updateMessageForReceiver store request.seq request.uid status readTime execution

def AckRequest.legacyReceipt (request : AckRequest) : Bool :=
  request.receiptType = none ∨ request.receiptType = some .unspecified

def AckRequest.answer (request : AckRequest) (state : MessageState) (done : Store × Int) :
    AckResult :=
  if done.2 = 0 ∧ request.legacyReceipt then
    { store := done.1, response := { error := .success }, acknowledged := true }
  else if done.2 ≤ 0 then
    { store := done.1
      response := { error := if done.2 = -1 then .mysqlFailed else .messageOwnershipInvalid } }
  else
    { store := done.1
      response :=
        { error := .success, messageId := some request.seq, messageState := some state }
      acknowledged := true }

def ack (store : Store) (request : AckRequest) (now : DateTime) (execution : Execution) :
    AckResult :=
  if request.seq ≤ 0 then { store, response := { error := .jsonParser } }
  else
    let receiptType :=
      if request.legacyReceipt then .delivered else request.receiptType.getD .unspecified
    match receiptType with
    | .transport => { store, response := { error := .success }, acknowledged := true }
    | .delivered => request.answer .delivered (request.update store .delivered "" execution)
    | .read => request.answer .read (request.update store .read now.text execution)
    | .unspecified => { store, response := { error := .jsonParser } }
    | .unknown _ => { store, response := { error := .jsonParser } }

inductive ReceiptAction where
  | accept (action : AcceptAction)
  | ack (request : AckRequest) (now : DateTime) (execution : Execution)

def receiptStep (collate : String → String) (isolation : Isolation) (system : AcceptSystem) :
    ReceiptAction → Option AcceptSystem
  | .accept action => acceptStep collate isolation system action
  | .ack request now execution =>
    some { system with store := (ack system.store request now execution).store }

/-! ### What a receipt does to a row -/

def Dated (row : MessageRow) : Prop := row.status = .read → row.readDateTime ≠ ""

/-- How a message may go on: its status does not fall, and the time of a read message stays. -/
structure Continues (row later : MessageRow) : Prop where
  messageId : later.messageId = row.messageId
  status : row.status.value ≤ later.status.value
  readDateTime : row.status = .read → later.readDateTime = row.readDateTime

structure Advances (row later : MemberRow) : Prop where
  key : later.key = row.key
  deliveredSeq : row.deliveredSeq ≤ later.deliveredSeq
  readSeq : row.readSeq ≤ later.readSeq

def Bounded (store : Store) (row : MemberRow) : Prop :=
  row.readSeq ≤ row.deliveredSeq ∧ row.deliveredSeq ≤ store.latestSeq row.conversationId

/-- What `Ack` passes to the queries: a delivery without a time, or a read with one. -/
inductive IsReceipt : MessageStatus → String → Prop
  | delivered : IsReceipt .delivered ""
  | read {readTime : String} (nonempty : readTime ≠ "") : IsReceipt .read readTime

theorem MessageStatus.value_le_greatest (first second : MessageStatus) :
    first.value ≤ (first.greatest second).value := by
  unfold greatest
  split
  · exact Nat.le_of_lt ‹_›
  · exact le_rfl

theorem MessageStatus.eq_read_of_value {status : MessageStatus} (atLeast : 3 ≤ status.value) :
    status = .read := by
  cases status with
  | read => rfl
  | withdraw | wait | delivered => exact absurd atLeast (by decide)

theorem Continues.refl (row : MessageRow) : Continues row row := ⟨rfl, le_rfl, fun _ => rfl⟩

variable {row : MessageRow} {action : AcceptAction}

theorem Continues.trans {middle later : MessageRow} (early : Continues row middle)
    (late : Continues middle later) : Continues row later where
  messageId := late.messageId.trans early.messageId
  status := early.status.trans late.status
  readDateTime isRead := by
    have stillRead : middle.status = .read := by
      refine eq_read_of_value ?_
      have atLeast := early.status
      rw [isRead] at atLeast
      exact atLeast
    rw [late.readDateTime stillRead, early.readDateTime isRead]

theorem Advances.refl (row : MemberRow) : Advances row row := ⟨rfl, le_rfl, le_rfl⟩

theorem Advances.trans {row middle later : MemberRow} (early : Advances row middle)
    (late : Advances middle later) : Advances row later where
  key := late.key.trans early.key
  deliveredSeq := early.deliveredSeq.trans late.deliveredSeq
  readSeq := early.readSeq.trans late.readSeq

section Rows

variable {status : MessageStatus} {readTime : String}

/-- On a receipt the two queries change the row of a message alike. -/
theorem receiveLegacy_eq_receiveDirect (receipt : IsReceipt status readTime) :
    receiveLegacy status readTime = receiveDirect status readTime := by
  funext row
  cases receipt with
  | delivered => rfl
  | read nonempty =>
    have sameTime :
        (if row.status.value < read.value ∨ row.readDateTime = "" then readTime
          else row.readDateTime) =
        if read = .read ∧ (row.status.value < 3 ∨ row.readDateTime = "") then readTime
          else row.readDateTime :=
      if_congr ⟨fun first => ⟨rfl, first⟩, And.right⟩ rfl rfl
    unfold receiveLegacy receiveDirect
    rw [if_neg nonempty, sameTime]

theorem MessageRow.strip_receiveDirect (row : MessageRow) :
    (row.receiveDirect status readTime).strip = row.strip := rfl

theorem MemberRow.strip_advance (seq : Nat) (row : MemberRow) :
    (row.advance status seq).strip = row.strip := rfl

theorem continues_receiveDirect (dated : Dated row) :
    Continues row (row.receiveDirect status readTime) where
  messageId := rfl
  status := row.status.value_le_greatest status
  readDateTime isRead := by
    refine if_neg fun again => ?_
    rcases again.2 with below | empty
    · rw [isRead] at below
      exact absurd below (by decide)
    · exact dated isRead empty

theorem dated_receiveDirect (receipt : IsReceipt status readTime) (dated : Dated row) :
    Dated (row.receiveDirect status readTime) := by
  intro isRead
  unfold receiveDirect
  cases receipt with
  | delivered =>
    refine dated ?_
    unfold receiveDirect greatest at isRead
    split at isRead
    · cases isRead
    · exact isRead
  | read nonempty => grind

theorem advances_advance (seq : Nat) (row : MemberRow) : Advances row (row.advance status seq) where
  key := rfl
  deliveredSeq := le_max_left _ _
  readSeq := by
    unfold MemberRow.advance
    split
    · exact le_max_left _ _
    · exact le_rfl

theorem bounded_advance {store : Store} {row : MemberRow} (bounded : Bounded store row) {seq : Nat}
    (atMost : seq ≤ store.latestSeq row.conversationId) :
    Bounded store (row.advance status seq) := by
  obtain ⟨readLe, deliveredLe⟩ := bounded
  refine ⟨?_, max_le deliveredLe atMost⟩
  unfold MemberRow.advance
  split
  · exact max_le_max readLe le_rfl
  · exact readLe.trans (le_max_left _ _)

end Rows

/-! ### What a receipt does to the store -/

def InGroup (store : Store) (message : MessageRow) : Prop :=
  ∃ conversationId conversation, message.conversationId = some conversationId ∧
    store.conversation conversationId = some conversation ∧ conversation.type = .group

structure AckEffect (request : AckRequest) (before after : Store) : Prop where
  strip : after.strip = before.strip
  messages : Lists.Grown (fun row later => Continues row later ∧
      (later = row ∨ (row.receiverId : Int) = request.uid ∧
        (request.hasConversationCursor → ¬ InGroup before row)))
    before.messages after.messages
  members : Lists.Grown (fun row later => Advances row later ∧
      (later = row ∨ (row.uid : Int) = request.uid))
    before.conversationMembers after.conversationMembers
  dated : ∀ row ∈ after.messages, Dated row
  bounded : ∀ row ∈ after.conversationMembers, Bounded after row

section Effect

variable {store : Store} {request : AckRequest} {status : MessageStatus} {readTime : String}

theorem AckEffect.refl (dated : ∀ row ∈ store.messages, Dated row)
    (bounded : ∀ row ∈ store.conversationMembers, Bounded store row) :
    AckEffect request store store where
  strip := rfl
  messages := grown_refl (fun row => ⟨.refl row, .inl rfl⟩) _
  members := grown_refl (fun row => ⟨.refl row, .inl rfl⟩) _
  dated := dated
  bounded := bounded

theorem ackEffect_result {done : Store × Int} (effect : AckEffect request store done.1)
    (unchanged : AckEffect request store store) (execution : Execution) :
    AckEffect request store (execution.result store done).1 := by
  cases execution with
  | completed | replyLost => exact effect
  | failed => exact unchanged

theorem ackEffect_updateMessageForReceiver (dated : ∀ row ∈ store.messages, Dated row)
    (bounded : ∀ row ∈ store.conversationMembers, Bounded store row)
    (receipt : IsReceipt status readTime) (noCursor : request.hasConversationCursor = false)
    (execution : Execution) :
    AckEffect request store (updateMessageForReceiver store request.seq request.uid status readTime
      execution).1 := by
  have unchanged : AckEffect request store store := .refl dated bounded
  refine ackEffect_result ?_ unchanged execution
  split
  · exact unchanged
  split
  · exact unchanged
  rw [receiveLegacy_eq_receiveDirect receipt]
  constructor
  case strip =>
    unfold Store.strip
    rw [map_updateFirst fun row => row.strip_receiveDirect]
  case messages =>
    refine grown_updateFirst (fun row => ⟨.refl row, .inl rfl⟩) fun row found => ?_
    refine ⟨continues_receiveDirect (dated row (mem_of_find?_eq_some found)), .inr ?_⟩
    have selected := find?_some found
    rw [Bool.and_eq_true] at selected
    refine ⟨of_decide_eq_true selected.2, fun cursor => ?_⟩
    rw [noCursor] at cursor
    cases cursor
  case members => exact unchanged.members
  case dated =>
    refine forall_mem_updateFirst dated fun row found => ?_
    exact dated_receiveDirect receipt (dated row (mem_of_find?_eq_some found))
  case bounded => exact bounded

theorem MemberRow.hasKey_iff {uid conversationId : Int} {row : MemberRow} :
    row.hasKey uid conversationId ↔
      (row.conversationId : Int) = conversationId ∧ (row.uid : Int) = uid := by
  rw [MemberRow.hasKey, decide_eq_true_iff]

theorem not_inGroup_of_direct {uid conversationId : Nat} {conversation : ConversationRow}
    {member : MemberRow} {message : MessageRow}
    (found : store.membership uid conversationId = some (conversation, member))
    (direct : conversation.type = .direct)
    (named : message.conversationId = some conversationId) : ¬ InGroup store message := by
  rintro ⟨other, row, isOther, foundRow, group⟩
  cases named.symm.trans isOther
  cases (Store.membership_eq_some.mp found).1.symm.trans foundRow
  cases direct.symm.trans group

section

variable (dense : Dense store) (dated : ∀ row ∈ store.messages, Dated row)
  (bounded : ∀ row ∈ store.conversationMembers, Bounded store row)
  (receipt : IsReceipt status readTime)
include dense dated bounded receipt

theorem ackEffect_acknowledgeConversationMessage (conversationId conversationSeq : Int)
    (execution : Execution) :
    AckEffect request store (acknowledgeConversationMessage store request.seq request.uid
      conversationId conversationSeq status readTime execution).1 := by
  have unchanged : AckEffect request store store := .refl dated bounded
  unfold acknowledgeConversationMessage
  split
  · exact unchanged
  rename_i positive
  refine ackEffect_result ?_ unchanged execution
  split
  · rename_i message conversation member foundMessage foundMember
    split
    · rename_i named
      split
      · exact unchanged
      rename_i owner
      have isMessage : message ∈ store.messagesOf conversationId.toNat :=
        mem_messagesOf.mpr ⟨mem_of_find?_eq_some foundMessage, named.1⟩
      have seqLe := DenseAt.seq_le (dense conversationId.toNat) isMessage
      rw [seq, named.2, getD_some] at seqLe
      constructor
      case strip =>
        unfold Store.strip
        rw [map_updateFirst (MemberRow.strip_advance conversationSeq.toNat)]
        split
        · rw [map_updateFirst fun row => row.strip_receiveDirect]
        · rfl
      case messages =>
        split
        · rename_i direct
          refine grown_updateFirst (fun row => ⟨.refl row, .inl rfl⟩) fun row found => ?_
          cases foundMessage.symm.trans found
          refine ⟨continues_receiveDirect (dated _ (mem_of_find?_eq_some found)), .inr
            ⟨Classical.byContradiction fun other => owner ⟨direct, other⟩, fun _ => ?_⟩⟩
          exact not_inGroup_of_direct foundMember direct named.1
        · exact unchanged.messages
      case members =>
        refine grown_updateFirst (fun row => ⟨.refl row, .inl rfl⟩) fun row found => ?_
        exact ⟨advances_advance _ row, .inr (MemberRow.hasKey_iff.mp (find?_some found)).2⟩
      case dated =>
        split
        · refine forall_mem_updateFirst dated fun row found => ?_
          exact dated_receiveDirect receipt (dated row (mem_of_find?_eq_some found))
        · exact dated
      case bounded =>
        refine forall_mem_updateFirst bounded fun row found => ?_
        have key := (MemberRow.hasKey_iff.mp (find?_some found)).1
        refine bounded_advance (bounded row (mem_of_find?_eq_some found)) ?_
        rw [← key, Int.toNat_natCast] at seqLe
        exact seqLe
    · exact unchanged
  · exact unchanged

theorem ackEffect_update (execution : Execution) :
    AckEffect request store (request.update store status readTime execution).1 := by
  unfold AckRequest.update
  split
  · exact ackEffect_acknowledgeConversationMessage dense dated bounded receipt _ _ execution
  rename_i noCursor
  refine ackEffect_updateMessageForReceiver dated bounded receipt ?_ execution
  unfold AckRequest.hasConversationCursor
  cases conversation : request.conversationId with
  | none => rfl
  | some conversationId =>
    cases sequence : request.conversationSeq with
    | none => rfl
    | some conversationSeq => exact (noCursor _ _ conversation sequence).elim

end

theorem AckRequest.answer_store (request : AckRequest) (state : MessageState) (done : Store × Int) :
    (request.answer state done).store = done.1 := by
  unfold AckRequest.answer
  split
  · rfl
  · split <;> rfl

theorem ackEffect_ack (dense : Dense store) (dated : ∀ row ∈ store.messages, Dated row)
    (bounded : ∀ row ∈ store.conversationMembers, Bounded store row) (request : AckRequest)
    (now : DateTime) (execution : Execution) :
    AckEffect request store (ack store request now execution).store := by
  have unchanged : AckEffect request store store := .refl dated bounded
  unfold ack
  split
  · exact unchanged
  dsimp only
  split
  · exact unchanged
  · rw [AckRequest.answer_store]
    exact ackEffect_update dense dated bounded .delivered execution
  · rw [AckRequest.answer_store]
    exact ackEffect_update dense dated bounded (.read now.nonempty) execution
  · exact unchanged
  · exact unchanged

end Effect

/-! ### A receipt twice -/

section Twice

variable {status : MessageStatus} {time again : String}

theorem MessageStatus.greatest_greatest (first second : MessageStatus) :
    (first.greatest second).greatest second = first.greatest second := by
  cases first <;> cases second <;> rfl

theorem MessageStatus.greatest_read (first : MessageStatus) : first.greatest .read = .read := by
  cases first <;> rfl

theorem receiveDirect_receiveDirect (first : IsReceipt status time) (row : MessageRow) :
    (row.receiveDirect status time).receiveDirect status again = row.receiveDirect status time := by
  have kept : (if status = .read ∧ ((row.receiveDirect status time).status.value < 3 ∨
      (row.receiveDirect status time).readDateTime = "") then again
      else (row.receiveDirect status time).readDateTime) =
      (row.receiveDirect status time).readDateTime := by
    refine if_neg ?_
    rintro ⟨rfl, below | empty⟩
    · have read : (row.receiveDirect .read time).status = .read := row.status.greatest_read
      rw [read] at below
      exact absurd below (by decide)
    cases first with
    | read nonempty =>
      simp only [receiveDirect, true_and] at empty
      split at empty
      · exact nonempty empty
      · rename_i dated
        exact dated (.inr empty)
  have greatest := greatest_greatest row.status status
  unfold receiveDirect at kept ⊢
  simp only [MessageRow.mk.injEq, true_and, greatest] at kept ⊢
  exact kept

theorem advance_advance (conversationSeq : Nat) (row : MemberRow) :
    (row.advance status conversationSeq).advance status conversationSeq =
      row.advance status conversationSeq := by
  unfold MemberRow.advance
  split <;> simp

theorem updateFirst_receiveDirect_twice (first : IsReceipt status time)
    {selected : MessageRow → Bool}
    (kept : ∀ row, selected row = true → selected (row.receiveDirect status time) = true)
    (rows : List MessageRow) :
    updateFirst selected (receiveDirect status again)
        (updateFirst selected (receiveDirect status time) rows) =
      updateFirst selected (receiveDirect status time) rows :=
  updateFirst_updateFirst kept (fun row => receiveDirect_receiveDirect first row) rows

theorem updateMessageForReceiver_fst (store : Store) (messageId receiverId : Int)
    (status : MessageStatus) :
    (∀ time, (updateMessageForReceiver store messageId receiverId status time .completed).1 =
      store) ∨
    ∀ time, (updateMessageForReceiver store messageId receiverId status time .completed).1 =
      { store with
        messages := updateFirst
          (fun row => row.hasId messageId && decide ((row.receiverId : Int) = receiverId))
          (receiveLegacy status time) store.messages } := by
  unfold updateMessageForReceiver Execution.result
  dsimp only
  split
  · exact .inl fun _ => rfl
  · grind

theorem updateMessageForReceiver_twice (first : IsReceipt status time)
    (second : IsReceipt status again) (store : Store) (messageId receiverId : Int) :
    (updateMessageForReceiver
        (updateMessageForReceiver store messageId receiverId status time .completed).1
        messageId receiverId status again .completed).1 =
      (updateMessageForReceiver store messageId receiverId status time .completed).1 := by
  rcases updateMessageForReceiver_fst store messageId receiverId status with same | changed
  · rw [same, same]
  rw [changed]
  rcases updateMessageForReceiver_fst _ messageId receiverId status with same | changedAgain
  · exact same again
  rw [changedAgain, receiveLegacy_eq_receiveDirect first, receiveLegacy_eq_receiveDirect second]
  refine congrArg (fun rows => { store with messages := rows }) ?_
  refine updateFirst_receiveDirect_twice first (fun _ holds => ?_) store.messages
  exact holds

theorem acknowledgeConversationMessage_fst (store : Store)
    (messageId uid conversationId conversationSeq : Int) (status : MessageStatus) :
    (∀ time, (acknowledgeConversationMessage store messageId uid conversationId conversationSeq
      status time .completed).1 = store) ∨
    ∃ conversation, store.conversation conversationId.toNat = some conversation ∧
      ∀ time, (acknowledgeConversationMessage store messageId uid conversationId conversationSeq
        status time .completed).1 =
        { store with
          messages :=
            if conversation.type = .direct then
              updateFirst (hasId messageId)
                (receiveDirect status time) store.messages
            else store.messages
          conversationMembers := updateFirst (MemberRow.hasKey uid conversationId)
            (MemberRow.advance status conversationSeq.toNat) store.conversationMembers } := by
  unfold acknowledgeConversationMessage Execution.result
  split
  · exact .inl fun _ => rfl
  · grind [Store.membership_eq_some]

theorem acknowledgeConversationMessage_twice (first : IsReceipt status time) (store : Store)
    (messageId uid conversationId conversationSeq : Int) :
    (acknowledgeConversationMessage
        (acknowledgeConversationMessage store messageId uid conversationId conversationSeq status
          time .completed).1
        messageId uid conversationId conversationSeq status again .completed).1 =
      (acknowledgeConversationMessage store messageId uid conversationId conversationSeq status
        time .completed).1 := by
  rcases acknowledgeConversationMessage_fst store messageId uid conversationId conversationSeq
    status with same | ⟨conversation, found, changed⟩
  · rw [same, same]
  rw [changed]
  rcases acknowledgeConversationMessage_fst _ messageId uid conversationId conversationSeq status
    with same | ⟨conversation', found', changedAgain⟩
  · exact same again
  obtain rfl : conversation = conversation' := some.inj (found.symm.trans found')
  rw [changedAgain]
  refine congrArg₂ (fun rows members =>
    { store with messages := rows, conversationMembers := members }) ?_ ?_
  · split
    · refine updateFirst_receiveDirect_twice first (fun _ holds => ?_) store.messages
      exact holds
    · rfl
  refine updateFirst_updateFirst (fun _ holds => ?_) (fun row => ?_)
    store.conversationMembers
  · exact holds
  · exact advance_advance _ row

theorem ack_tables (store : Store) (request : AckRequest) (now : DateTime) :
    ∃ messages members, (ack store request now .completed).store =
      { store with messages, conversationMembers := members } := by
  have updated (status : MessageStatus) (time : String) : ∃ messages members,
      (request.update store status time .completed).1 =
        { store with messages, conversationMembers := members } := by
    unfold AckRequest.update
    split
    · rcases acknowledgeConversationMessage_fst store request.seq request.uid _ _ status with
        same | ⟨conversation, _, changed⟩
      · exact ⟨_, _, same time⟩
      · exact ⟨_, _, changed time⟩
    rcases updateMessageForReceiver_fst store request.seq request.uid status with same | changed
    · exact ⟨_, _, same time⟩
    · exact ⟨_, _, changed time⟩
  unfold ack
  split
  · exact ⟨_, _, rfl⟩
  dsimp only
  split
  · exact ⟨_, _, rfl⟩
  · rw [AckRequest.answer_store]
    exact updated _ _
  · rw [AckRequest.answer_store]
    exact updated _ _
  · exact ⟨_, _, rfl⟩
  · exact ⟨_, _, rfl⟩

/-- A receipt that comes again, later, changes nothing. -/
theorem ack_ack (store : Store) (request : AckRequest) (now later : DateTime) :
    (ack (ack store request now .completed).store request later .completed).store =
      (ack store request now .completed).store := by
  have twice {status : MessageStatus} {time again : String} (first : IsReceipt status time)
      (second : IsReceipt status again) :
      (request.update (request.update store status time .completed).1 status again
        .completed).1 = (request.update store status time .completed).1 := by
    cases conversation : request.conversationId with
    | none =>
      simp only [AckRequest.update, conversation]
      exact updateMessageForReceiver_twice first second _ _ _
    | some conversationId =>
      cases sequence : request.conversationSeq with
      | none =>
        simp only [AckRequest.update, conversation, sequence]
        exact updateMessageForReceiver_twice first second _ _ _
      | some conversationSeq =>
        simp only [AckRequest.update, conversation, sequence]
        exact acknowledgeConversationMessage_twice first _ _ _ _ _
  unfold ack
  split
  · rfl
  dsimp only
  split
  · rfl
  · rw [AckRequest.answer_store, AckRequest.answer_store]
    exact twice .delivered .delivered
  · rw [AckRequest.answer_store, AckRequest.answer_store]
    exact twice (.read now.nonempty) (.read later.nonempty)
  · rfl
  · rfl

end Twice

/-! ### The invariant -/

structure Unreceipted (writes : Writes) : Prop where
  members : ∀ row ∈ writes.members, row.strip = row
  message : ∀ row, writes.message = some row → row.strip = row

structure ReceiptSound (collate : String → String) (system : AcceptSystem) : Prop where
  sound : AcceptSound collate system.strip
  dense : Dense system.store
  writes : ∀ call state, system.calls call = some state → state.phase ≠ .done →
    Unreceipted state.writes
  dated : ∀ row ∈ system.store.messages, Dated row
  bounded : ∀ row ∈ system.store.conversationMembers, Bounded system.store row

section Runs

variable {collate : String → String} {isolation : Isolation} {system next : AcceptSystem}

theorem AcceptCommand.strip_members (command : AcceptCommand) (view : Store)
    (conversationId : Nat) :
    ∀ row ∈ command.members view conversationId, row.strip = row := by
  have fixed : (command.members view conversationId).map MemberRow.strip =
      (command.members view conversationId).map id :=
    (command.members_strip view conversationId).trans (map_id _).symm
  exact map_inj_left.mp fixed

theorem unreceipted_execute {call : Nat} {state : AcceptCall}
    (taken : system.execute collate isolation call state = some next)
    (before : Unreceipted state.writes) :
    ∀ after, next.calls call = some after → after.phase ≠ .done → Unreceipted after.writes := by
  intro after found running
  obtain ⟨_, _, other, rfl, executed⟩ := AcceptSystem.execute_outcome taken
  cases (update_self call (some other) system.calls).symm.trans found
  constructor
  case members =>
    rcases executed.members with done | ⟨_, _, _, rows⟩ | ⟨_, _, kept | ⟨_, none⟩⟩
    · exact absurd done running
    · rw [rows]
      exact fun row isNew => state.command.strip_members _ _ row (mem_newMembers isNew)
    · rw [kept]
      exact before.members
    · rw [none]
      exact forall_mem_nil _
  case message =>
    intro row isRow
    rcases executed.message row isRow with old | ⟨accepted, messageId, rfl⟩
    · exact before.message row old
    · rfl

theorem unreceipted_acceptStep
    (before : ∀ call state, system.calls call = some state → state.phase ≠ .done →
      Unreceipted state.writes) (taken : acceptStep collate isolation system action = some next) :
    ∀ call state, next.calls call = some state → state.phase ≠ .done →
      Unreceipted state.writes := by
  intro other state found running
  have updated : ∀ {call after}, next.calls = update system.calls call (some after) →
      (after.phase ≠ .done → Unreceipted after.writes) → Unreceipted state.writes := by
    intro call after calls own
    rw [calls] at found
    rcases update_eq_some found with ⟨_, rfl⟩ | ⟨_, earlier⟩
    · exact own running
    · exact before other state earlier running
  obtain ⟨call, command, _, _, isNext⟩ | ⟨call, current, _, isCurrent, executed⟩ |
    ⟨call, current, replied, _, _, _, isNext⟩ | ⟨call, current, what, _, _, _, isNext⟩ :=
    acceptStep_cases taken
  · unfold AcceptSystem.begin at isNext
    split at isNext
    · exact updated (congrArg AcceptSystem.calls isNext) fun notDone => absurd rfl notDone
    refine updated (congrArg AcceptSystem.calls isNext) fun _ =>
      ⟨forall_mem_nil _, fun row written => ?_⟩
    cases written
  · have started := AcceptSystem.running_of_execute executed
    obtain ⟨_, _, after, isNext, _⟩ := AcceptSystem.execute_outcome executed
    have calls := congrArg AcceptSystem.calls isNext
    refine updated calls
      (unreceipted_execute executed (before call current isCurrent started) after ?_)
    rw [calls]
    exact update_self ..
  · exact updated (congrArg AcceptSystem.calls isNext) fun notDone => absurd rfl notDone
  · exact updated (congrArg AcceptSystem.calls isNext) fun notDone => absurd rfl notDone

/-- The rows a step of an accepting call adds have no receipts, and the others stay. -/
theorem ReceiptSound.accept_tables (sound : ReceiptSound collate system)
    (taken : acceptStep collate isolation system action = some next) :
    ∃ members messages, next.store.conversationMembers =
        system.store.conversationMembers ++ members ∧
      next.store.messages = system.store.messages ++ messages ∧
      (∀ row ∈ members, row.strip = row) ∧ ∀ row ∈ messages, row.strip = row := by
  obtain ⟨autoIncrement, tables⟩ | ⟨call, state, _, _, running, reached, tables⟩ :=
    acceptStep_store taken
  · simp [tables]
  have written := sound.writes call state running (by rw [reached]; nofun)
  refine ⟨state.writes.members, state.writes.message.toList, congrArg _ tables,
    congrArg _ tables, written.members, fun row isRow => ?_⟩
  exact written.message row (mem_toList.mp isRow)

theorem ReceiptSound.accept (sound : ReceiptSound collate system)
    (taken : acceptStep collate isolation system action = some next) :
    ReceiptSound collate next := by
  have stripped : acceptStep collate isolation system.strip action = some next.strip := by
    rw [← acceptStep_strip, taken, map_some]
  obtain ⟨_, _, effect⟩ := (acceptStep_took sound.sound stripped).own
  obtain ⟨members, messages, newMembers, newMessages, plainMembers, plainMessages⟩ :=
    sound.accept_tables taken
  constructor
  case sound => exact acceptSound_step _ action _ sound.sound stripped
  case dense => exact dense_strip.mp (effect.dense (dense_strip.mpr sound.dense))
  case writes => exact unreceipted_acceptStep sound.writes taken
  case dated =>
    rw [newMessages]
    refine forall_mem_append.mpr ⟨sound.dated, fun row isNew isRead => ?_⟩
    rw [← plainMessages row isNew] at isRead
    cases isRead
  case bounded =>
    have counter : ∀ conversationId, system.store.latestSeq conversationId ≤
        next.store.latestSeq conversationId := effect.latestSeq_le
    rw [newMembers]
    refine forall_mem_append.mpr ⟨fun row isOld => ?_, fun row isNew => ?_⟩
    · obtain ⟨readLe, deliveredLe⟩ := sound.bounded row isOld
      exact ⟨readLe, deliveredLe.trans (counter row.conversationId)⟩
    · rw [← plainMembers row isNew]
      exact ⟨le_rfl, Nat.zero_le _⟩

theorem ReceiptSound.ack (sound : ReceiptSound collate system) (request : AckRequest)
    (now : DateTime) (execution : Execution) :
    ReceiptSound collate
      { system with store := (ack system.store request now execution).store } := by
  have effect := ackEffect_ack sound.dense sound.dated sound.bounded request now execution
  constructor
  case sound =>
    have stripped : AcceptSystem.strip
        { system with store := (Server.ack system.store request now execution).store } =
        system.strip := by
      unfold AcceptSystem.strip
      rw [effect.strip]
    rw [stripped]
    exact sound.sound
  case dense =>
    refine dense_strip.mp ?_
    rw [effect.strip]
    exact dense_strip.mpr sound.dense
  case writes => exact sound.writes
  case dated => exact effect.dated
  case bounded => exact effect.bounded

theorem receiptSound_step (system : AcceptSystem) (action : ReceiptAction) (next : AcceptSystem)
    (sound : ReceiptSound collate system)
    (taken : receiptStep collate isolation system action = some next) :
    ReceiptSound collate next := by
  cases action with
  | accept action => exact sound.accept taken
  | ack request now execution =>
    cases taken
    exact sound.ack request now execution

/-- What one step can do to the messages and to the members. -/
theorem receiptStep_grown (sound : ReceiptSound collate system) {action : ReceiptAction}
    (taken : receiptStep collate isolation system action = some next) :
    Lists.Grown (fun row later => Continues row later ∧
        (later = row ∨ ∃ request now execution, action = .ack request now execution ∧
          (row.receiverId : Int) = request.uid ∧
          (request.hasConversationCursor → ¬ InGroup system.store row)))
      system.store.messages next.store.messages ∧
    Lists.Grown (fun row later => Advances row later ∧
        (later = row ∨ ∃ request now execution, action = .ack request now execution ∧
          (row.uid : Int) = request.uid))
      system.store.conversationMembers next.store.conversationMembers := by
  cases action with
  | accept action =>
    obtain ⟨members, messages, newMembers, newMessages, _⟩ := sound.accept_tables taken
    rw [newMembers, newMessages]
    exact ⟨grown_append (fun row => ⟨.refl row, .inl rfl⟩) _ _,
      grown_append (fun row => ⟨.refl row, .inl rfl⟩) _ _⟩
  | ack request now execution =>
    cases taken
    have effect := ackEffect_ack sound.dense sound.dated sound.bounded request now execution
    refine ⟨effect.messages.imp fun row _ later both => ⟨both.1, both.2.imp_right fun own => ?_⟩,
      effect.members.imp fun row _ later both => ⟨both.1, both.2.imp_right fun own => ?_⟩⟩
    · exact ⟨request, now, execution, rfl, own⟩
    · exact ⟨request, now, execution, rfl, own⟩

section

variable {final : AcceptSystem} {actions : List ReceiptAction} (sound : ReceiptSound collate system)
  (taken : run (receiptStep collate isolation) system actions = some final)
include sound taken

theorem receiptSound_run : ReceiptSound collate final :=
  run_invariant (ReceiptSound collate) receiptSound_step sound taken

theorem receipts_grown_run : Lists.Grown Continues system.store.messages final.store.messages ∧
      Lists.Grown Advances system.store.conversationMembers final.store.conversationMembers := by
  refine run_relation (ReceiptSound collate)
    (fun first second => Lists.Grown Continues first.store.messages second.store.messages ∧
      Lists.Grown Advances first.store.conversationMembers second.store.conversationMembers)
    (fun state => ⟨grown_refl .refl _, grown_refl .refl _⟩)
    (fun _ _ _ early late => ⟨early.1.trans (fun _ _ _ => .trans) late.1,
      early.2.trans (fun _ _ _ => .trans) late.2⟩) ?_ sound taken
  intro state action next stateSound step
  obtain ⟨messages, members⟩ := receiptStep_grown stateSound step
  exact ⟨receiptSound_step state action next stateSound step,
    messages.imp fun _ _ _ => And.left, members.imp fun _ _ _ => And.left⟩

end

end Runs

/-! ### The lifecycle -/

theorem receiptSound_initial (collate : String → String) {store : Store} (keyed : Keyed store)
    (dense : Dense store) (dated : ∀ row ∈ store.messages, Dated row)
    (bounded : ∀ row ∈ store.conversationMembers, Bounded store row) :
    ReceiptSound collate { store } where
  sound := @acceptSound_initial collate store.strip keyed
  dense := dense
  writes _ _ found := by cases found
  dated := dated
  bounded := bounded

/-- However receipts and accepting calls are interleaved. From any state reached to any later
one, no status falls and the time of a read message stays, and the cursors of every member do
not fall; in every state reached the cursors stand in their order below the counter. One step
changes a message only by a receipt of its receiver, and not through its conversation if that
is a group's, and it moves the cursors of a member only by a receipt of that member. -/
theorem receipts_only_advance (collate : String → String) (isolation : Isolation) {store : Store}
    (keyed : Keyed store) (dense : Dense store) (dated : ∀ row ∈ store.messages, Dated row)
    (bounded : ∀ row ∈ store.conversationMembers, Bounded store row)
    {first second : List ReceiptAction} {middle final : AcceptSystem}
    (reached : run (receiptStep collate isolation) { store := store } first =
      some middle)
    (continued : run (receiptStep collate isolation) middle second = some final) :
    Lists.Grown Continues middle.store.messages final.store.messages ∧
    Lists.Grown Advances middle.store.conversationMembers final.store.conversationMembers ∧
    (∀ row ∈ final.store.conversationMembers, Bounded final.store row) ∧
    ∀ action next, receiptStep collate isolation final action = some next →
      Lists.Grown (fun row later => later = row ∨
          ∃ request now execution, action = .ack request now execution ∧
            (row.receiverId : Int) = request.uid ∧
            (request.hasConversationCursor → ¬ InGroup final.store row))
        final.store.messages next.store.messages ∧
      Lists.Grown (fun row later => later = row ∨
          ∃ request now execution, action = .ack request now execution ∧
            (row.uid : Int) = request.uid)
        final.store.conversationMembers next.store.conversationMembers := by
  have middleSound := receiptSound_run (receiptSound_initial collate keyed dense dated bounded)
    reached
  have finalSound := receiptSound_run middleSound continued
  obtain ⟨messages, members⟩ := receipts_grown_run middleSound continued
  refine ⟨messages, members, finalSound.bounded, fun action next taken => ?_⟩
  obtain ⟨stepMessages, stepMembers⟩ := receiptStep_grown finalSound taken
  exact ⟨stepMessages.imp fun _ _ _ => And.right, stepMembers.imp fun _ _ _ => And.right⟩

def receiptsAfter (actions : List ReceiptAction) : AcceptSystem :=
  (run (receiptStep id .repeatableRead) { store := friendsStore } actions).getD
    { store := friendsStore }

def sendAccepted : List ReceiptAction := ((directText "a").script 0).map .accept

def readThenDeliver : List ReceiptAction :=
  [.ack
      { seq := 1, uid := 2, receiptType := some .read, conversationId := some 5,
        conversationSeq := some 1 }
      ⟨"noon", by decide⟩ .completed,
    .ack { seq := 1, uid := 2 } ⟨"later", by decide⟩ .completed]

theorem receipts_only_advance_read :
    ((receiptsAfter (sendAccepted ++ readThenDeliver)).store.messages.map fun row =>
        (row.status, row.readDateTime)) = [(.read, "noon")] ∧
      ((receiptsAfter (sendAccepted ++ readThenDeliver)).store.conversationMembers.map fun row =>
        (row.uid, row.deliveredSeq, row.readSeq)) = [(1, 0, 0), (2, 1, 1)] ∧
      Lists.Grown Continues (receiptsAfter sendAccepted).store.messages
        (receiptsAfter (sendAccepted ++ readThenDeliver)).store.messages := by
  have reached : run (receiptStep id .repeatableRead) { store := friendsStore }
      sendAccepted = some (receiptsAfter sendAccepted) := rfl
  have continued : run (receiptStep id .repeatableRead) (receiptsAfter sendAccepted)
      readThenDeliver = some (receiptsAfter (sendAccepted ++ readThenDeliver)) := rfl
  refine ⟨by decide +kernel, by decide +kernel, ?_⟩
  exact (receipts_only_advance id .repeatableRead keyed_friendsStore dense_friendsStore
    (forall_mem_nil _) (forall_mem_nil _) reached continued).1

end Wimi.Server
