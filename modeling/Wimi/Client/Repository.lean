/-
This file models the tables of `SqliteClientRepository` and the writes that move
a message through them.

A write is one SQLite transaction: it returns the new tables, or `none` where a
constraint fails and the transaction is rolled back. The unique keys of `messages`
are what decides which of two writes for one server message succeeds. The sync
cursor of a conversation has two writers with two rules, the maximum and the
conditional update; both leave it at the larger of the two values.
-/

import Mathlib

namespace Wimi.Client

open Function List Option

/-! ### Records -/

inductive MessageDeliveryState where
  | pendingLocal
  | waitingAccept
  | accepted
  | delivered
  | read
  | unknown
  | retryableFailed
  | permanentFailed
deriving DecidableEq, Repr

def canTransition : MessageDeliveryState → MessageDeliveryState → Bool
  | .pendingLocal, next =>
    next = .waitingAccept ∨ next = .unknown ∨ next = .retryableFailed ∨ next = .permanentFailed
  | .waitingAccept, next =>
    next = .accepted ∨ next = .unknown ∨ next = .retryableFailed ∨ next = .permanentFailed
  | .accepted, next => next = .delivered ∨ next = .read
  | .delivered, next => next = .read
  | .unknown, next =>
    next = .waitingAccept ∨ next = .accepted ∨ next = .delivered ∨ next = .read ∨
      next = .retryableFailed ∨ next = .permanentFailed
  | .retryableFailed, next =>
    next = .pendingLocal ∨ next = .waitingAccept ∨ next = .accepted ∨ next = .permanentFailed
  | .read, _ => false
  | .permanentFailed, _ => false

theorem waits_of_canTransition {old new : MessageDeliveryState} (allowed : canTransition old new)
    (waits : new = .pendingLocal ∨ new = .waitingAccept ∨ new = .unknown ∨
      new = .retryableFailed) :
    old = .pendingLocal ∨ old = .waitingAccept ∨ old = .unknown ∨ old = .retryableFailed := by
  revert allowed waits
  cases old <;> cases new <;> decide

/-- Server ids are positive. A message that was written here has a negative client id of its
own, a message from the server has the server's id in its place. -/
structure MessageRecord where
  clientMessageId : Int
  messageId : Option Nat := none
  conversationSeq : Option Nat := none
  senderId : String
  body : String
  timestamp : String
  outgoing : Bool
  deliveryState : MessageDeliveryState := .accepted
deriving DecidableEq, Repr

structure StoredMessage where
  conversationId : String
  record : MessageRecord
deriving DecidableEq, Repr

/-- The tables, with `sync_state` by conversation. -/
structure Repository where
  conversations : List String := []
  messages : List StoredMessage := []
  outbox : List Int := []
  syncState : String → Option Nat := fun _ => none

def StoredMessage.collides (row other : StoredMessage) : Bool :=
  row.record.clientMessageId = other.record.clientMessageId ∨
    (row.record.messageId.isSome ∧ row.record.messageId = other.record.messageId) ∨
    (row.conversationId = other.conversationId ∧ row.record.conversationSeq.isSome ∧
      row.record.conversationSeq = other.record.conversationSeq)

namespace Repository

variable (repository : Repository)

/-! ### Writes -/

def insertMessage (conversationId : String) (message : MessageRecord) (ignoreDuplicate : Bool) :
    Option Repository :=
  let row : StoredMessage := { conversationId, record := message }
  if repository.messages.any row.collides then
    if ignoreDuplicate then some repository else none
  else if conversationId ∈ repository.conversations then
    some { repository with messages := repository.messages ++ [row] }
  else none

def enqueueOutgoing (conversationId : String) (message : MessageRecord) : Option Repository :=
  match repository.insertMessage conversationId message false with
  | none => none
  | some inserted =>
    if message.clientMessageId ∈ inserted.outbox then none
    else some { inserted with outbox := inserted.outbox ++ [message.clientMessageId] }

def leavesOutbox (state : MessageDeliveryState) : Bool :=
  state = .accepted ∨ state = .delivered ∨ state = .read ∨ state = .permanentFailed

def updateDeliveryState (clientMessageId : Int) (state : MessageDeliveryState) : Repository :=
  { repository with
    messages := repository.messages.map fun row =>
      if row.record.clientMessageId = clientMessageId then
        { row with record := { row.record with deliveryState := state } }
      else row
    outbox :=
      if leavesOutbox state then repository.outbox.filter fun queued => queued ≠ clientMessageId
      else repository.outbox }

def acceptedRow (messageId conversationSeq : Nat) (row : StoredMessage) : StoredMessage :=
  { row with
    record := { row.record with
      messageId := some messageId
      conversationSeq := some conversationSeq
      deliveryState := .accepted } }

def acceptViolates (clientMessageId : Int) (messageId conversationSeq : Nat) : Bool :=
  repository.messages.any fun row =>
    row.record.clientMessageId = clientMessageId ∧
      repository.messages.any fun other =>
        other.record.clientMessageId ≠ clientMessageId ∧
          (other.record.messageId = some messageId ∨
            (other.conversationId = row.conversationId ∧
              other.record.conversationSeq = some conversationSeq))

def syncCursor (conversationId : String) : Nat :=
  (repository.syncState conversationId).getD 0

def raiseCursor (conversationId : String) (cursor : Nat) : Repository :=
  { repository with
    syncState := update repository.syncState conversationId
      (some (match repository.syncState conversationId with
        | none => cursor
        | some old => max old cursor)) }

def replaceCursor (conversationId : String) (cursor : Nat) : Repository :=
  { repository with
    syncState := update repository.syncState conversationId
      (some (match repository.syncState conversationId with
        | none => cursor
        | some old => if old ≤ cursor then cursor else old)) }

def acceptOutgoing (clientMessageId : Int) (messageId : Nat) (conversationId : String)
    (conversationSeq : Nat) : Option Repository :=
  if repository.acceptViolates clientMessageId messageId conversationSeq then none
  else
    let updated : Repository := { repository with
      messages := repository.messages.map fun row =>
        if row.record.clientMessageId = clientMessageId then
          acceptedRow messageId conversationSeq row
        else row }
    let raised := updated.raiseCursor conversationId conversationSeq
    some { raised with outbox := raised.outbox.filter fun queued => queued ≠ clientMessageId }

def insertAll (conversationId : String) : List MessageRecord → Repository → Option Repository
  | [], repository => some repository
  | message :: rest, repository =>
    match repository.insertMessage conversationId message true with
    | none => none
    | some inserted => insertAll conversationId rest inserted

def applyIncomingBatch (conversationId : String) (messages : List MessageRecord)
    (nextCursor : Nat) : Option Repository :=
  (insertAll conversationId messages repository).map fun inserted =>
    inserted.replaceCursor conversationId nextCursor

def load (conversationId : String) : List MessageRecord :=
  (repository.messages.filter fun row => row.conversationId = conversationId).map
    StoredMessage.record

end Repository

/-! ### What the writes keep -/

variable {message : MessageRecord} {messages : List MessageRecord}

namespace Repository

variable {repository inserted : Repository} {conversationId : String}

theorem insertMessage_spec
    (written : repository.insertMessage conversationId message true = some inserted) :
    (inserted = repository ∧ ∃ row ∈ repository.messages,
      StoredMessage.collides ⟨conversationId, message⟩ row) ∨
    inserted = { repository with
      messages := repository.messages ++ [⟨conversationId, message⟩] } := by
  unfold insertMessage at written
  dsimp only at written
  split at written
  · grind
  · grind

theorem enqueueOutgoing_spec
    (written : repository.enqueueOutgoing conversationId message = some inserted) :
    ∃ outbox, inserted = { repository with
      messages := repository.messages ++ [⟨conversationId, message⟩]
      outbox } := by
  unfold enqueueOutgoing insertMessage at written
  dsimp only at written
  split at written
  · cases written
  · grind

section

variable (written : insertAll conversationId messages repository = some inserted)
include written

/-- A batch adds rows of its own messages. -/
theorem insertAll_spec : ∃ added,
    inserted = { repository with messages := repository.messages ++ added } ∧
      ∀ row ∈ added, row.conversationId = conversationId ∧ row.record ∈ messages := by
  induction messages generalizing repository with
  | nil =>
    cases written
    exact ⟨[], by rw [append_nil], nofun⟩
  | cons message rest inductionHypothesis =>
    simp only [insertAll] at written
    split at written
    · cases written
    rename_i next first
    obtain ⟨added, rfl, own⟩ := inductionHypothesis written
    have later : ∀ row ∈ added, row.conversationId = conversationId ∧
        row.record ∈ message :: rest :=
      fun row member => ⟨(own row member).1, mem_cons_of_mem _ (own row member).2⟩
    obtain ⟨rfl, _⟩ | rfl := insertMessage_spec first
    · exact ⟨added, rfl, later⟩
    · exact ⟨⟨conversationId, message⟩ :: added, by simp,
        forall_mem_cons.mpr ⟨⟨rfl, mem_cons_self⟩, later⟩⟩

/-- After a batch each of its messages is there, or a row that keeps it out. -/
theorem insertAll_collides (member : message ∈ messages) :
    ∃ row ∈ inserted.messages, StoredMessage.collides ⟨conversationId, message⟩ row := by
  induction messages generalizing repository with
  | nil => cases member
  | cons head rest inductionHypothesis =>
    simp only [insertAll] at written
    split at written
    · cases written
    rename_i next first
    rcases mem_cons.mp member with rfl | later
    · obtain ⟨added, rfl, _⟩ := insertAll_spec written
      obtain ⟨rfl, row, stored, collision⟩ | rfl := insertMessage_spec first
      · exact ⟨row, mem_append_left _ stored, collision⟩
      · refine ⟨⟨conversationId, message⟩, mem_append_left _ ?_, decide_eq_true (.inl rfl)⟩
        exact mem_append_right _ (mem_singleton_self _)
    · exact inductionHypothesis written later

end

theorem insertAll_isSome (messages : List MessageRecord)
    (known : conversationId ∈ repository.conversations) :
    (insertAll conversationId messages repository).isSome := by
  induction messages generalizing repository with
  | nil => rfl
  | cons message rest inductionHypothesis =>
    unfold insertAll insertMessage
    by_cases collision : repository.messages.any
        (StoredMessage.collides ⟨conversationId, message⟩) = true
    · rw [if_pos collision]
      exact inductionHypothesis known
    · grind

theorem syncCursor_raiseCursor (repository : Repository) (conversationId : String) (cursor : Nat) :
    (repository.raiseCursor conversationId cursor).syncCursor conversationId =
      max (repository.syncCursor conversationId) cursor := by
  unfold raiseCursor syncCursor
  dsimp only
  rw [update_self]
  cases repository.syncState conversationId with
  | none => simp
  | some old => rfl

/-- The conditional update comes to the maximum as well. -/
theorem syncCursor_replaceCursor (repository : Repository) (conversationId : String)
    (cursor : Nat) :
    (repository.replaceCursor conversationId cursor).syncCursor conversationId =
      max (repository.syncCursor conversationId) cursor :=
  repository.syncCursor_raiseCursor conversationId cursor

theorem applyIncomingBatch_spec {nextCursor : Nat} {final : Repository}
    (written : repository.applyIncomingBatch conversationId messages nextCursor = some final) :
    ∃ inserted, insertAll conversationId messages repository = some inserted ∧
      final = inserted.replaceCursor conversationId nextCursor := by
  obtain ⟨inserted, all, equal⟩ := map_eq_some_iff.mp written
  exact ⟨inserted, all, equal.symm⟩

end Repository

end Wimi.Client
