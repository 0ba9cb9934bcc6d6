/-
This file relates the two models of the client's tables. In `Repository` a write is one
function on the rows as the controllers use them; in `Sqlite` it is a list of statements on
the columns as they are bound, each of which can fail from outside.

The tables represent a repository when they have its messages under distinct keys, its
outbox, its conversations and its cursors. A call that reports success, with whatever
failures around it, is then the write of the other model.
-/

import Wimi.Client.IncomingBatches

namespace Wimi.Client.Sqlite

open Function List Transaction Repository

/-! ### Rows and tables -/

/-- A record with its texts set and its ids as they are bound. -/
def ofRecord (message : Client.MessageRecord) : MessageRecord where
  clientMessageId := message.clientMessageId
  messageId := message.messageId.map Nat.cast
  conversationSeq := message.conversationSeq.map Nat.cast
  senderId := message.senderId
  body := message.body
  timestamp := message.timestamp
  outgoing := message.outgoing
  deliveryState := message.deliveryState

/-- The row of a stored message. -/
def ofStored (stored : StoredMessage) : MessageRow where
  clientMessageId := stored.record.clientMessageId
  messageId := stored.record.messageId.map Nat.cast
  conversationId := stored.conversationId
  conversationSeq := stored.record.conversationSeq.map Nat.cast
  senderId := stored.record.senderId
  body := stored.record.body
  timestamp := stored.record.timestamp
  outgoing := stored.record.outgoing
  deliveryState := stored.record.deliveryState

structure Represents (tables : Tables) (repository : Repository) : Prop where
  messages : tables.messages = repository.messages.map ofStored
  keys : (repository.messages.map fun row => row.record.clientMessageId).Nodup
  conversations :
    tables.conversations.filterMap ConversationRow.conversationId = repository.conversations
  outbox : tables.outbox.map OutboxRow.clientMessageId = repository.outbox
  cursors : ∀ conversationId, storedCursor tables.syncState (cursorScope (some conversationId)) =
    WithBot.map Nat.cast (repository.syncState conversationId)

theorem map_cast_eq_iff {first second : Option Nat} :
    first.map (Nat.cast : Nat → Int) = second.map Nat.cast ↔ first = second :=
  (Option.map_injective Nat.cast_injective).eq_iff

theorem collides_ofStored (row other : StoredMessage) :
    (ofStored row).collides (ofStored other) = row.collides other := by
  simp [MessageRow.collides, StoredMessage.collides, ofStored, map_cast_eq_iff]

section

variable {tables : Tables} {repository : Repository} (represents : Represents tables repository)
include represents

/-! ### Statements -/

theorem insertMessage_represents (conversationId : String) (message : Client.MessageRecord)
    (ignoreDuplicate : Bool) :
    Option.Rel Represents
      (insertMessage (some conversationId) (ofRecord message) ignoreDuplicate tables)
      (repository.insertMessage conversationId message ignoreDuplicate) := by
  have bound : (ofRecord message).row (some conversationId) =
      some (ofStored ⟨conversationId, message⟩) := rfl
  have collides : tables.messages.any (ofStored ⟨conversationId, message⟩).collides =
      repository.messages.any (StoredMessage.collides ⟨conversationId, message⟩) := by
    simp only [represents.messages, any_map, comp_def, collides_ofStored]
  have known : (tables.conversations.any fun conversation =>
      conversation.conversationId = some conversationId) =
        decide (conversationId ∈ repository.conversations) := by
    rw [← represents.conversations, Bool.eq_iff_iff]
    simp
  unfold insertMessage Repository.insertMessage
  simp only [bound, collides, known, decide_eq_true_eq]
  split_ifs with collision ignored present
  · exact .some represents
  · exact .none
  · refine .some { represents with
      messages := by simp [represents.messages], keys := ?_ }
    rw [map_append, nodup_append]
    refine ⟨represents.keys, nodup_singleton _, ?_⟩
    simp only [any_eq_true, not_exists, not_and] at collision
    grind [StoredMessage.collides]
  · exact .none

theorem insertAll_represents (conversationId : String) (messages : List Client.MessageRecord) :
    Option.Rel Represents
      (effect ((messages.map ofRecord).map (insertMessage (some conversationId) · true)) tables)
      (insertAll conversationId messages repository) := by
  induction messages generalizing tables repository with
  | nil => exact .some represents
  | cons message rest inductionHypothesis =>
    have first := insertMessage_represents represents conversationId message true
    rw [map_cons, map_cons, effect, insertAll]
    generalize insertMessage (some conversationId) (ofRecord message) true tables = written
      at first ⊢
    generalize repository.insertMessage conversationId message true = inserted at first ⊢
    cases first with
    | none => exact .none
    | some next => exact inductionHypothesis next

/-- The rows under one key are changed. -/
theorem Represents.change (clientMessageId : Int) (bound : MessageRow → MessageRow)
    (change : StoredMessage → StoredMessage)
    (same : ∀ row, bound (ofStored row) = ofStored (change row))
    (kept : ∀ row, (change row).record.clientMessageId = row.record.clientMessageId) :
    Represents
      { tables with
        messages := tables.messages.map fun row =>
          if row.clientMessageId = clientMessageId then bound row else row }
      { repository with
        messages := repository.messages.map fun row =>
          if row.record.clientMessageId = clientMessageId then change row else row } :=
  { represents with
    messages := by
      simp only [represents.messages, map_map, comp_def, same, apply_ite ofStored]
      rfl
    keys := by
      have keys : ((fun row => row.record.clientMessageId) ∘ fun row : StoredMessage =>
          if row.record.clientMessageId = clientMessageId then change row else row) =
            fun row => row.record.clientMessageId := by
        funext row
        simp only [comp_apply]
        split
        · exact kept row
        · rfl
      rw [map_map, keys]
      exact represents.keys }

theorem Represents.deleteOutbox (clientMessageId : Int) :
    Represents
      { tables with
        outbox := tables.outbox.filter fun row => row.clientMessageId ≠ clientMessageId }
      { repository with
        outbox := repository.outbox.filter fun queued => queued ≠ clientMessageId } :=
  { represents with
    outbox := by
      rw [← represents.outbox, filter_map]
      rfl }

theorem Represents.raiseCursor (conversationId : String) (cursor : Nat) {syncState : List SyncRow}
    (stored : ∀ scope, storedCursor syncState scope =
      if scope = cursorScope (some conversationId)
      then max (storedCursor tables.syncState scope) (cursor : Int)
      else storedCursor tables.syncState scope) :
    Represents { tables with syncState } (repository.raiseCursor conversationId cursor) :=
  { represents with
    cursors := by
      intro other
      have scopes : cursorScope (some other) = cursorScope (some conversationId) ↔
          other = conversationId := String.append_right_inj _
      simp only [stored, scopes, represents.cursors, Repository.raiseCursor, update_apply]
      split
      · rename_i same
        subst same
        cases repository.syncState other with
        | none => rfl
        | some old =>
          simp [WithBot.map]
          rfl
      · rfl }

theorem setPreview_represents (conversationId : Text) (body timestamp : String) :
    ∃ after, setPreview conversationId body timestamp tables = some after ∧
      Represents after repository := by
  unfold setPreview
  dsimp only
  split
  · refine ⟨_, rfl, { represents with conversations := ?_ }⟩
    rw [← represents.conversations, filterMap_map]
    congr 1
    funext row
    simp only [comp_apply]
    split <;> rfl
  · exact ⟨tables, rfl, represents⟩

theorem setAccepted_represents (clientMessageId : Int) (messageId conversationSeq : Nat) :
    Option.Rel Represents (setAccepted clientMessageId messageId conversationSeq tables)
      (if repository.acceptViolates clientMessageId messageId conversationSeq then none
      else some { repository with
        messages := repository.messages.map fun row =>
          if row.record.clientMessageId = clientMessageId then
            acceptedRow messageId conversationSeq row
          else row }) := by
  have found : (tables.messages.find? fun row => row.clientMessageId = clientMessageId) =
      (repository.messages.find? fun row => row.record.clientMessageId = clientMessageId).map
        ofStored := by
    rw [represents.messages, find?_map]
    rfl
  simp only [setAccepted, found]
  cases first : repository.messages.find? fun row =>
      row.record.clientMessageId = clientMessageId with
  | none =>
    have absent : ∀ row ∈ repository.messages, row.record.clientMessageId ≠ clientMessageId := by
      simpa using first
    have holds : repository.acceptViolates clientMessageId messageId conversationSeq = false := by
      grind [acceptViolates]
    rw [holds, map_congr_left fun row member => if_neg (absent row member), map_id']
    exact .some represents
  | some row =>
    have key : row.record.clientMessageId = clientMessageId := by simpa using find?_some first
    have unique : ∀ other ∈ repository.messages,
        other.record.clientMessageId = clientMessageId → other = row := fun other member same =>
      inj_on_of_nodup_map represents.keys member (mem_of_find?_eq_some first)
        (same.trans key.symm)
    have violates : ((tables.messages.filter fun other =>
          other.clientMessageId ≠ clientMessageId).any
        (ofStored (acceptedRow messageId conversationSeq row)).collides) =
          repository.acceptViolates clientMessageId messageId conversationSeq := by
      rw [represents.messages, filter_map, any_map, Bool.eq_iff_iff]
      simp only [comp_def, collides_ofStored, acceptViolates, any_eq_true, mem_filter,
        decide_eq_true_eq]
      constructor
      · rintro ⟨other, ⟨member, different⟩, collides⟩
        refine ⟨row, mem_of_find?_eq_some first, key, other, member, different, ?_⟩
        grind [StoredMessage.collides, acceptedRow, ofStored]
      · rintro ⟨same, sameMember, sameKey, other, member, different, collides⟩
        obtain rfl := unique same sameMember sameKey
        refine ⟨other, ⟨member, different⟩, ?_⟩
        grind [StoredMessage.collides, acceptedRow]
    have changed := represents.change clientMessageId
      (fun row => { row with
        messageId := some messageId, conversationSeq := some conversationSeq,
        deliveryState := .accepted })
      (acceptedRow messageId conversationSeq) (fun _ => rfl) (fun _ => rfl)
    simp only [Option.map_some]
    split
    · rename_i collides
      rw [if_pos (violates.symm.trans collides)]
      exact .none
    · rename_i holds
      rw [if_neg fun wrong => holds (violates.trans wrong)]
      exact .some changed

end

/-! ### Calls -/

/-- The call reports failure, or is the write of the other model. -/
def Writes (reply : Bool × SqliteClientRepository) (written : Option Repository) : Prop :=
  reply.1 → ∃ after, written = some after ∧ Represents reply.2.connection.tables after

section

variable {client : SqliteClientRepository} {repository : Repository} {faults : Faults}

/-- It is enough that the statements, if none fails from outside, go through if the write does. -/
theorem writes_transact {undo : Bool} {program : List (Statement Tables)}
    {written : Option Repository}
    (agrees : Option.Rel Represents (effect program client.connection.tables) written) :
    Writes (client.transact undo program faults) written := by
  intro succeeded
  unfold SqliteClientRepository.transact at succeeded ⊢
  split at succeeded
  · rename_i ready
    obtain ⟨-, after, done, reached⟩ := Connection.atomically_done succeeded
    rw [done] at agrees
    cases agrees with | some represents =>
    rw [if_pos ready]
    refine ⟨_, rfl, ?_⟩
    change Represents (client.connection.atomically undo program faults).2.tables _
    rw [reached]
    exact represents
  · cases succeeded

variable (represents : Represents client.connection.tables repository)
include represents

theorem writes_enqueueOutgoing (conversationId : String) (message : Client.MessageRecord)
    (now : Int) :
    Writes (client.enqueueOutgoing conversationId (ofRecord message) now faults)
      (repository.enqueueOutgoing conversationId message) := by
  refine writes_transact ?_
  have inserts := insertMessage_represents represents conversationId message false
  rw [effect]
  unfold Repository.enqueueOutgoing
  generalize insertMessage (some conversationId) (ofRecord message) false
    client.connection.tables = written at inserts ⊢
  cases done : repository.insertMessage conversationId message false with
  | none =>
    rw [done] at inserts
    cases inserts
    exact .none
  | some inserted =>
    rw [done] at inserts
    cases inserts with | @some written _ next =>
    have stored : ⟨conversationId, message⟩ ∈ inserted.messages := by
      grind [Repository.insertMessage]
    have queued : (written.outbox.any fun row =>
        row.clientMessageId = (ofRecord message).clientMessageId) =
          decide (message.clientMessageId ∈ inserted.outbox) := by
      rw [← next.outbox, Bool.eq_iff_iff]
      simp only [any_eq_true, decide_eq_true_eq, mem_map]
      rfl
    have present : written.messages.any fun row =>
        row.clientMessageId = (ofRecord message).clientMessageId := by
      rw [next.messages, any_map]
      exact any_eq_true.mpr ⟨_, stored, decide_eq_true rfl⟩
    simp only [Option.bind_some, effect, insertOutbox, queued, present, decide_eq_true_eq, if_true]
    split_ifs
    · exact .none
    · have entered : Represents
          { written with outbox := written.outbox ++ [⟨message.clientMessageId, now, 0⟩] }
          { inserted with outbox := inserted.outbox ++ [message.clientMessageId] } :=
        { next with outbox := by simp [next.outbox] }
      obtain ⟨after, shown, result⟩ := setPreview_represents entered (some conversationId)
        message.body message.timestamp
      simp only [Option.bind_some, ofRecord, shown]
      exact .some result

theorem writes_updateDeliveryState (clientMessageId : Int) (state : MessageDeliveryState) :
    Writes (client.updateDeliveryState clientMessageId state faults)
      (repository.updateDeliveryState clientMessageId state) := by
  refine writes_transact ?_
  have changed := represents.change clientMessageId
    (fun row => { row with deliveryState := state })
    (fun row => { row with record := { row.record with deliveryState := state } })
    (fun _ => rfl) (fun _ => rfl)
  unfold updateDeliveryState leavesOutbox
  simp only [decide_eq_true_eq]
  split_ifs
  · exact .some (changed.deleteOutbox clientMessageId)
  · exact .some changed

theorem writes_acceptOutgoing (clientMessageId : Int) (messageId : Nat) (conversationId : String)
    (conversationSeq : Nat) (now : Int) :
    Writes
      (client.acceptOutgoing clientMessageId messageId conversationId conversationSeq now faults)
      (repository.acceptOutgoing clientMessageId messageId conversationId conversationSeq) := by
  refine writes_transact ?_
  have accepts := setAccepted_represents represents clientMessageId messageId conversationSeq
  rw [effect]
  unfold acceptOutgoing
  generalize setAccepted clientMessageId messageId conversationSeq client.connection.tables =
    accepted at accepts ⊢
  split
  · rename_i violates
    rw [if_pos violates] at accepts
    cases accepts
    exact .none
  · rename_i holds
    rw [if_neg holds] at accepts
    cases accepts with | some next =>
    exact .some ((next.raiseCursor conversationId conversationSeq
      (storedCursor_raise _ _ now _)).deleteOutbox clientMessageId)

theorem writes_applyIncomingBatch (conversationId : String)
    (messages : List Client.MessageRecord) (nextCursor : Nat) (now : Int) :
    Writes
      (client.applyIncomingBatch conversationId (messages.map ofRecord) nextCursor now faults)
      (repository.applyIncomingBatch conversationId messages nextCursor) := by
  refine writes_transact ?_
  have inserts := insertAll_represents represents conversationId messages
  rw [effect_append]
  unfold applyIncomingBatch
  generalize effect ((messages.map ofRecord).map (insertMessage (some conversationId) · true))
    client.connection.tables = written at inserts ⊢
  generalize insertAll conversationId messages repository = inserted at inserts ⊢
  cases inserts with
  | none => exact .none
  | some next =>
    exact .some (next.raiseCursor conversationId nextCursor (storedCursor_advance _ _ now _))

end

end Wimi.Client.Sqlite
