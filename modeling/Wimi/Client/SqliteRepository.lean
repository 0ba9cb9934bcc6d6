/-
This file models the operations of `SqliteClientRepository` that open a transaction,
statement by statement.

A text of the client that was never set is a null `QString`; it is bound as NULL, so
every text that comes in is optional and a NOT NULL column refuses a missing one. The
constraints of the tables decide whether a statement goes through; beside them every
statement, BEGIN and COMMIT can fail for an outside reason, such as a lock held by
another process or a full disk.

All six operations undo the transaction when a statement fails. When COMMIT fails,
three of them do so as well. The other three only report the failure: the transaction
stays open, and until the connection is closed no operation can begin its own.
-/

import Wimi.Lib.Transaction
import Wimi.Client.Repository

namespace Wimi.Client.Sqlite

open List Option Transaction

/-! ### Records and tables -/

abbrev Text := Option String

structure MessageRecord where
  clientMessageId : Int
  messageId : Option Int := none
  conversationSeq : Option Int := none
  senderId : Text := none
  body : Text := none
  timestamp : Text := none
  outgoing : Bool := false
  deliveryState : MessageDeliveryState := .accepted
deriving DecidableEq, Repr

structure ContactRecord where
  userId : Text := none
  displayName : Text := none
  statusText : Text := none
  avatarColor : Text := none
  online : Bool := false
  favorite : Bool := false
deriving DecidableEq, Repr

open ContactRecord

structure RequestRecord where
  requestId : Text := none
  displayName : Text := none
  message : Text := none
  avatarColor : Text := none
  kind : Text := none
  status : Text := none
deriving DecidableEq, Repr

/-- The columns of `conversations` that the operations read or write. A text primary key of
SQLite can be NULL. -/
structure ConversationRow where
  conversationId : Text
  preview : String := ""
  timestamp : String := ""
deriving DecidableEq, Repr

structure MessageRow where
  clientMessageId : Int
  messageId : Option Int
  conversationId : String
  conversationSeq : Option Int
  senderId : String
  body : String
  timestamp : String
  outgoing : Bool
  deliveryState : MessageDeliveryState
deriving DecidableEq, Repr

structure OutboxRow where
  clientMessageId : Int
  createdAt : Int
  attemptCount : Int := 0
deriving DecidableEq, Repr

structure SyncRow where
  scope : String
  cursor : Int
  updatedAt : Int
deriving DecidableEq, Repr

structure ContactRow where
  userId : Text
  displayName : String
  statusText : String
  avatarColor : String
  online : Bool
  favorite : Bool
deriving DecidableEq, Repr

structure RequestRow where
  requestId : Text
  displayName : String
  message : String
  avatarColor : String
  kind : String
  status : String
  localOrder : Nat
deriving DecidableEq, Repr

structure Tables where
  conversations : List ConversationRow := []
  messages : List MessageRow := []
  outbox : List OutboxRow := []
  syncState : List SyncRow := []
  contacts : List ContactRow := []
  requests : List RequestRow := []
deriving DecidableEq, Repr

structure SqliteClientRepository where
  ready : Bool := true
  connection : Connection Tables := { tables := {} }
deriving DecidableEq, Repr

/-! ### Statements on messages -/

/-- The row a record is bound to, unless a NOT NULL column gets NULL. -/
def MessageRecord.row (message : MessageRecord) (conversationId : Text) : Option MessageRow := do
  let conversationId ← conversationId
  let senderId ← message.senderId
  let body ← message.body
  let timestamp ← message.timestamp
  return {
    clientMessageId := message.clientMessageId
    messageId := message.messageId
    conversationId
    conversationSeq := message.conversationSeq
    senderId
    body
    timestamp
    outgoing := message.outgoing
    deliveryState := message.deliveryState }

def MessageRow.collides (row other : MessageRow) : Bool :=
  row.clientMessageId = other.clientMessageId ∨
    (row.messageId.isSome ∧ row.messageId = other.messageId) ∨
    (row.conversationId = other.conversationId ∧ row.conversationSeq.isSome ∧
      row.conversationSeq = other.conversationSeq)

/-- `InsertMessage`. OR IGNORE skips a row that breaks a unique key or a NOT NULL column; a
missing conversation fails the statement all the same. -/
def insertMessage (conversationId : Text) (message : MessageRecord) (ignoreDuplicate : Bool) :
    Statement Tables := fun tables =>
  match message.row conversationId with
  | none => if ignoreDuplicate then some tables else none
  | some row =>
    if tables.messages.any row.collides then
      if ignoreDuplicate then some tables else none
    else if tables.conversations.any fun conversation =>
        conversation.conversationId = conversationId
      then some { tables with messages := tables.messages ++ [row] }
    else none

def setDeliveryState (clientMessageId : Int) (state : MessageDeliveryState) : Statement Tables :=
  fun tables =>
    some { tables with
      messages := tables.messages.map fun row =>
        if row.clientMessageId = clientMessageId then { row with deliveryState := state } else row }

def setAccepted (clientMessageId messageId conversationSeq : Int) : Statement Tables :=
  fun tables =>
    let accepted := fun row : MessageRow =>
      { row with
        messageId := some messageId
        conversationSeq := some conversationSeq
        deliveryState := .accepted }
    let others := tables.messages.filter fun row => row.clientMessageId ≠ clientMessageId
    match tables.messages.find? fun row => row.clientMessageId = clientMessageId with
    | none => some tables
    | some row =>
      if others.any (accepted row).collides then none
      else some { tables with
        messages := tables.messages.map fun row =>
          if row.clientMessageId = clientMessageId then accepted row else row }

def setPreview (conversationId body timestamp : Text) : Statement Tables := fun tables =>
  let selected := fun row : ConversationRow =>
    conversationId.isSome && row.conversationId = conversationId
  if tables.conversations.any selected then
    match body, timestamp with
    | some body, some timestamp =>
      some { tables with
        conversations := tables.conversations.map fun row =>
          if selected row then { row with preview := body, timestamp } else row }
    | _, _ => none
  else some tables

/-! ### Statements on the outbox and the cursors -/

def insertOutbox (clientMessageId now : Int) : Statement Tables := fun tables =>
  if tables.outbox.any fun row => row.clientMessageId = clientMessageId then none
  else if tables.messages.any fun row => row.clientMessageId = clientMessageId then
    some { tables with
      outbox := tables.outbox ++ [{ clientMessageId, createdAt := now }] }
  else none

def deleteOutbox (clientMessageId : Int) : Statement Tables := fun tables =>
  some { tables with
    outbox := tables.outbox.filter fun row => row.clientMessageId ≠ clientMessageId }

def cursorScope (conversationId : Text) : String :=
  "conversation:" ++ conversationId.getD ""

def upsert (new : SyncRow) (merge : SyncRow → SyncRow) (rows : List SyncRow) : List SyncRow :=
  if rows.any fun row => row.scope = new.scope then
    rows.map fun row => if row.scope = new.scope then merge row else row
  else rows ++ [new]

def raiseCursor (conversationId : Text) (cursor now : Int) : Statement Tables := fun tables =>
  some { tables with
    syncState := upsert { scope := cursorScope conversationId, cursor, updatedAt := now }
      (fun row => { row with cursor := max row.cursor cursor, updatedAt := now })
      tables.syncState }

def advanceCursor (conversationId : Text) (cursor now : Int) : Statement Tables := fun tables =>
  some { tables with
    syncState := upsert { scope := cursorScope conversationId, cursor, updatedAt := now }
      (fun row => if row.cursor ≤ cursor then { row with cursor, updatedAt := now }
        else row)
      tables.syncState }

/-! ### Statements on contacts and requests -/

def ContactRecord.row (contact : ContactRecord) : Option ContactRow := do
  let displayName ← contact.displayName
  let statusText ← contact.statusText
  let avatarColor ← contact.avatarColor
  return {
    userId := contact.userId
    displayName
    statusText
    avatarColor
    online := contact.online
    favorite := contact.favorite }

def RequestRecord.row (request : RequestRecord) (order : Nat) : Option RequestRow := do
  let displayName ← request.displayName
  let message ← request.message
  let avatarColor ← request.avatarColor
  let kind ← request.kind
  let status ← request.status
  return {
    requestId := request.requestId
    displayName
    message
    avatarColor
    kind
    status
    localOrder := order }

def insertKeyed {Row : Type} (key : Row → Text) (row : Row) (rows : List Row) :
    Option (List Row) :=
  match key row with
  | none => some (rows ++ [row])
  | some text => if text ∈ rows.filterMap key then none else some (rows ++ [row])

def clearContacts : Statement Tables := fun tables => some { tables with contacts := [] }

def insertContact (contact : ContactRecord) : Statement Tables := fun tables =>
  contact.row.bind fun row =>
    (insertKeyed ContactRow.userId row tables.contacts).map fun rows =>
      { tables with contacts := rows }

def clearRequests : Statement Tables := fun tables => some { tables with requests := [] }

def insertRequest (request : RequestRecord × Nat) : Statement Tables := fun tables =>
  (request.1.row request.2).bind fun row =>
    (insertKeyed RequestRow.requestId row tables.requests).map fun rows =>
      { tables with requests := rows }

/-! ### Operations -/

namespace SqliteClientRepository

variable (repository : SqliteClientRepository)

def transact (undo : Bool) (program : List (Statement Tables)) (faults : Faults) :
    Bool × SqliteClientRepository :=
  if repository.ready then
    let result := repository.connection.atomically undo program faults
    (result.1, { repository with connection := result.2 })
  else (false, repository)

def enqueueOutgoing (conversationId : Text) (message : MessageRecord) (now : Int) :
    Faults → Bool × SqliteClientRepository :=
  repository.transact true
    [insertMessage conversationId message false,
      insertOutbox message.clientMessageId now,
      setPreview conversationId message.body message.timestamp]

/-- A failed COMMIT is not undone. -/
def updateDeliveryState (clientMessageId : Int) (state : MessageDeliveryState) :
    Faults → Bool × SqliteClientRepository :=
  repository.transact false
    (setDeliveryState clientMessageId state ::
      if state = .accepted ∨ state = .delivered ∨ state = .read ∨ state = .permanentFailed then
        [deleteOutbox clientMessageId]
      else [])

def acceptOutgoing (clientMessageId messageId : Int) (conversationId : Text)
    (conversationSeq now : Int) : Faults → Bool × SqliteClientRepository :=
  repository.transact true
    [setAccepted clientMessageId messageId conversationSeq,
      raiseCursor conversationId conversationSeq now,
      deleteOutbox clientMessageId]

/-- A failed COMMIT is not undone. -/
def replaceContacts (contacts : List ContactRecord) : Faults → Bool × SqliteClientRepository :=
  repository.transact false (clearContacts :: contacts.map insertContact)

/-- A failed COMMIT is not undone. -/
def replaceRequests (requests : List RequestRecord) : Faults → Bool × SqliteClientRepository :=
  repository.transact false (clearRequests :: requests.zipIdx.map insertRequest)

def applyIncomingBatch (conversationId : Text) (messages : List MessageRecord)
    (nextCursor now : Int) : Faults → Bool × SqliteClientRepository :=
  repository.transact true
    (messages.map (insertMessage conversationId · true) ++
      [advanceCursor conversationId nextCursor now])

end SqliteClientRepository

/-- A call of one of the operations; `now` is the clock of the database. -/
inductive Operation where
  | enqueueOutgoing (conversationId : Text) (message : MessageRecord) (now : Int)
  | updateDeliveryState (clientMessageId : Int) (state : MessageDeliveryState)
  | acceptOutgoing (clientMessageId messageId : Int) (conversationId : Text)
    (conversationSeq now : Int)
  | replaceContacts (contacts : List ContactRecord)
  | replaceRequests (requests : List RequestRecord)
  | applyIncomingBatch (conversationId : Text) (messages : List MessageRecord)
    (nextCursor now : Int)
deriving DecidableEq, Repr

def SqliteClientRepository.perform (repository : SqliteClientRepository) :
    Operation → Faults → Bool × SqliteClientRepository
  | .enqueueOutgoing conversationId message now =>
    repository.enqueueOutgoing conversationId message now
  | .updateDeliveryState clientMessageId state =>
    repository.updateDeliveryState clientMessageId state
  | .acceptOutgoing clientMessageId messageId conversationId conversationSeq now =>
    repository.acceptOutgoing clientMessageId messageId conversationId conversationSeq now
  | .replaceContacts contacts => repository.replaceContacts contacts
  | .replaceRequests requests => repository.replaceRequests requests
  | .applyIncomingBatch conversationId messages nextCursor now =>
    repository.applyIncomingBatch conversationId messages nextCursor now

/-! ### Records that can be inserted -/

section Inserts

variable {Record Row : Type} (rowOf : Record → Option Row) (keyOf : Record → Text)
  (key : Row → Text) (get : Tables → List Row) (put : Tables → List Row → Tables)

/-- Records are inserted one after the other exactly if no required text is missing and no key
occurs twice or is in the table already. -/
theorem effect_inserts_isSome_iff (stored : ∀ tables rows, get (put tables rows) = rows)
    (keys : ∀ record row, rowOf record = some row → key row = keyOf record)
    (records : List Record) (tables : Tables) :
    (effect (records.map fun record tables =>
        (rowOf record).bind fun row => (insertKeyed key row (get tables)).map (put tables))
      tables).isSome ↔
      (∀ record ∈ records, (rowOf record).isSome) ∧ (records.filterMap keyOf).Nodup ∧
        ∀ text ∈ records.filterMap keyOf, text ∉ (get tables).filterMap key := by
  induction records generalizing tables with
  | nil => simp [effect]
  | cons record rest inductionHypothesis =>
    rw [map_cons, effect]
    cases bound : rowOf record with
    | none => simp [bound]
    | some row =>
      have same := keys record row bound
      cases found : key row with
      | none =>
        -- A NULL key is equal to no other, so the row only makes the table longer.
        have inserted : insertKeyed key row (get tables) = some (get tables ++ [row]) := by
          simp only [insertKeyed, found]
        have free : keyOf record = none := same.symm.trans found
        rw [bind_some, inserted, map_some, bind_some, inductionHypothesis, stored,
          filterMap_append, filterMap_cons_none found, filterMap_cons_none free]
        simp [bound]
      | some text =>
        have taken : keyOf record = some text := same.symm.trans found
        rw [bind_some, filterMap_cons_some taken, forall_mem_cons,
          forall_mem_cons, nodup_cons]
        by_cases present : text ∈ (get tables).filterMap key
        · have refused : insertKeyed key row (get tables) = none := by
            simp only [insertKeyed, found, if_pos present]
          rw [refused]
          simp [present]
        have inserted : insertKeyed key row (get tables) = some (get tables ++ [row]) := by
          simp only [insertKeyed, found, if_neg present]
        rw [inserted, map_some, bind_some, inductionHypothesis, stored,
          filterMap_append, filterMap_cons_some found, filterMap_nil]
        simp only [bound, isSome_some, true_and, mem_append, mem_singleton,
          not_or, present, not_false_eq_true]
        constructor
        · grind
        · grind

end Inserts

def ContactRecord.Complete (contact : ContactRecord) : Prop :=
  contact.displayName ≠ none ∧ contact.statusText ≠ none ∧ contact.avatarColor ≠ none

def RequestRecord.Complete (request : RequestRecord) : Prop :=
  request.displayName ≠ none ∧ request.message ≠ none ∧ request.avatarColor ≠ none ∧
    request.kind ≠ none ∧ request.status ≠ none

theorem ContactRecord.isSome_row_iff (contact : ContactRecord) :
    contact.row.isSome ↔ contact.Complete := by
  obtain ⟨_, displayName, statusText, avatarColor, _, _⟩ := contact
  cases displayName <;> cases statusText <;> cases avatarColor <;>
    simp [row, ContactRecord.Complete]

theorem ContactRecord.userId_row {contact : ContactRecord} {row : ContactRow}
    (bound : contact.row = some row) : row.userId = contact.userId := by
  simp only [ContactRecord.row, bind, bind_eq_some_iff, pure, some.injEq] at bound
  obtain ⟨_, -, _, -, _, -, rfl⟩ := bound
  rfl

theorem RequestRecord.isSome_row_iff (request : RequestRecord) (order : Nat) :
    (request.row order).isSome ↔ request.Complete := by
  obtain ⟨_, displayName, message, avatarColor, kind, status⟩ := request
  cases displayName <;> cases message <;> cases avatarColor <;> cases kind <;> cases status <;>
    simp [RequestRecord.row, RequestRecord.Complete]

theorem RequestRecord.requestId_row {request : RequestRecord} {order : Nat} {row : RequestRow}
    (bound : request.row order = some row) : row.requestId = request.requestId := by
  simp only [RequestRecord.row, bind, bind_eq_some_iff, pure, some.injEq] at bound
  obtain ⟨_, -, _, -, _, -, _, -, _, -, rfl⟩ := bound
  rfl

def AcceptableContacts (contacts : List ContactRecord) : Prop :=
  (∀ contact ∈ contacts, contact.Complete) ∧ (contacts.filterMap userId).Nodup

def AcceptableRequests (requests : List RequestRecord) : Prop :=
  (∀ request ∈ requests, request.Complete) ∧ (requests.filterMap RequestRecord.requestId).Nodup

theorem effect_replaceContacts_isSome_iff (contacts : List ContactRecord) (tables : Tables) :
    (effect (clearContacts :: contacts.map insertContact) tables).isSome ↔
      AcceptableContacts contacts := by
  have inserts := effect_inserts_isSome_iff row userId
    ContactRow.userId Tables.contacts (fun tables rows => { tables with contacts := rows })
    (fun _ _ => rfl) (fun _ _ => userId_row) contacts { tables with contacts := [] }
  simp only [isSome_row_iff, filterMap_nil, not_mem_nil,
    not_false_eq_true, implies_true, and_true] at inserts
  exact inserts

theorem effect_replaceRequests_isSome_iff (requests : List RequestRecord) (tables : Tables) :
    (effect (clearRequests :: requests.zipIdx.map insertRequest) tables).isSome ↔
      AcceptableRequests requests := by
  have inserts := effect_inserts_isSome_iff (fun request => request.1.row request.2)
    (fun request : RequestRecord × Nat => request.1.requestId) RequestRow.requestId Tables.requests
    (fun tables rows => { tables with requests := rows }) (fun _ _ => rfl)
    (fun _ _ => RequestRecord.requestId_row) requests.zipIdx { tables with requests := [] }
  -- The places are only bound to `local_order`; the records are those of the list.
  have records : requests.zipIdx.map Prod.fst = requests := zipIdx_map_fst 0 requests
  have complete : (∀ request ∈ requests.zipIdx, request.1.Complete) ↔
      ∀ request ∈ requests, request.Complete := by
    rw [← List.forall_mem_map (f := Prod.fst), records]
  have identities : requests.zipIdx.filterMap (fun request => request.1.requestId) =
      requests.filterMap RequestRecord.requestId := by
    conv_rhs => rw [← records, filterMap_map]
    rfl
  simp only [RequestRecord.isSome_row_iff, complete, identities, filterMap_nil,
    not_mem_nil, not_false_eq_true, implies_true, and_true] at inserts
  exact inserts

/-! ### Operations that fail -/

/-- What a failed operation should be: the tables are as before and no transaction is open. -/
def Traceless (before after : SqliteClientRepository) : Prop :=
  after.connection.tables = before.connection.tables ∧ after.connection.saved = none

theorem transact_traceless_iff (repository : SqliteClientRepository) (undo : Bool)
    (program : List (Statement Tables)) (faults : Faults) :
    ((repository.transact undo program faults).1 = false →
        Traceless repository (repository.transact undo program faults).2) ↔
      repository.connection.saved = none ∧
        ¬ (repository.ready = true ∧
          Connection.Stranded undo program faults repository.connection.tables) := by
  cases ready : repository.ready with
  | false => simp [SqliteClientRepository.transact, ready, Traceless]
  | true =>
    have traceless := repository.connection.atomically_traceless_iff undo program faults
    simp only [SqliteClientRepository.transact, ready, if_true, Traceless, true_and]
    rw [← traceless]
    rw [Connection.mk.injEq]

/-- COMMIT is reached and fails in one of the operations that do not undo it. -/
def CommitLeftOpen (repository : SqliteClientRepository) (operation : Operation)
    (faults : Faults) : Prop :=
  repository.ready = true ∧ faults.start = false ∧ faults.commit = true ∧
    match operation with
    | .updateDeliveryState _ state =>
      Undisturbed faults.statement
        (if state = .accepted ∨ state = .delivered ∨ state = .read ∨ state = .permanentFailed
          then 2 else 1)
    | .replaceContacts contacts =>
      AcceptableContacts contacts ∧ Undisturbed faults.statement (contacts.length + 1)
    | .replaceRequests requests =>
      AcceptableRequests requests ∧ Undisturbed faults.statement (requests.length + 1)
    | .enqueueOutgoing .. | .acceptOutgoing .. | .applyIncomingBatch .. => False

theorem not_stranded_of_undo (program : List (Statement Tables)) (faults : Faults)
    (tables : Tables) : ¬ Connection.Stranded true program faults tables :=
  fun stranded => Bool.noConfusion stranded.1

theorem stranded_updateDeliveryState_iff (clientMessageId : Int) (state : MessageDeliveryState)
    (faults : Faults) (tables : Tables) :
    Connection.Stranded false
        (setDeliveryState clientMessageId state ::
          if state = .accepted ∨ state = .delivered ∨ state = .read ∨ state = .permanentFailed then
            [deleteOutbox clientMessageId]
          else []) faults tables ↔
      faults.start = false ∧ faults.commit = true ∧ Undisturbed faults.statement
        (if state = .accepted ∨ state = .delivered ∨ state = .read ∨ state = .permanentFailed
          then 2 else 1) := by
  split_ifs with settles
  · simp [Connection.Stranded, effect, setDeliveryState, deleteOutbox, and_comm]
  · simp [Connection.Stranded, effect, setDeliveryState, and_comm]

theorem stranded_replaceContacts_iff (contacts : List ContactRecord) (faults : Faults)
    (tables : Tables) :
    Connection.Stranded false (clearContacts :: contacts.map insertContact) faults tables ↔
      faults.start = false ∧ faults.commit = true ∧ AcceptableContacts contacts ∧
        Undisturbed faults.statement (contacts.length + 1) := by
  rw [Connection.Stranded, effect_replaceContacts_isSome_iff, length_cons, length_map]
  tauto

theorem stranded_replaceRequests_iff (requests : List RequestRecord) (faults : Faults)
    (tables : Tables) :
    Connection.Stranded false (clearRequests :: requests.zipIdx.map insertRequest) faults tables ↔
      faults.start = false ∧ faults.commit = true ∧ AcceptableRequests requests ∧
        Undisturbed faults.statement (requests.length + 1) := by
  rw [Connection.Stranded, effect_replaceRequests_isSome_iff, length_cons, length_map,
    length_zipIdx]
  tauto

/-- Every operation, at whatever point it fails: a failure is reported with the tables as before
and no transaction open, exactly if none was open before the call and the call is not one whose
failed COMMIT is left alone. -/
theorem failed_operation_traceless_iff (repository : SqliteClientRepository)
    (operation : Operation) (faults : Faults) :
    ((repository.perform operation faults).1 = false →
        Traceless repository (repository.perform operation faults).2) ↔
      repository.connection.saved = none ∧ ¬ CommitLeftOpen repository operation faults := by
  cases operation with
  | enqueueOutgoing | acceptOutgoing | applyIncomingBatch =>
    refine (transact_traceless_iff repository true _ faults).trans (and_congr_right fun _ => ?_)
    simp [CommitLeftOpen, not_stranded_of_undo]
  | updateDeliveryState clientMessageId state =>
    refine (transact_traceless_iff repository false _ faults).trans (and_congr_right fun _ => ?_)
    rw [stranded_updateDeliveryState_iff, CommitLeftOpen]
  | replaceContacts contacts =>
    refine (transact_traceless_iff repository false _ faults).trans (and_congr_right fun _ => ?_)
    rw [stranded_replaceContacts_iff, CommitLeftOpen]
  | replaceRequests requests =>
    refine (transact_traceless_iff repository false _ faults).trans (and_congr_right fun _ => ?_)
    rw [stranded_replaceRequests_iff, CommitLeftOpen]

/-- The state of a message is changed while the COMMIT fails: `UpdateDeliveryState` reports the
failure with the transaction still open and the change in it, and the next operation, with
nothing failing, cannot begin. -/
theorem failed_commit_left_open :
    let row : MessageRow :=
      { clientMessageId := -1, messageId := none, conversationId := "direct:2",
        conversationSeq := none, senderId := "me", body := "hello", timestamp := "14:00",
        outgoing := true, deliveryState := .pendingLocal }
    let tables : Tables :=
      { conversations := [{ conversationId := some "direct:2" }], messages := [row],
        outbox := [{ clientMessageId := -1, createdAt := 7 }] }
    let before : SqliteClientRepository := { connection := { tables := tables } }
    let failed := before.updateDeliveryState (-1) .waitingAccept { commit := true }
    failed.1 = false ∧
      failed.2.connection.tables ≠ before.connection.tables ∧
      failed.2.connection.saved = some tables ∧
      ¬ Traceless before failed.2 ∧
      (failed.2.acceptOutgoing (-1) 41 (some "direct:2") 3 8 {}).1 = false ∧
      (before.acceptOutgoing (-1) 41 (some "direct:2") 3 8 {}).1 = true := by
  refine ⟨rfl, by decide, rfl, fun traceless => ?_, rfl, by decide⟩
  exact absurd traceless.2 (some_ne_none _)

end Wimi.Client.Sqlite
