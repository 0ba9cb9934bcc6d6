/-
This file proves what runs of `ApplyIncomingBatch` and `AcceptOutgoing` do to the
messages and to the sync cursors.

Both operations either do their whole program or leave the tables alone, so a cursor
is the maximum of the values that were committed for it, although its two writers
have different rules. A message of a batch that went in collides with its own row
from then on: the second time the batch changes nothing.

A batch that reports success should have its messages in the table. It does so for
messages whose texts are all set. A null text breaks a NOT NULL column, OR IGNORE
skips the row as if it were there already, and the cursor moves past it.
-/

import Wimi.Client.SqliteRepository

namespace Wimi.Client.Sqlite

open Function List Option Transaction

/-! ### Calls and cursors -/

inductive SyncCall where
  | applyIncomingBatch (conversationId : Text) (messages : List MessageRecord)
    (nextCursor now : Int)
  | acceptOutgoing (clientMessageId messageId : Int) (conversationId : Text)
    (conversationSeq now : Int)
deriving DecidableEq, Repr

namespace SyncCall

def operation : SyncCall → Operation
  | applyIncomingBatch conversationId messages nextCursor now =>
    .applyIncomingBatch conversationId messages nextCursor now
  | acceptOutgoing clientMessageId messageId conversationId conversationSeq now =>
    .acceptOutgoing clientMessageId messageId conversationId conversationSeq now

def conversationId : SyncCall → Text
  | applyIncomingBatch conversationId .. => conversationId
  | acceptOutgoing _ _ conversationId .. => conversationId

def cursor : SyncCall → Int
  | applyIncomingBatch _ _ nextCursor _ => nextCursor
  | acceptOutgoing _ _ _ conversationSeq _ => conversationSeq

def IsBatch : SyncCall → Prop
  | applyIncomingBatch .. => True
  | acceptOutgoing .. => False

def program : SyncCall → List (Statement Tables)
  | applyIncomingBatch conversationId messages nextCursor now =>
    messages.map (insertMessage conversationId · true) ++
      [advanceCursor conversationId nextCursor now]
  | acceptOutgoing clientMessageId messageId conversationId conversationSeq now =>
    [setAccepted clientMessageId messageId conversationSeq,
      raiseCursor conversationId conversationSeq now,
      deleteOutbox clientMessageId]

end SyncCall

namespace SqliteClientRepository

def syncCursor (repository : SqliteClientRepository) (conversationId : Text) : Int :=
  match repository.connection.tables.syncState.find?
      fun row => row.scope = cursorScope conversationId with
  | none => 0
  | some row => row.cursor

def call (repository : SqliteClientRepository) (call : SyncCall × Faults) :
    Bool × SqliteClientRepository :=
  repository.perform call.1.operation call.2

def runCalls (repository : SqliteClientRepository) : List (SyncCall × Faults) →
    SqliteClientRepository
  | [] => repository
  | first :: rest => (repository.call first).2.runCalls rest

def committed (conversationId : Text) (repository : SqliteClientRepository) :
    List (SyncCall × Faults) → List Int
  | [] => []
  | first :: rest =>
    let later := (repository.call first).2.committed conversationId rest
    if (repository.call first).1 ∧ cursorScope first.1.conversationId = cursorScope conversationId
    then first.1.cursor :: later
    else later

end SqliteClientRepository

open SqliteClientRepository

def storedCursor (rows : List SyncRow) (scope : String) : WithBot Int :=
  match rows.find? fun row => row.scope = scope with
  | none => ⊥
  | some row => row.cursor

def SqliteClientRepository.storedCursor (repository : SqliteClientRepository)
    (conversationId : Text) : WithBot Int :=
  Sqlite.storedCursor repository.connection.tables.syncState (cursorScope conversationId)

theorem find?_merge {new : SyncRow} {merge : SyncRow → SyncRow}
    (kept : ∀ row, (merge row).scope = row.scope) (rows : List SyncRow) (scope : String) :
    ((rows.map fun row => if row.scope = new.scope then merge row else row).find?
        fun row => row.scope = scope) =
      (rows.find? fun row => row.scope = scope).map
        fun row => if row.scope = new.scope then merge row else row := by
  rw [find?_map]
  congr 2
  funext row
  simp only [comp_apply]
  split_ifs
  · rw [kept]
  · rfl

def highest (start : WithBot Int) : List Int → WithBot Int
  | [] => start
  | value :: rest => highest (max start value) rest

/-- The two rules for a cursor that is there come to the same value. -/
theorem storedCursor_upsert {new : SyncRow} {merge : SyncRow → SyncRow}
    (kept : ∀ row, (merge row).scope = row.scope)
    (merged : ∀ row, (merge row).cursor = max row.cursor new.cursor) (rows : List SyncRow)
    (scope : String) :
    storedCursor (upsert new merge rows) scope =
      if scope = new.scope then max (storedCursor rows scope) new.cursor
      else storedCursor rows scope := by
  simp only [upsert]
  split_ifs with present same same
  · -- The row is there, and the first one under the scope is the one that is found.
    subst same
    have located : (rows.find? fun row => row.scope = new.scope).isSome :=
      find?_isSome.mpr (any_eq_true.mp present)
    obtain ⟨first, found⟩ := isSome_iff_exists.mp located
    have named : first.scope = new.scope := by simpa using find?_some found
    simp only [storedCursor, find?_merge kept, found, map_some, if_pos named, merged]
    rfl
  · simp only [storedCursor, find?_merge kept]
    cases found : rows.find? fun row => row.scope = scope with
    | none => rfl
    | some first => grind
  · subst same
    have missing : (rows.find? fun row => row.scope = new.scope) = none := by grind
    simp [storedCursor, missing]
  · have other : ¬ new.scope = scope := fun equal => same equal.symm
    simp [storedCursor, other]

/-! ### The statements of a call -/

variable {message : MessageRecord} {messages : List MessageRecord} {calls : List (SyncCall × Faults)}
  {conversationId : Text} {before after : Tables} {row : MessageRow}

theorem insertMessage_eq_some
    (done : insertMessage conversationId message true before = some after) :
    after = before ∨ ∃ row, message.row conversationId = some row ∧
      after = { before with messages := before.messages ++ [row] } := by
  simp only [insertMessage] at done
  split at done
  · exact .inl (some.inj done).symm
  · grind

def Held (conversationId : Text) (message : MessageRecord) (tables : Tables) : Prop :=
  ∀ row, message.row conversationId = some row → ∃ stored ∈ tables.messages, row.collides stored

theorem MessageRow.collides_self (row : MessageRow) : row.collides row := by
  simp [MessageRow.collides]

theorem insertMessage_stored (done : insertMessage conversationId message true before = some after)
    (bound : message.row conversationId = some row) :
    row ∈ after.messages ∨ ∃ stored ∈ before.messages, row.collides stored := by
  simp only [insertMessage, bound] at done
  split_ifs at done with collides known
  · exact .inr (any_eq_true.mp collides)
  · obtain rfl := some.inj done
    exact .inl (mem_append_right _ mem_cons_self)

theorem insertMessage_of_held {tables : Tables} (held : Held conversationId message tables) :
    insertMessage conversationId message true tables = some tables := by
  simp only [insertMessage]
  split
  · rfl
  rename_i row bound
  rw [if_pos (any_eq_true.mpr (held row bound))]
  rfl

def Extends (before after : Tables) : Prop :=
  before.messages ⊆ after.messages ∧
    ∀ scope, storedCursor before.syncState scope ≤ storedCursor after.syncState scope

theorem Extends.refl (tables : Tables) : Extends tables tables :=
  ⟨List.Subset.refl _, fun _ => le_rfl⟩

theorem Extends.trans {first second third : Tables} (before : Extends first second)
    (after : Extends second third) : Extends first third :=
  ⟨List.Subset.trans before.1 after.1, fun scope => le_trans (before.2 scope) (after.2 scope)⟩

theorem Held.mono (held : Held conversationId message before)
    (more : before.messages ⊆ after.messages) : Held conversationId message after := by
  intro row bound
  obtain ⟨stored, member, collides⟩ := held row bound
  exact ⟨stored, more member, collides⟩

section

variable (done : effect (messages.map (insertMessage conversationId · true)) before = some after)
include done

theorem effect_inserts : before.messages ⊆ after.messages ∧ after.syncState = before.syncState := by
  refine effect_relation
    (fun before after => before.messages ⊆ after.messages ∧ after.syncState = before.syncState)
    (fun _ => ⟨List.Subset.refl _, rfl⟩)
    (by
      intro _ _ _ first second
      exact ⟨List.Subset.trans first.1 second.1, second.2.trans first.2⟩)
    (fun statement member tables next inserted => ?_) done
  obtain ⟨message, -, rfl⟩ := mem_map.mp member
  obtain rfl | ⟨row, -, rfl⟩ := insertMessage_eq_some inserted
  · exact ⟨List.Subset.refl _, rfl⟩
  · exact ⟨subset_append_left _ _, rfl⟩

/-- The batch adds no row but those of its messages as they are given. -/
theorem mem_inserts : ∀ stored ∈ after.messages, stored ∈ before.messages ∨
    ∃ message ∈ messages, message.row conversationId = some stored := by
  refine effect_relation
    (fun before after => ∀ stored ∈ after.messages, stored ∈ before.messages ∨
      ∃ message ∈ messages, message.row conversationId = some stored)
    (fun _ _ => .inl)
    (fun first second stored member => (second stored member).elim (first stored) .inr)
    (fun statement member tables next inserted => ?_) done
  obtain ⟨message, given, rfl⟩ := mem_map.mp member
  obtain rfl | ⟨row, bound, rfl⟩ := insertMessage_eq_some inserted
  · exact fun _ => .inl
  · intro stored present
    rcases mem_append.mp present with old | new
    · exact .inl old
    · obtain rfl := mem_singleton.mp new
      exact .inr ⟨message, given, bound⟩

/-- A message of the batch is stored as it is given, unless it collides with a row that was
there, from before or from an earlier message. -/
theorem stored_inserts {earlier later : List MessageRecord}
    (split : messages = earlier ++ message :: later)
    (bound : message.row conversationId = some row) :
    row ∈ after.messages ∨ ∃ stored ∈ after.messages, row.collides stored ∧
      (stored ∈ before.messages ∨
        ∃ other ∈ earlier, other.row conversationId = some stored) := by
  rw [split, map_append, effect_append] at done
  obtain ⟨reached, first, rest⟩ := bind_eq_some_iff.mp done
  obtain ⟨next, inserted, last⟩ := bind_eq_some_iff.mp rest
  rcases insertMessage_stored inserted bound with given | ⟨stored, present, collides⟩
  · exact .inl ((effect_inserts last).1 given)
  · have kept : reached.messages ⊆ after.messages :=
      (@effect_inserts (message :: later) _ _ _ rest).1
    exact .inr ⟨stored, kept present, collides, mem_inserts first stored present⟩

theorem held_inserts : ∀ message ∈ messages, Held conversationId message after := by
  intro message member row bound
  obtain ⟨earlier, later, split⟩ := append_of_mem member
  rcases stored_inserts done split bound with given | ⟨stored, present, collides, -⟩
  · exact ⟨row, given, row.collides_self⟩
  · exact ⟨stored, present, collides⟩

end

theorem effect_inserts_of_held (held : ∀ message ∈ messages, Held conversationId message before) :
    effect (messages.map (insertMessage conversationId · true)) before = some before := by
  induction messages with
  | nil => rfl
  | cons first rest inductionHypothesis =>
    grind [effect, insertMessage_of_held, mem_cons_self, mem_cons_of_mem]

theorem storedCursor_advance (conversationId : Text) (cursor now : Int) (tables : Tables)
    (scope : String) :
    storedCursor (upsert
        { scope := cursorScope conversationId, cursor, updatedAt := now }
        (fun row => if row.cursor ≤ cursor then { row with cursor, updatedAt := now }
          else row) tables.syncState) scope =
      if scope = cursorScope conversationId then max (storedCursor tables.syncState scope) cursor
      else storedCursor tables.syncState scope := by
  refine storedCursor_upsert (fun row => ?_) (fun row => ?_) tables.syncState scope
  · split_ifs <;> rfl
  · grind

theorem storedCursor_raise (conversationId : Text) (cursor now : Int) (tables : Tables)
    (scope : String) :
    storedCursor (upsert
        { scope := cursorScope conversationId, cursor, updatedAt := now }
        (fun row => { row with cursor := max row.cursor cursor, updatedAt := now })
        tables.syncState) scope =
      if scope = cursorScope conversationId then max (storedCursor tables.syncState scope) cursor
      else storedCursor tables.syncState scope := by
  refine storedCursor_upsert (fun row => ?_) (fun row => ?_) tables.syncState scope
  · rfl
  · rfl

theorem effect_accept_syncState {clientMessageId messageId conversationSeq : Int}
    (done : setAccepted clientMessageId messageId conversationSeq before = some after) :
    after.syncState = before.syncState := by
  simp only [setAccepted] at done
  split at done
  · rw [some.inj done]
  split_ifs at done
  obtain rfl := some.inj done
  rfl

/-- Whichever operation it is, the cursor of its conversation is raised to its value. -/
theorem storedCursor_program (call : SyncCall) (done : effect call.program before = some after)
    (scope : String) :
    storedCursor after.syncState scope =
      if scope = cursorScope call.conversationId
      then max (storedCursor before.syncState scope) call.cursor
      else storedCursor before.syncState scope := by
  cases call with
  | applyIncomingBatch conversationId messages nextCursor now =>
    rw [SyncCall.program, effect_append] at done
    obtain ⟨inserted, inserts, advanced⟩ := bind_eq_some_iff.mp done
    obtain rfl := some.inj advanced
    rw [storedCursor_advance, (effect_inserts inserts).2]
    rfl
  | acceptOutgoing clientMessageId messageId conversationId conversationSeq now =>
    obtain ⟨accepted, updated, later⟩ := bind_eq_some_iff.mp done
    obtain rfl := some.inj later
    rw [← effect_accept_syncState updated]
    exact storedCursor_raise conversationId conversationSeq now accepted scope

/-! ### Calls -/

namespace SqliteClientRepository

variable {repository : SqliteClientRepository} {call : SyncCall × Faults}

theorem call_eq_transact (repository : SqliteClientRepository) (call : SyncCall × Faults) :
    repository.call call = repository.transact true call.1.program call.2 := by
  obtain ⟨call, faults⟩ := call
  cases call <;> rfl

theorem call_failed (failed : (repository.call call).1 = false) :
    (repository.call call).2 = repository := by
  rw [call_eq_transact] at failed ⊢
  simp only [transact] at failed ⊢
  split_ifs at failed ⊢
  · rw [Connection.atomically_failed failed]
  · rfl

theorem call_done (done : (repository.call call).1 = true) :
    effect call.1.program repository.connection.tables =
      some (repository.call call).2.connection.tables := by
  rw [call_eq_transact] at done ⊢
  simp only [transact] at done ⊢
  split_ifs at done ⊢
  obtain ⟨-, after, effected, left⟩ := Connection.atomically_done done
  rw [left, effected]

theorem storedCursor_call (repository : SqliteClientRepository) (call : SyncCall × Faults)
    (conversationId : Text) :
    (repository.call call).2.storedCursor conversationId =
      if (repository.call call).1 ∧
          cursorScope call.1.conversationId = cursorScope conversationId
      then max (repository.storedCursor conversationId) call.1.cursor
      else repository.storedCursor conversationId := by
  cases done : (repository.call call).1 with
  | false => simp [call_failed done]
  | true =>
    simp only [true_and]
    rw [storedCursor, storedCursor_program call.1 (call_done done)]
    exact if_congr eq_comm rfl rfl

/-- The cursor of a conversation is the maximum of what it was and what was committed for it. -/
theorem storedCursor_runCalls (repository : SqliteClientRepository)
    (calls : List (SyncCall × Faults)) (conversationId : Text) :
    (repository.runCalls calls).storedCursor conversationId =
      highest (repository.storedCursor conversationId)
        (repository.committed conversationId calls) := by
  induction calls generalizing repository with
  | nil => rfl
  | cons first rest inductionHypothesis =>
    rw [runCalls, inductionHypothesis, storedCursor_call, committed]
    split_ifs <;> rfl

theorem le_highest (values : List Int) (start : WithBot Int) : start ≤ highest start values := by
  induction values generalizing start with
  | nil => exact le_rfl
  | cons first rest inductionHypothesis => exact le_trans (le_max_left _ _) (inductionHypothesis _)

theorem runCalls_append (repository : SqliteClientRepository)
    (earlier later : List (SyncCall × Faults)) :
    repository.runCalls (earlier ++ later) = (repository.runCalls earlier).runCalls later := by
  induction earlier generalizing repository with
  | nil => rfl
  | cons first rest inductionHypothesis => exact inductionHypothesis _

theorem storedCursor_le_runCalls (repository : SqliteClientRepository)
    (calls : List (SyncCall × Faults)) (conversationId : Text) :
    repository.storedCursor conversationId ≤
      (repository.runCalls calls).storedCursor conversationId := by
  rw [storedCursor_runCalls]
  exact le_highest _ _

theorem syncCursor_eq (repository : SqliteClientRepository) (conversationId : Text) :
    repository.syncCursor conversationId = (repository.storedCursor conversationId).unbotD 0 := by
  simp only [syncCursor, storedCursor, Sqlite.storedCursor]
  split <;> rfl

theorem forall_mem_committed {property : Int → Prop} (each : ∀ call ∈ calls, property call.1.cursor)
    (repository : SqliteClientRepository) (conversationId : Text) :
    ∀ value ∈ repository.committed conversationId calls, property value := by
  induction calls generalizing repository with
  | nil => exact fun value member => absurd member not_mem_nil
  | cons first rest inductionHypothesis =>
    have later := inductionHypothesis (fun call member => each call (mem_cons_of_mem _ member))
    rw [committed]
    split_ifs
    · exact forall_mem_cons.mpr ⟨each first mem_cons_self, later _⟩
    · exact later _

theorem unbotD_highest {values : List Int} (positive : ∀ value ∈ values, 0 ≤ value)
    (start : WithBot Int) :
    (highest start values).unbotD 0 = values.foldl max (start.unbotD 0) := by
  induction values generalizing start with
  | nil => rfl
  | cons first rest inductionHypothesis =>
    obtain ⟨here, others⟩ := forall_mem_cons.mp positive
    rw [highest, inductionHypothesis others]
    cases start with
    | bot => simp [here]
    | coe cursor => rfl

theorem syncCursor_runCalls (repository : SqliteClientRepository)
    (positive : ∀ call ∈ calls, 0 ≤ call.1.cursor) (conversationId : Text) :
    (repository.runCalls calls).syncCursor conversationId =
      (repository.committed conversationId calls).foldl max
        (repository.syncCursor conversationId) := by
  rw [syncCursor_eq, syncCursor_eq, storedCursor_runCalls]
  exact unbotD_highest (forall_mem_committed positive repository conversationId) _

/-! ### Batches -/

theorem call_batch_extends (batch : call.1.IsBatch) :
    Extends repository.connection.tables (repository.call call).2.connection.tables := by
  cases done : (repository.call call).1 with
  | false =>
    rw [call_failed done]
    exact Extends.refl _
  | true =>
    have effected := call_done done
    obtain ⟨call, faults⟩ := call
    cases call with
    | acceptOutgoing => exact batch.elim
    | applyIncomingBatch conversationId messages nextCursor now =>
      refine ⟨?_, fun scope => ?_⟩
      · rw [SyncCall.program, effect_append] at effected
        obtain ⟨inserted, inserts, advanced⟩ := bind_eq_some_iff.mp effected
        rw [← some.inj advanced]
        exact (effect_inserts inserts).1
      rw [storedCursor_program _ effected]
      split_ifs
      · exact le_max_left _ _
      · exact le_rfl

theorem runCalls_batches_extends (batches : ∀ call ∈ calls, call.1.IsBatch)
    (repository : SqliteClientRepository) :
    Extends repository.connection.tables (repository.runCalls calls).connection.tables := by
  induction calls generalizing repository with
  | nil => exact Extends.refl _
  | cons first rest inductionHypothesis =>
    exact (call_batch_extends (batches first mem_cons_self)).trans
      (inductionHypothesis (fun call member => batches call (mem_cons_of_mem _ member)) _)

/-- After a batch that went in, its messages are inserted and its cursor is reached. -/
theorem batch_done {nextCursor now : Int} {faults : Faults}
    (done : (repository.applyIncomingBatch conversationId messages nextCursor now faults).1) :
    let after := (repository.applyIncomingBatch conversationId messages nextCursor now faults).2
    (∃ inserted, effect (messages.map (insertMessage conversationId · true))
        repository.connection.tables = some inserted ∧
        inserted.messages = after.connection.tables.messages) ∧
      nextCursor ≤ after.storedCursor conversationId := by
  let batch : SyncCall × Faults :=
    (.applyIncomingBatch conversationId messages nextCursor now, faults)
  have effected : effect batch.1.program repository.connection.tables =
      some (repository.call batch).2.connection.tables := call_done done
  constructor
  · rw [SyncCall.program, effect_append] at effected
    obtain ⟨inserted, inserts, advanced⟩ := bind_eq_some_iff.mp effected
    have final := congrArg Tables.messages (some.inj advanced)
    exact ⟨inserted, inserts, final⟩
  have cursor := storedCursor_call repository batch conversationId
  rw [if_pos ⟨done, rfl⟩] at cursor
  exact le_of_le_of_eq (le_max_right _ _) cursor.symm

/-- A batch whose messages collide and whose cursor is reached changes no row and no cursor. -/
theorem batch_again {nextCursor : Int}
    (held : ∀ message ∈ messages, Held conversationId message repository.connection.tables)
    (reached : nextCursor ≤ repository.storedCursor conversationId) (now : Int) (faults : Faults) :
    let after := (repository.applyIncomingBatch conversationId messages nextCursor now faults).2
    after.connection.tables.messages = repository.connection.tables.messages ∧
      ∀ other, after.storedCursor other = repository.storedCursor other := by
  let batch : SyncCall × Faults :=
    (.applyIncomingBatch conversationId messages nextCursor now, faults)
  constructor
  · cases done : (repository.call batch).1 with
    | false => exact congrArg (fun left => left.connection.tables.messages) (call_failed done)
    | true =>
      have effected := call_done done
      rw [SyncCall.program, effect_append, effect_inserts_of_held held] at effected
      exact (congrArg Tables.messages (some.inj effected)).symm
  intro other
  refine (storedCursor_call repository batch other).trans ?_
  split_ifs with both
  · have same : repository.storedCursor other = repository.storedCursor conversationId := by
      rw [storedCursor, ← both.2]
      rfl
    rw [same]
    exact max_eq_left reached
  · rfl

end SqliteClientRepository

def MessageRecord.Complete (message : MessageRecord) : Prop :=
  message.senderId ≠ none ∧ message.body ≠ none ∧ message.timestamp ≠ none

def SharesKey (conversationId : Text) (message : MessageRecord) (stored : MessageRow) : Prop :=
  stored.clientMessageId = message.clientMessageId ∨
    (message.messageId ≠ none ∧ stored.messageId = message.messageId) ∨
    (some stored.conversationId = conversationId ∧ message.conversationSeq ≠ none ∧
      stored.conversationSeq = message.conversationSeq)

theorem MessageRecord.exists_row (complete : message.Complete) (named : conversationId ≠ none) :
    ∃ row, message.row conversationId = some row := by
  obtain ⟨conversationId, rfl⟩ := ne_none_iff_exists'.mp named
  obtain ⟨senderId, sender⟩ := ne_none_iff_exists'.mp complete.1
  obtain ⟨body, text⟩ := ne_none_iff_exists'.mp complete.2.1
  obtain ⟨timestamp, time⟩ := ne_none_iff_exists'.mp complete.2.2
  simp [MessageRecord.row, sender, text, time]

theorem sharesKey_of_collides {stored : MessageRow} (bound : message.row conversationId = some row)
    (collides : row.collides stored) : SharesKey conversationId message stored := by
  simp only [MessageRecord.row, bind, bind_eq_some_iff, pure, some.injEq] at bound
  obtain ⟨named, rfl, _, -, _, -, _, -, rfl⟩ := bound
  simp only [MessageRow.collides, decide_eq_true_eq] at collides
  obtain client | ⟨given, server⟩ | ⟨conversation, given, place⟩ := collides
  · exact .inl client.symm
  · exact .inr (.inl ⟨isSome_iff_ne_none.mp given, server.symm⟩)
  · exact .inr (.inr ⟨congrArg some conversation.symm, isSome_iff_ne_none.mp given,
      place.symm⟩)

/-- From any tables, after any calls of the two operations, whatever fails: every cursor is the
maximum of what it was and what was committed for it, and never went down; read through
`SyncCursor`, with zero for a missing row, it is so if no value is negative. A batch that went
in changes no message and no cursor when it is applied again after other batches. And every
message of a batch that went in is there as given, or a row with one of its keys was there
before it, from the tables before or from an earlier message of the batch, if the conversation
and the texts of the message are not null. -/
theorem incoming_batches_accounted (repository : SqliteClientRepository)
    (calls : List (SyncCall × Faults)) :
    let reached := repository.runCalls calls
    (∀ conversationId,
      reached.storedCursor conversationId = highest (repository.storedCursor conversationId)
        (repository.committed conversationId calls)) ∧
    (∀ earlier later, calls = earlier ++ later → ∀ conversationId,
      (repository.runCalls earlier).storedCursor conversationId ≤
        reached.storedCursor conversationId) ∧
    ((∀ call ∈ calls, 0 ≤ call.1.cursor) → ∀ conversationId,
      reached.syncCursor conversationId = (repository.committed conversationId calls).foldl max
        (repository.syncCursor conversationId)) ∧
    (∀ conversationId messages nextCursor now again faults faultsAgain others,
      (∀ call ∈ others, SyncCall.IsBatch call.1) →
      (reached.applyIncomingBatch conversationId messages nextCursor now faults).1 →
      let between := (reached.applyIncomingBatch conversationId messages nextCursor now
        faults).2.runCalls others
      let after := (between.applyIncomingBatch conversationId messages nextCursor again
        faultsAgain).2
      after.connection.tables.messages = between.connection.tables.messages ∧
        ∀ other, after.storedCursor other = between.storedCursor other) ∧
    (∀ conversationId messages nextCursor now faults,
      (reached.applyIncomingBatch conversationId messages nextCursor now faults).1 →
      conversationId ≠ none → ∀ earlier message later, messages = earlier ++ message :: later →
        message.Complete →
        ∃ stored ∈ (reached.applyIncomingBatch conversationId messages nextCursor now
            faults).2.connection.tables.messages,
          message.row conversationId = some stored ∨
            SharesKey conversationId message stored ∧
              (stored ∈ reached.connection.tables.messages ∨
                ∃ other ∈ earlier, other.row conversationId = some stored)) := by
  refine ⟨repository.storedCursor_runCalls calls, ?_, ?_, ?_, ?_⟩
  · rintro earlier later rfl conversationId
    rw [runCalls_append]
    exact storedCursor_le_runCalls _ later conversationId
  · exact fun positive conversationId => repository.syncCursor_runCalls positive conversationId
  · intro conversationId messages nextCursor now again faults faultsAgain others batches done
    obtain ⟨⟨inserted, inserts, same⟩, cursor⟩ := batch_done done
    have more := runCalls_batches_extends batches
      ((repository.runCalls calls).applyIncomingBatch conversationId messages nextCursor now
        faults).2
    exact batch_again
      (fun message member => (held_inserts inserts message member).mono
        fun row present => more.1 (same ▸ present))
      (le_trans cursor (more.2 _)) again faultsAgain
  · intro conversationId messages nextCursor now faults done named earlier message later split
      complete
    obtain ⟨row, bound⟩ := MessageRecord.exists_row complete named
    obtain ⟨⟨inserted, inserts, same⟩, -⟩ := batch_done done
    rw [← same]
    rcases stored_inserts inserts split bound with given | ⟨stored, present, collides, origin⟩
    · exact ⟨row, given, .inl bound⟩
    · exact ⟨stored, present, .inr ⟨sharesKey_of_collides bound collides, origin⟩⟩

/-- A run with one batch, which is then applied again: every part holds and the message is
there. -/
theorem incoming_batches_accounted_pulled :
    let message : MessageRecord :=
      { clientMessageId := 41, messageId := some 41, conversationSeq := some 5,
        senderId := some "2", body := some "hello", timestamp := some "2026-01-01 10:00:00",
        deliveryState := .delivered }
    let start : SqliteClientRepository :=
      { connection := { tables := { conversations := [{ conversationId := some "direct:2" }] } } }
    let calls : List (SyncCall × Faults) :=
      [(.acceptOutgoing (-1) 40 (some "direct:2") 4 6, {})]
    let first := ((start.runCalls calls).applyIncomingBatch (some "direct:2") [message] 5 7 {}).2
    (start.runCalls calls).syncCursor (some "direct:2") = 4 ∧
      (∃ stored ∈ first.connection.tables.messages,
        message.row (some "direct:2") = some stored) ∧
      (first.applyIncomingBatch (some "direct:2") [message] 5 8 {}).2.connection.tables.messages =
        first.connection.tables.messages := by
  intro message start calls first
  obtain ⟨-, -, cursor, again, present⟩ := incoming_batches_accounted start calls
  have positive : ∀ call ∈ calls, 0 ≤ call.1.cursor := by decide
  refine ⟨(cursor positive (some "direct:2")).trans (by decide), ?_,
    (again (some "direct:2") [message] 5 7 8 {} {} [] nofun (by decide)).1⟩
  obtain ⟨stored, there, given | ⟨-, old | ⟨_, member, -⟩⟩⟩ :=
    present (some "direct:2") [message] 5 7 {} (by decide) (some_ne_none _) [] message [] rfl
      ⟨some_ne_none _, some_ne_none _, some_ne_none _⟩
  · exact ⟨stored, there, given⟩
  · exact absurd old not_mem_nil
  · exact absurd member not_mem_nil

/-- A pulled message without a text: the batch reports success and moves the cursor to the
message, which is not stored and shares no key with a row. -/
theorem textless_message_lost :
    let message : MessageRecord :=
      { clientMessageId := 41, messageId := some 41, conversationSeq := some 5,
        senderId := some "2", timestamp := some "2026-01-01 10:00:00", deliveryState := .delivered }
    let before : SqliteClientRepository :=
      { connection := { tables := { conversations := [{ conversationId := some "direct:2" }] } } }
    let result := before.applyIncomingBatch (some "direct:2") [message] 5 7 {}
    result.1 = true ∧ result.2.syncCursor (some "direct:2") = 5 ∧
      ¬ ∃ stored ∈ result.2.connection.tables.messages,
        message.row (some "direct:2") = some stored ∨
          SharesKey (some "direct:2") message stored := by
  refine ⟨by decide, by decide, ?_⟩
  rintro ⟨stored, member, -⟩
  exact absurd member not_mem_nil

end Wimi.Client.Sqlite
