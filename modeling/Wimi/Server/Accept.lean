/-
This file models `acceptDirectText` and `acceptGroupText`, the transactions that
give a text message its place in a conversation, under every interleaving.

A step is one statement of one call, a commit, or a failure. Of InnoDB the model
takes: the writes of a transaction are seen by others only when it commits, and
are gone when it rolls back; the upsert of a conversation takes exclusive locks on
the keys it touches and an inserted message takes them on its unique keys, all
held to the end of the transaction; a statement that needs a key another
transaction holds waits; a locking read and a write see the committed rows and the
transaction's own; a plain `SELECT` reads the snapshot of the transaction's first
one, or the committed rows, by isolation level. The two bodies differ in their
lookup, in what they call the other side and in the recipients; the rest is one
definition with the command as its parameter.
-/

import Wimi.Lib.Transition
import Wimi.Protocol
import Wimi.Server.Store

namespace Wimi.Server

open Function List Option Transition

/-! ### A call and its transaction -/

/-- The arguments of `acceptDirectText`, or of `acceptGroupText` with the group in the place of the
receiver. -/
structure AcceptCommand where
  type : ConversationType
  senderId : Nat
  receiverId : Nat
  clientMessageId : String
  content : String
  sendDateTime : String
deriving DecidableEq, Repr

/-- `MessageAcceptResult` and `GroupMessageAcceptResult`. -/
structure AcceptResult where
  error : ErrorCode := .mysqlFailed
  diagnostic : String := ""
  duplicate : Bool := false
  messageId : Nat := 0
  conversationId : Nat := 0
  conversationSeq : Nat := 0
  groupId : Nat := 0
  recipientUids : List Nat := []
deriving DecidableEq, Repr

/-- The statement a call executes next. -/
inductive AcceptPhase where
  | upsertConversation
  | insertMembers
  | selectSequence
  | selectDuplicate (latestSeq : Nat)
  | updateSequence
  | insertMessage
  | selectRecipients
  | commit
  | done
deriving DecidableEq, Repr

/-- A call: its transaction's snapshot and writes, its result so far, and, once it has committed
one, the message it inserted. -/
structure AcceptCall where
  command : AcceptCommand
  phase : AcceptPhase
  snapshot : Store
  accepted : AcceptResult
  writes : Writes := {}
  inserted : Option MessageRow := none
deriving DecidableEq, Repr

/-- The index records transactions lock. -/
inductive LockKey where
  | conversation (conversationId : Nat)
  | business (type : ConversationType) (businessId : Nat)
  | clientMessage (senderId : Nat) (collated : String)
  | sequence (conversationId conversationSeq : Nat)
deriving DecidableEq, Repr

/-- The transaction isolation level of the sessions. -/
inductive Isolation where
  | repeatableRead
  | readCommitted
deriving DecidableEq, Repr

/-- The committed tables, the locks with their holders, and the calls. -/
structure AcceptSystem where
  store : Store
  locks : LockKey → Option Nat := fun _ => none
  calls : Nat → Option AcceptCall := fun _ => none

/-- A step of a call; the reply to a commit may be lost. -/
inductive AcceptAction where
  | begin (call : Nat) (command : AcceptCommand)
  | execute (call : Nat)
  | commit (call : Nat) (replied : Bool)
  | fail (call : Nat) (what : String)
deriving DecidableEq, Repr

/-- The call that takes the step. -/
def AcceptAction.call : AcceptAction → Nat
  | .begin call _ => call
  | .execute call => call
  | .commit call _ => call
  | .fail call _ => call

/-! ### Locks -/

/-- The key is not locked by another call. -/
def Available (locks : LockKey → Option Nat) (call : Nat) (key : LockKey) : Prop :=
  locks key = none ∨ locks key = some call

instance (locks : LockKey → Option Nat) (call : Nat) (key : LockKey) :
    Decidable (Available locks call key) :=
  inferInstanceAs (Decidable (_ ∨ _))

/-- The call takes the lock of a key. -/
def acquire (locks : LockKey → Option Nat) (call : Nat) (key : LockKey) : LockKey → Option Nat :=
  update locks key (some call)

/-- Commit and rollback release what the transaction held. -/
def release (locks : LockKey → Option Nat) (call : Nat) : LockKey → Option Nat :=
  fun key => if locks key = some call then none else locks key

/-! ### The statements -/

namespace AcceptCommand

/-- The column `businessId` a conversation gets. -/
def businessId (command : AcceptCommand) (conversationId : Nat) : Nat :=
  match command.type with
  | .direct => conversationId
  | .group => command.receiverId

/-- The result a call starts from. -/
def result (command : AcceptCommand) : AcceptResult :=
  match command.type with
  | .direct => {}
  | .group => { groupId := command.receiverId }

/-- The first `SELECT`: the conversation of the two friends, or of a group the sender is a member
of and may speak in. -/
def selectConversation (command : AcceptCommand) (store : Store) : Except ErrorCode Nat :=
  match command.type with
  | .direct =>
    match store.friends.find? fun row =>
      row.uidA = command.senderId ∧ row.uidB = command.receiverId with
    | none => .error .userNotFriend
    | some row => .ok row.sessionId
  | .group =>
    match store.groupInfo.find? fun row => row.gid = command.receiverId,
      store.groupMembers.find? fun row =>
        row.gid = command.receiverId ∧ row.uid = command.senderId with
    | some info, some member =>
      if member.speech ≠ 0 then .error .groupNotifyFailed else .ok info.sessionKey
    | _, _ => .error .messageOwnershipInvalid

/-- The row the upsert would insert. -/
def conversationRow (command : AcceptCommand) (conversationId : Nat) : ConversationRow where
  conversationId := conversationId
  type := command.type
  businessId := command.businessId conversationId
  latestSeq := 0
  createTime := command.sendDateTime

/-- The members the call adds, before `IGNORE`. -/
def members (command : AcceptCommand) (view : Store) (conversationId : Nat) : List MemberRow :=
  match command.type with
  | .direct =>
    [{ conversationId, uid := command.senderId },
      { conversationId, uid := command.receiverId }]
  | .group =>
    match view.conversation conversationId with
    | none => []
    | some row =>
      (view.groupMembers.filter fun member => member.gid = command.receiverId).map fun member =>
        { conversationId, uid := member.uid, joinedSeq := row.latestSeq + 1 }

/-- The diagnostic of a conversation that is missing after the upsert. -/
def missingConversation (command : AcceptCommand) : String :=
  match command.type with
  | .direct => "conversation row missing after insert"
  | .group => "group conversation row missing after insert"

/-- The row the call inserts. -/
def messageRow (command : AcceptCommand) (accepted : AcceptResult) (messageId : Nat) :
    MessageRow where
  messageId := messageId
  senderId := command.senderId
  receiverId := command.receiverId
  conversationId := some accepted.conversationId
  conversationSeq := some accepted.conversationSeq
  clientMessageId := some command.clientMessageId
  sessionKey := toString accepted.conversationId
  type := .text
  content := command.content
  status := .wait
  sendDateTime := command.sendDateTime
  readDateTime := ""

/-- What follows once the message is known: a group call reads its recipients. -/
def afterMessage (command : AcceptCommand) : AcceptPhase :=
  match command.type with
  | .direct => .commit
  | .group => .selectRecipients

end AcceptCommand

/-- `INSERT IGNORE`: the rows whose key is not there yet. -/
def newMembers (present : List MemberRow) : List MemberRow → List MemberRow
  | [] => []
  | row :: rest =>
    if present.any fun other => other.conversationId = row.conversationId ∧ other.uid = row.uid then
      newMembers present rest
    else row :: newMembers (row :: present) rest

/-- The key `(senderId, clientMessageId)` of a message as its index compares it. -/
def hasClientId (collate : String → String) (senderId : Nat) (clientMessageId : String)
    (message : MessageRow) : Bool :=
  message.senderId = senderId ∧
    message.clientMessageId.map collate = some (collate clientMessageId)

/-- What a plain `SELECT` of a call reads. -/
def readView (isolation : Isolation) (snapshot store : Store) : Store :=
  match isolation with
  | .repeatableRead => snapshot
  | .readCommitted => store

namespace AcceptSystem

variable (system : AcceptSystem)

/-- The new state of a call. -/
def setCall (call : Nat) (state : AcceptCall) : AcceptSystem :=
  { system with calls := update system.calls call (some state) }

/-- The call returns and its transaction is over. -/
def finish (call : Nat) (state : AcceptCall) (accepted : AcceptResult) : AcceptSystem :=
  { system with
    locks := release system.locks call
    calls := update system.calls call
      (some { state with phase := .done, accepted }) }

/-- `startTransaction` and the first `SELECT`, which takes the snapshot. -/
def begin (call : Nat) (command : AcceptCommand) : AcceptSystem :=
  match command.selectConversation system.store with
  | .error error =>
    system.setCall call
      { command, phase := .done, snapshot := system.store,
        accepted := { command.result with error } }
  | .ok conversationId =>
    system.setCall call
      { command, phase := .upsertConversation, snapshot := system.store,
        accepted := { command.result with conversationId } }

/-- The upsert waits for the keys it needs. A row under the primary key is left as it is; a
row under the other key gets the new conversation id. -/
def upsertConversation (call : Nat) (state : AcceptCall) : Option AcceptSystem :=
  let conversationId := state.accepted.conversationId
  let businessId := state.command.businessId conversationId
  let primary := LockKey.conversation conversationId
  let business := LockKey.business state.command.type businessId
  let next := { state with phase := .insertMembers }
  if Available system.locks call primary then
    match system.store.conversation conversationId with
    | some _ =>
      some { system.setCall call next with locks := acquire system.locks call primary }
    | none =>
      if Available system.locks call business then
        let locks := acquire (acquire system.locks call primary) call business
        match system.store.conversations.find? fun row =>
          row.type = state.command.type ∧ row.businessId = businessId with
        | none =>
          let row := state.command.conversationRow conversationId
          some { system.setCall call { next with writes := { upsert := some (.insert row) } } with
            locks }
        | some old =>
          if Available system.locks call (.conversation old.conversationId) then
            some { system.setCall call
                { next with writes := { upsert := some (.rekey old.conversationId) } } with
              locks := acquire locks call (.conversation old.conversationId) }
          else none
      else none
  else none

/-- `INSERT IGNORE INTO conversationMembers`. -/
def insertMembers (call : Nat) (state : AcceptCall) : AcceptSystem :=
  let view := system.store.apply state.accepted.conversationId state.writes
  system.setCall call
    { state with
      phase := .selectSequence
      writes := { state.writes with
        members := newMembers view.conversationMembers
          (state.command.members view state.accepted.conversationId) } }

/-- `SELECT latestSeq ... FOR UPDATE`. -/
def selectSequence (call : Nat) (state : AcceptCall) : AcceptSystem :=
  let view := system.store.apply state.accepted.conversationId state.writes
  match view.conversation state.accepted.conversationId with
  | none =>
    system.finish call state
      { state.accepted with
        error := .mysqlFailed, diagnostic := state.command.missingConversation }
  | some row => system.setCall call { state with phase := .selectDuplicate row.latestSeq }

/-- The lookup of an earlier message under the same client message id. -/
def selectDuplicate (collate : String → String) (isolation : Isolation) (call : Nat)
    (state : AcceptCall) (latestSeq : Nat) : AcceptSystem :=
  let accepted := state.accepted
  match (readView isolation state.snapshot system.store).messages.find?
    (hasClientId collate state.command.senderId state.command.clientMessageId) with
  | none =>
    system.setCall call
      { state with
        phase := .updateSequence
        accepted := { accepted with conversationSeq := latestSeq + 1 } }
  | some row =>
    match row.conversationId with
    | none => system.finish call state { accepted with error := .mysqlFailed }
    | some conversationId =>
      if conversationId = accepted.conversationId ∧ row.receiverId = state.command.receiverId ∧
          row.type = .text ∧ row.content = state.command.content then
        match row.conversationSeq with
        | none => system.finish call state { accepted with error := .mysqlFailed }
        | some conversationSeq =>
          system.setCall call
            { state with
              phase := state.command.afterMessage
              accepted := { accepted with
                messageId := row.messageId
                conversationSeq
                duplicate := true } }
      else system.finish call state { accepted with error := .idempotencyConflict }

/-- `UPDATE conversations SET latestSeq`. -/
def updateSequence (call : Nat) (state : AcceptCall) : AcceptSystem :=
  system.setCall call
    { state with
      phase := .insertMessage
      writes := { state.writes with latestSeq := some state.accepted.conversationSeq } }

/-- The insert waits for its unique keys, fails if a committed message has one of them, and
otherwise holds them. It draws a message id either way. -/
def insertMessage (collate : String → String) (call : Nat) (state : AcceptCall) :
    Option AcceptSystem :=
  let command := state.command
  let accepted := state.accepted
  let client := LockKey.clientMessage command.senderId (collate command.clientMessageId)
  let sequence := LockKey.sequence accepted.conversationId accepted.conversationSeq
  let drawn := { system with
    store := { system.store with autoIncrement := system.store.autoIncrement + 1 } }
  if Available system.locks call client ∧ Available system.locks call sequence then
    if system.store.messages.any fun message =>
        hasClientId collate command.senderId command.clientMessageId message ||
          decide (message.conversationId = some accepted.conversationId ∧
            message.conversationSeq = some accepted.conversationSeq) then
      some (drawn.finish call state { accepted with
        error := .mysqlFailed, diagnostic := "Duplicate entry" })
    else
      some { drawn.setCall call
          { state with
            phase := command.afterMessage
            accepted := { accepted with messageId := system.store.autoIncrement }
            writes := { state.writes with
              message := some (command.messageRow accepted system.store.autoIncrement) } } with
        locks := acquire (acquire system.locks call client) call sequence }
  else none

/-- `SELECT uid FROM groupMembers WHERE gid = ? AND uid <> ?`. -/
def selectRecipients (isolation : Isolation) (call : Nat) (state : AcceptCall) : AcceptSystem :=
  let members := (readView isolation state.snapshot system.store).groupMembers.filter fun row =>
    row.gid = state.command.receiverId ∧ row.uid ≠ state.command.senderId
  system.setCall call
    { state with
      phase := .commit
      accepted := { state.accepted with recipientUids := members.map GroupMemberRow.uid } }

/-- The writes become visible. When the reply is lost, the caller sees a failure. -/
def commit (call : Nat) (state : AcceptCall) (replied : Bool) : AcceptSystem :=
  { system with store := system.store.apply state.accepted.conversationId state.writes }.finish
    call { state with inserted := state.writes.message }
    { state.accepted with error := if replied then .success else .mysqlFailed }

/-- One statement of a call. -/
def execute (collate : String → String) (isolation : Isolation) (call : Nat)
    (state : AcceptCall) : Option AcceptSystem :=
  match state.phase with
  | .upsertConversation => system.upsertConversation call state
  | .insertMembers => some (system.insertMembers call state)
  | .selectSequence => some (system.selectSequence call state)
  | .selectDuplicate latestSeq =>
    some (system.selectDuplicate collate isolation call state latestSeq)
  | .updateSequence => some (system.updateSequence call state)
  | .insertMessage => system.insertMessage collate call state
  | .selectRecipients => some (system.selectRecipients isolation call state)
  | .commit => none
  | .done => none

end AcceptSystem

open AcceptSystem

/-- A step is taken by a call that is there and at the right place. -/
def acceptStep (collate : String → String) (isolation : Isolation) (system : AcceptSystem) :
    AcceptAction → Option AcceptSystem
  | .begin call command =>
    match system.calls call with
    | none => some (system.begin call command)
    | some _ => none
  | .execute call =>
    match system.calls call with
    | none => none
    | some state => system.execute collate isolation call state
  | .commit call replied =>
    match system.calls call with
    | none => none
    | some state =>
      if state.phase = .commit then some (system.commit call state replied) else none
  | .fail call what =>
    match system.calls call with
    | none => none
    | some state =>
      if state.phase = .done then none
      else some (system.finish call state
        { state.accepted with error := .mysqlFailed, diagnostic := what })

/-- The call has executed the statement that adds members. -/
def AcceptPhase.membersAdded : AcceptPhase → Bool
  | .upsertConversation => false
  | .insertMembers => false
  | .selectSequence => true
  | .selectDuplicate _ => true
  | .updateSequence => true
  | .insertMessage => true
  | .selectRecipients => true
  | .commit => true
  | .done => true

theorem AcceptCommand.membersAdded_afterMessage (command : AcceptCommand) :
    command.afterMessage.membersAdded = true := by
  unfold AcceptCommand.afterMessage
  split <;> rfl

/-! ### What a statement does -/

section Locks

variable {locks locks' : LockKey → Option Nat} {call other : Nat} {key held : LockKey}

theorem acquire_self (locks : LockKey → Option Nat) (call : Nat) (key : LockKey) :
    acquire locks call key key = some call :=
  update_self ..

theorem acquire_own (owned : locks held = some call) : acquire locks call key held = some call := by
  unfold acquire
  by_cases same : held = key
  · rw [same, update_self]
  · rw [update_of_ne same, owned]

theorem release_other (different : other ≠ call) (owned : locks held = some other) :
    release locks call held = some other := by
  unfold release
  rw [owned, if_neg fun same => different (some.inj same)]

/-- The call has taken further keys, none of them from another call. -/
structure Claims (locks : LockKey → Option Nat) (call : Nat) (locks' : LockKey → Option Nat) :
    Prop where
  kept : ∀ key holder, locks key = some holder → locks' key = some holder
  source : ∀ key holder, locks' key = some holder → holder = call ∨ locks key = some holder

theorem Claims.refl (locks : LockKey → Option Nat) (call : Nat) : Claims locks call locks :=
  ⟨fun _ _ => id, fun _ _ => .inr⟩

/-- A key that no other call holds can be claimed. -/
theorem Claims.acquire (claims : Claims locks call locks') (available : Available locks call key) :
    Claims locks call (acquire locks' call key) := by
  refine ⟨fun held holder owned => ?_, fun held holder owned => ?_⟩
  · unfold Server.acquire
    by_cases same : held = key
    · subst same
      rw [update_self]
      rcases available with free | own
      · rw [free] at owned
        cases owned
      · exact own.symm.trans owned
    · rw [update_of_ne same]
      exact claims.kept held holder owned
  unfold Server.acquire at owned
  by_cases same : held = key
  · grind
  · rw [update_of_ne same] at owned
    exact claims.source held holder owned

end Locks

/-- What the upsert meets under the keys of the conversation, and what it writes. -/
inductive Upserts (store : Store) (state : AcceptCall) : Writes → Prop
  | known (present : (store.conversation state.accepted.conversationId).isSome) :
      Upserts store state state.writes
  | created (absent : store.conversation state.accepted.conversationId = none) :
      Upserts store state
        { upsert :=
            some (.insert (state.command.conversationRow state.accepted.conversationId)) }
  | rekeyed {old : ConversationRow}
      (absent : store.conversation state.accepted.conversationId = none)
      (member : old ∈ store.conversations)
      (keys : old.type = state.command.type ∧
        old.businessId = state.command.businessId state.accepted.conversationId) :
      Upserts store state { upsert := some (.rekey old.conversationId) }

/-- What the statement of a call can do. Each one that goes through has a case of its own; the
failures, which end the call, are one. -/
inductive ExecuteOutcome (collate : String → String) (isolation : Isolation)
    (system : AcceptSystem) (call : Nat) (state : AcceptCall) : AcceptSystem → Prop
  | upserted {locks : LockKey → Option Nat} {writes : Writes}
      (phase : state.phase = .upsertConversation) (claims : Claims system.locks call locks)
      (locked : locks (.conversation state.accepted.conversationId) = some call)
      (upserts : Upserts system.store state writes) :
      ExecuteOutcome collate isolation system call state
        { system.setCall call { state with phase := .insertMembers, writes } with locks }
  | insertedMembers (phase : state.phase = .insertMembers) :
      ExecuteOutcome collate isolation system call state (system.insertMembers call state)
  | readSequence {row : ConversationRow} (phase : state.phase = .selectSequence)
      (read : (system.store.apply state.accepted.conversationId state.writes).conversation
        state.accepted.conversationId = some row) :
      ExecuteOutcome collate isolation system call state
        (system.setCall call { state with phase := .selectDuplicate row.latestSeq })
  | notFound {latestSeq : Nat} (phase : state.phase = .selectDuplicate latestSeq) :
      ExecuteOutcome collate isolation system call state
        (system.setCall call
          { state with
            phase := .updateSequence
            accepted := { state.accepted with conversationSeq := latestSeq + 1 } })
  | repeated {latestSeq conversationSeq : Nat} {row : MessageRow}
      (phase : state.phase = .selectDuplicate latestSeq)
      (read : (readView isolation state.snapshot system.store).messages.find?
        (hasClientId collate state.command.senderId state.command.clientMessageId) = some row)
      (conversation : row.conversationId = some state.accepted.conversationId)
      (sequence : row.conversationSeq = some conversationSeq)
      (same : row.receiverId = state.command.receiverId ∧ row.type = .text ∧
        row.content = state.command.content) :
      ExecuteOutcome collate isolation system call state
        (system.setCall call
          { state with
            phase := state.command.afterMessage
            accepted := { state.accepted with
              messageId := row.messageId, conversationSeq, duplicate := true } })
  | updatedSequence (phase : state.phase = .updateSequence) :
      ExecuteOutcome collate isolation system call state (system.updateSequence call state)
  | insertedMessage {locks : LockKey → Option Nat} (phase : state.phase = .insertMessage)
      (claims : Claims system.locks call locks)
      (locked : locks (.clientMessage state.command.senderId
        (collate state.command.clientMessageId)) = some call)
      (fresh : ∀ message ∈ system.store.messages,
        ¬ hasClientId collate state.command.senderId state.command.clientMessageId message) :
      ExecuteOutcome collate isolation system call state
        { system.setCall call
            { state with
              phase := state.command.afterMessage
              accepted := { state.accepted with messageId := system.store.autoIncrement }
              writes := { state.writes with
                message := some
                  (state.command.messageRow state.accepted system.store.autoIncrement) } } with
          store := { system.store with autoIncrement := system.store.autoIncrement + 1 }
          locks }
  | readRecipients (phase : state.phase = .selectRecipients) :
      ExecuteOutcome collate isolation system call state
        (system.selectRecipients isolation call state)
  | failed (autoIncrement : Nat) (accepted : AcceptResult) (error : accepted.error ≠ .success) :
      ExecuteOutcome collate isolation system call state
        ({ system with store := { system.store with autoIncrement } }.finish call state accepted)

/-- What a statement makes of its call. The command and what the call has inserted stay; a message
it writes is the command's, and one statement writes the members. -/
structure Executed (system : AcceptSystem) (state after : AcceptCall) : Prop where
  command : after.command = state.command
  inserted : after.inserted = state.inserted
  message : ∀ message, after.writes.message = some message →
    state.writes.message = some message ∨
      ∃ accepted messageId, message = state.command.messageRow accepted messageId
  members : after.phase = .done ∨
    (state.phase = .insertMembers ∧ after.phase.membersAdded ∧
      after.accepted.conversationId = state.accepted.conversationId ∧
      after.writes.members = newMembers
        (system.store.apply state.accepted.conversationId state.writes).conversationMembers
        (state.command.members (system.store.apply state.accepted.conversationId state.writes)
          state.accepted.conversationId)) ∨
    (after.phase.membersAdded = state.phase.membersAdded ∧
      after.accepted.conversationId = state.accepted.conversationId ∧
      (after.writes.members = state.writes.members ∨
        state.phase.membersAdded = false ∧ after.writes.members = []))

section Executed

variable {system : AcceptSystem} {state : AcceptCall}

theorem executed_finish (accepted : AcceptResult) :
    Executed system state { state with phase := .done, accepted } :=
  ⟨rfl, rfl, fun _ => .inl, .inl rfl⟩

/-- A statement that writes no member and no message. -/
theorem executed_move {phase : AcceptPhase} {accepted : AcceptResult} {latestSeq : Option Nat}
    (added : phase.membersAdded = state.phase.membersAdded)
    (same : accepted.conversationId = state.accepted.conversationId) :
    Executed system state
      { state with
        phase
        accepted
        writes := { state.writes with latestSeq } } :=
  ⟨rfl, rfl, fun _ => .inl, .inr (.inr ⟨added, same, .inl rfl⟩)⟩

/-- The upsert of a conversation is the first write. -/
theorem executed_upsert (phase : state.phase = .upsertConversation) (upsert : Upsert) :
    Executed system state
      { state with phase := .insertMembers, writes := { upsert := some upsert } } := by
  have early : state.phase.membersAdded = false := by
    rw [phase]
    rfl
  refine ⟨rfl, rfl, fun message written => ?_, .inr (.inr ⟨early.symm, rfl, .inr ⟨early, rfl⟩⟩)⟩
  cases written

end Executed

variable {collate : String → String} {isolation : Isolation} {next : AcceptSystem}
  {present rows : List MemberRow}

theorem AcceptSystem.upsertConversation_outcome {system : AcceptSystem} {call : Nat}
    {state : AcceptCall} (taken : system.upsertConversation call state = some next) :
    ∃ locks writes,
      next = { system.setCall call { state with phase := .insertMembers, writes } with locks } ∧
      Claims system.locks call locks ∧
      locks (.conversation state.accepted.conversationId) = some call ∧
      Upserts system.store state writes := by
  unfold upsertConversation at taken
  dsimp only at taken
  have unchanged := Claims.refl system.locks call
  split at taken
  · rename_i primary
    split at taken
    · rename_i row found
      cases taken
      exact ⟨_, _, rfl, unchanged.acquire primary, acquire_self ..,
        .known (isSome_of_eq_some found)⟩
    rename_i absent
    split at taken
    · rename_i business
      have both := (unchanged.acquire primary).acquire business
      split at taken
      · cases taken
        exact ⟨_, _, rfl, both, acquire_own (acquire_self ..), .created absent⟩
      rename_i old found
      split at taken
      · rename_i available
        cases taken
        exact ⟨_, _, rfl, both.acquire available, acquire_own (acquire_own (acquire_self ..)),
          .rekeyed absent (mem_of_find?_eq_some found) (by simpa using find?_some found)⟩
      · cases taken
    · cases taken
  · cases taken

section

variable {system : AcceptSystem} {call : Nat} {state : AcceptCall}
  (taken : system.execute collate isolation call state = some next)
include taken

/-- A call that executes a statement has not returned. -/
theorem AcceptSystem.running_of_execute : state.phase ≠ .done := by
  intro done
  simp only [execute, done] at taken
  cases taken

/-- What a statement does is one of the cases. -/
theorem AcceptSystem.execute_cases :
    ExecuteOutcome collate isolation system call state next := by
  unfold execute at taken
  split at taken
  · obtain ⟨locks, writes, rfl, claims, locked, upserts⟩ := upsertConversation_outcome taken
    exact .upserted ‹_› claims locked upserts
  · cases taken
    exact .insertedMembers ‹_›
  · cases taken
    unfold selectSequence
    dsimp only
    split
    · exact .failed system.store.autoIncrement _ nofun
    · exact .readSequence ‹_› ‹_›
  · cases taken
    unfold selectDuplicate
    dsimp only
    split
    · exact .notFound ‹_›
    rename_i row read
    split
    · exact .failed system.store.autoIncrement _ nofun
    rename_i conversationId conversation
    split
    · rename_i same
      split
      · exact .failed system.store.autoIncrement _ nofun
      · exact .repeated ‹_› read (conversation.trans (congrArg some same.1)) ‹_› same.2
    · exact .failed system.store.autoIncrement _ nofun
  · cases taken
    exact .updatedSequence ‹_›
  · unfold insertMessage at taken
    dsimp only at taken
    split at taken
    · rename_i available
      split at taken
      · cases taken
        exact .failed (system.store.autoIncrement + 1) _ nofun
      cases taken
      have claims := ((Claims.refl system.locks call).acquire available.1).acquire available.2
      exact .insertedMessage ‹_› claims (acquire_own (acquire_self ..)) (by grind)
    · cases taken
  · cases taken
    exact .readRecipients ‹_›
  · cases taken
  · cases taken

/-- A statement changes no table, and of the calls only its own. -/
theorem AcceptSystem.execute_outcome : ∃ autoIncrement locks after,
      next = { store := { system.store with autoIncrement }, locks,
               calls := update system.calls call (some after) } ∧
      Executed system state after := by
  cases execute_cases taken with
  | upserted phase _ _ upserts =>
    refine ⟨system.store.autoIncrement, _, _, rfl, ?_⟩
    cases upserts with
    | known => exact executed_move (by rw [phase]; rfl) rfl
    | created | rekeyed => exact executed_upsert phase _
  | insertedMembers phase =>
    exact ⟨_, _, _, rfl, rfl, rfl, fun _ => .inl, .inr (.inl ⟨phase, rfl, rfl, rfl⟩)⟩
  | readSequence phase | notFound phase | updatedSequence phase | readRecipients phase =>
    exact ⟨_, _, _, rfl, executed_move (by rw [phase]; rfl) rfl⟩
  | repeated phase =>
    exact ⟨_, _, _, rfl,
      executed_move (by rw [phase]; exact state.command.membersAdded_afterMessage) rfl⟩
  | insertedMessage phase =>
    refine ⟨_, _, _, rfl, rfl, rfl, fun _ same => .inr ⟨_, _, (some.inj same).symm⟩,
      .inr (.inr ⟨?_, rfl, .inl rfl⟩)⟩
    rw [phase]
    exact state.command.membersAdded_afterMessage
  | failed => exact ⟨_, _, _, rfl, executed_finish _⟩

end

section

variable {system : AcceptSystem} {action : AcceptAction}
  (taken : acceptStep collate isolation system action = some next)
include taken

/-- What a step can be. -/
theorem acceptStep_cases :
    (∃ call command, action = .begin call command ∧ system.calls call = none ∧
      next = system.begin call command) ∨
    (∃ call state, action = .execute call ∧ system.calls call = some state ∧
      system.execute collate isolation call state = some next) ∨
    (∃ call state replied, action = .commit call replied ∧ system.calls call = some state ∧
      state.phase = .commit ∧ next = system.commit call state replied) ∨
    (∃ call state what, action = .fail call what ∧ system.calls call = some state ∧
      state.phase ≠ .done ∧ next = system.finish call state
        { state.accepted with error := .mysqlFailed, diagnostic := what }) := by
  cases action with
  | begin call command => grind [acceptStep]
  | execute call => grind [acceptStep]
  | commit call replied => grind [acceptStep]
  | fail call what => grind [acceptStep]

/-- A step leaves the tables as they are, or it commits the writes of a call. -/
theorem acceptStep_store :
    (∃ autoIncrement, next.store = { system.store with autoIncrement }) ∨
      ∃ call state replied, action = .commit call replied ∧ system.calls call = some state ∧
        state.phase = .commit ∧
        next.store = system.store.apply state.accepted.conversationId state.writes := by
  obtain ⟨call, command, _, _, rfl⟩ | ⟨call, state, _, _, executed⟩ |
    ⟨call, state, replied, commits, found, reached, rfl⟩ | ⟨call, state, what, _, _, _, rfl⟩ :=
    acceptStep_cases taken
  · refine .inl ⟨system.store.autoIncrement, ?_⟩
    unfold begin
    split <;> rfl
  · obtain ⟨autoIncrement, locks, after, rfl, _⟩ := AcceptSystem.execute_outcome executed
    exact .inl ⟨autoIncrement, rfl⟩
  · exact .inr ⟨call, state, replied, commits, found, reached, rfl⟩
  · exact .inl ⟨system.store.autoIncrement, rfl⟩

end

/-! ### The members a call adds -/

/-- The key of a row of `conversationMembers`. -/
def MemberRow.key (row : MemberRow) : Nat × Nat := (row.conversationId, row.uid)

theorem mem_newMembers {row : MemberRow} (member : row ∈ newMembers present rows) : row ∈ rows := by
  induction rows generalizing present with
  | nil => exact member
  | cons head rest inductionHypothesis =>
    unfold newMembers at member
    split at member
    · exact mem_cons_of_mem _ (inductionHypothesis member)
    rcases mem_cons.mp member with rfl | later
    · exact mem_cons_self
    · exact mem_cons_of_mem _ (inductionHypothesis later)

/-- `INSERT IGNORE` adds no row whose key is there. -/
theorem newMembers_fresh {row : MemberRow} (member : row ∈ newMembers present rows) :
    ∀ other ∈ present, other.key ≠ row.key := by
  induction rows generalizing present with
  | nil => cases member
  | cons head rest inductionHypothesis =>
    unfold newMembers at member
    split at member
    · exact inductionHypothesis member
    rename_i free
    rcases mem_cons.mp member with rfl | later
    · intro other isPresent same
      have sameKey := Prod.ext_iff.mp same
      exact free (any_eq_true.mpr ⟨other, isPresent, decide_eq_true sameKey⟩)
    · grind

/-- After `INSERT IGNORE` every row has its key in the table. -/
theorem exists_key_newMembers {row : MemberRow} (member : row ∈ rows) :
    ∃ other ∈ present ++ newMembers present rows, other.key = row.key := by
  induction rows generalizing present with
  | nil => cases member
  | cons head rest inductionHypothesis =>
    unfold newMembers
    split
    · rename_i taken
      rcases mem_cons.mp member with rfl | later
      · obtain ⟨other, isPresent, same⟩ := any_eq_true.mp taken
        have sameKey := of_decide_eq_true same
        exact ⟨other, mem_append_left _ isPresent, Prod.ext sameKey.1 sameKey.2⟩
      · exact inductionHypothesis later
    rcases mem_cons.mp member with rfl | later
    · exact ⟨row, mem_append_right _ mem_cons_self, rfl⟩
    obtain ⟨other, found, same⟩ := @inductionHypothesis (head :: present) later
    refine ⟨other, ?_, same⟩
    simp only [mem_cons, mem_append] at found ⊢
    tauto

/-! ### A call on its own -/

/-- The statements of a call that inserts a message. -/
def AcceptCommand.statements (command : AcceptCommand) : Nat :=
  match command.type with
  | .direct => 6
  | .group => 7

/-- A call that inserts its message, from its start to its commit. -/
def AcceptCommand.script (command : AcceptCommand) (call : Nat) : List AcceptAction :=
  .begin call command :: replicate command.statements (.execute call) ++ [.commit call true]

/-- A call that runs alone on tables without conversations and messages succeeds. -/
theorem accept_alone (collate : String → String) (isolation : Isolation) {store : Store}
    (noConversations : store.conversations = []) (noMembers : store.conversationMembers = [])
    (noMessages : store.messages = []) {command : AcceptCommand}
    (selected : command.selectConversation store = .ok 1) :
    ∃ final accepted view,
      run (acceptStep collate isolation) { store } (command.script 0) =
        some final ∧
      final.store.messages = [command.messageRow accepted store.autoIncrement] ∧
      final.store.conversationMembers = newMembers [] (command.members view 1) ∧
      view.groupMembers = store.groupMembers ∧
      (∀ other ≠ 0, final.calls other = none) ∧
      ∃ state, final.calls 0 = some state ∧ state.command = command := by
  obtain ⟨friends, groupInfo, groupMembers, conversations, members, messages, autoIncrement⟩ :=
    store
  subst noConversations noMembers noMessages
  have started : acceptStep collate isolation
      { store := { friends, groupInfo, groupMembers, autoIncrement } } (.begin 0 command) =
      some (setCall { store := { friends, groupInfo, groupMembers, autoIncrement } } 0
        { command, phase := .upsertConversation,
          snapshot := { friends, groupInfo, groupMembers, autoIncrement },
          accepted := { command.result with conversationId := 1 } }) := by
    simp only [acceptStep, begin, selected]
  rw [AcceptCommand.script, cons_append, run_cons_of_step _ started]
  obtain ⟨type, senderId, receiverId, clientMessageId, content, sendDateTime⟩ := command
  have others : ∀ {calls : Nat → Option AcceptCall}, (∀ number, calls (number + 1) = none) →
      ∀ other ≠ 0, calls other = none := by
    intro calls none other different
    obtain ⟨number, rfl⟩ := Nat.exists_eq_succ_of_ne_zero different
    exact none number
  cases type <;> cases isolation <;>
    exact ⟨_, _, _, rfl, rfl, rfl, rfl, others fun _ => rfl, _, rfl, rfl⟩

end Wimi.Server
