/-
This file proves what the accepting transactions do to the store, whatever they
are interleaved with: a step leaves the messages and the counters as they are, or
it commits one message under the next number of its conversation.

Each call has an invariant that depends on the statement it is at. A call past its
upsert holds the lock of its conversation, so no other call writes the counter it
has read; a call past its insert holds the lock of its client message id, so no
other call commits a message under it. `Frame` is what a call sees of a step of
another call, and every part of the invariant survives it.
-/

import Wimi.Server.Accept

namespace Wimi.Server

open Function List Option Transition AcceptCommand AcceptSystem

/-! ### Conversations under the right key -/

/-- The id of a conversation is the one its type and business id lead to. -/
def KeyedRow (store : Store) (row : ConversationRow) : Prop :=
  match row.type with
  | .direct => row.businessId = row.conversationId
  | .group =>
    ∀ info, (store.groupInfo.find? fun info => info.gid = row.businessId) = some info →
      info.sessionKey = row.conversationId

/-- Every row of `conversations` is as the two functions write it. -/
def Keyed (store : Store) : Prop := ∀ row ∈ store.conversations, KeyedRow store row

variable {conversationId other : Nat} {held : LockKey} {accepted : AcceptResult}
  {isolation : Isolation} {next : AcceptSystem} {phase : AcceptPhase}

/-- What a group call has found in its first `SELECT`. -/
theorem AcceptCommand.group_of_select {command : AcceptCommand} {store : Store}
    (group : command.type = .group)
    (selected : command.selectConversation store = .ok conversationId) :
    ∃ info, (store.groupInfo.find? fun row => row.gid = command.receiverId) = some info ∧
      info.sessionKey = conversationId := by
  unfold selectConversation at selected
  rw [group] at selected
  dsimp only at selected
  split at selected
  · grind
  · cases selected

/-- The first `SELECT` has no success among its errors. -/
theorem AcceptCommand.selectConversation_ne_success (command : AcceptCommand) {store : Store}
    {error : ErrorCode} (failed : command.selectConversation store = .error error) :
    error ≠ .success := by
  rintro rfl
  unfold selectConversation at failed
  split at failed
  · split at failed <;> cases failed
  · grind

/-- A row under the business key of a command is keyed exactly if its id is the one the command has
selected. -/
theorem AcceptCommand.keyedRow_iff {command : AcceptCommand} {store : Store}
    (selected : command.selectConversation store = .ok conversationId) {row : ConversationRow}
    (type : row.type = command.type)
    (business : row.businessId = command.businessId conversationId) :
    KeyedRow store row ↔ row.conversationId = conversationId := by
  unfold KeyedRow
  cases kind : command.type with
  | direct => simp [businessId, kind, type, business, eq_comm]
  | group =>
    simp only [businessId, kind] at business
    obtain ⟨info, found, key⟩ := group_of_select kind selected
    rw [type, kind]
    rw [business, found]
    constructor
    · exact fun keyed => (keyed info rfl).symm.trans key
    · grind

/-! ### The invariant of a call -/

/-- A message has one client message id, up to the collation. -/
theorem hasClientId_same {collate : String → String} {senderId senderId' : Nat}
    {clientMessageId clientMessageId' : String} {message : MessageRow}
    (first : hasClientId collate senderId clientMessageId message)
    (second : hasClientId collate senderId' clientMessageId' message) :
    senderId = senderId' ∧ collate clientMessageId = collate clientMessageId' := by
  obtain ⟨sender, client⟩ := of_decide_eq_true first
  obtain ⟨sender', client'⟩ := of_decide_eq_true second
  exact ⟨sender.symm.trans sender', some.inj (client.symm.trans client')⟩

/-- The message is the one the result of the call names, and the call's own command. -/
structure Names (collate : String → String) (state : AcceptCall) (message : MessageRow) :
    Prop where
  clientId : hasClientId collate state.command.senderId state.command.clientMessageId message
  messageId : message.messageId = state.accepted.messageId
  conversationId : message.conversationId = some state.accepted.conversationId
  conversationSeq : message.conversationSeq = some state.accepted.conversationSeq
  receiverId : message.receiverId = state.command.receiverId
  content : message.content = state.command.content

/-- A call past its upsert: it holds its conversation, whose row is there or about to be. -/
structure Upserted (store : Store) (locks : LockKey → Option Nat) (call : Nat)
    (state : AcceptCall) : Prop where
  selected : state.command.selectConversation store = .ok state.accepted.conversationId
  locked : locks (.conversation state.accepted.conversationId) = some call
  row : (state.writes.upsert = none ∧
      (store.conversation state.accepted.conversationId).isSome) ∨
    (state.writes.upsert =
        some (.insert (state.command.conversationRow state.accepted.conversationId)) ∧
      store.conversation state.accepted.conversationId = none)

/-- Neither the counter nor a message is written. -/
def Unnumbered (state : AcceptCall) : Prop :=
  state.writes.latestSeq = none ∧ state.writes.message = none

/-- The call has taken the next number. -/
def Numbered (store : Store) (state : AcceptCall) : Prop :=
  state.accepted.duplicate = false ∧
    state.accepted.conversationSeq = store.latestSeq state.accepted.conversationId + 1

/-- The call has found its message in the store and writes neither. -/
def Repeats (collate : String → String) (store : Store) (state : AcceptCall) : Prop :=
  Unnumbered state ∧ state.accepted.duplicate = true ∧
    ∃ message ∈ store.messages, Names collate state message

/-- The call writes the counter and its message, whose client message id it holds. -/
structure Inserts (collate : String → String) (store : Store) (locks : LockKey → Option Nat)
    (call : Nat) (state : AcceptCall) : Prop where
  numbered : Numbered store state
  counter : state.writes.latestSeq = some state.accepted.conversationSeq
  message : ∃ message, state.writes.message = some message ∧ Names collate state message
  locked : locks (.clientMessage state.command.senderId
    (collate state.command.clientMessageId)) = some call
  fresh : ∀ other ∈ store.messages,
    ¬ hasClientId collate state.command.senderId state.command.clientMessageId other

/-- What a call that has returned leaves: the message it inserted is there, and a success without
one names a message that is there. -/
structure Returned (collate : String → String) (store : Store) (state : AcceptCall) : Prop where
  inserted : ∀ message, state.inserted = some message →
    message ∈ store.messages ∧ Names collate state message ∧ state.accepted.duplicate = false
  repeated : state.inserted = none → state.accepted.error = .success →
    state.accepted.duplicate = true ∧ ∃ message ∈ store.messages, Names collate state message

/-- The invariant of a call at each statement. -/
def Stage (collate : String → String) (store : Store) (locks : LockKey → Option Nat) (call : Nat)
    (state : AcceptCall) : Prop :=
  match state.phase with
  | .upsertConversation =>
    state.command.selectConversation store = .ok state.accepted.conversationId ∧
      state.accepted.duplicate = false ∧ state.writes = {}
  | .insertMembers | .selectSequence =>
    Upserted store locks call state ∧ state.accepted.duplicate = false ∧ Unnumbered state
  | .selectDuplicate latestSeq =>
    Upserted store locks call state ∧ state.accepted.duplicate = false ∧ Unnumbered state ∧
      latestSeq = store.latestSeq state.accepted.conversationId
  | .updateSequence => Upserted store locks call state ∧ Unnumbered state ∧ Numbered store state
  | .insertMessage =>
    Upserted store locks call state ∧ Numbered store state ∧
      state.writes.latestSeq = some state.accepted.conversationSeq
  | .selectRecipients | .commit =>
    Upserted store locks call state ∧
      (Repeats collate store state ∨ Inserts collate store locks call state)
  | .done => Returned collate store state

/-- What is known of a call. -/
structure CallSound (collate : String → String) (store : Store) (locks : LockKey → Option Nat)
    (call : Nat) (state : AcceptCall) : Prop where
  snapshot : ∀ message ∈ state.snapshot.messages, message ∈ store.messages
  pending : state.phase ≠ .done → state.inserted = none
  stage : Stage collate store locks call state

/-- The invariant of the system. -/
structure AcceptSound (collate : String → String) (system : AcceptSystem) : Prop where
  keyed : Keyed system.store
  calls : ∀ call state, system.calls call = some state →
    CallSound collate system.store system.locks call state

theorem acceptSound_initial (collate : String → String) {store : Store} (keyed : Keyed store) :
    AcceptSound collate { store } where
  keyed := keyed
  calls _ _ found := nomatch found

/-! ### What a call sees of the steps of others -/

/-- The part of the store and the locks that a call relies on is as it was. -/
structure Frame (collate : String → String) (call : Nat) (store : Store)
    (locks : LockKey → Option Nat) (store' : Store) (locks' : LockKey → Option Nat) : Prop where
  selected : ∀ command : AcceptCommand,
    command.selectConversation store' = command.selectConversation store
  held : ∀ key, locks key = some call → locks' key = some call
  conversation : ∀ conversationId, locks (.conversation conversationId) = some call →
    store'.conversation conversationId = store.conversation conversationId
  messages : ∀ message ∈ store.messages, message ∈ store'.messages
  clientIds : ∀ senderId clientMessageId,
    locks (.clientMessage senderId (collate clientMessageId)) = some call →
    (∀ message ∈ store.messages, ¬ hasClientId collate senderId clientMessageId message) →
    ∀ message ∈ store'.messages, ¬ hasClientId collate senderId clientMessageId message

section Frame

variable {collate : String → String} {call : Nat} {store store' : Store}
  {locks locks' : LockKey → Option Nat} {state : AcceptCall}

/-- Only locks have changed, and none of the call's. -/
theorem Frame.of_locks (kept : ∀ key, locks key = some call → locks' key = some call)
    (autoIncrement : Nat) :
    Frame collate call store locks { store with autoIncrement } locks' where
  selected _ := rfl
  held := kept
  conversation _ _ := rfl
  messages _ member := member
  clientIds _ _ _ none := none

theorem Frame.latestSeq (frame : Frame collate call store locks store' locks')
    (locked : locks (.conversation conversationId) = some call) :
    store'.latestSeq conversationId = store.latestSeq conversationId :=
  congrArg (fun row : Option ConversationRow => (row.map ConversationRow.latestSeq).getD 0)
    (frame.conversation conversationId locked)

theorem Upserted.frame (frame : Frame collate call store locks store' locks')
    (upserted : Upserted store locks call state) : Upserted store' locks' call state where
  selected := (frame.selected _).trans upserted.selected
  locked := frame.held _ upserted.locked
  row := by
    rw [frame.conversation _ upserted.locked]
    exact upserted.row

theorem Numbered.frame (frame : Frame collate call store locks store' locks')
    (upserted : Upserted store locks call state) (numbered : Numbered store state) :
    Numbered store' state :=
  ⟨numbered.1, numbered.2.trans (by rw [frame.latestSeq upserted.locked])⟩

theorem Repeats.frame (frame : Frame collate call store locks store' locks')
    (repeats : Repeats collate store state) : Repeats collate store' state := by
  obtain ⟨unnumbered, duplicate, message, member, names⟩ := repeats
  exact ⟨unnumbered, duplicate, message, frame.messages _ member, names⟩

theorem Inserts.frame (frame : Frame collate call store locks store' locks')
    (upserted : Upserted store locks call state)
    (inserts : Inserts collate store locks call state) :
    Inserts collate store' locks' call state where
  numbered := inserts.numbered.frame frame upserted
  counter := inserts.counter
  message := inserts.message
  locked := frame.held _ inserts.locked
  fresh := frame.clientIds _ _ inserts.locked inserts.fresh

theorem Returned.mono (kept : ∀ message ∈ store.messages, message ∈ store'.messages)
    (returned : Returned collate store state) : Returned collate store' state where
  inserted message equal :=
    have inserted := returned.inserted message equal
    ⟨kept _ inserted.1, inserted.2⟩
  repeated none success := by
    obtain ⟨duplicate, message, member, names⟩ := returned.repeated none success
    exact ⟨duplicate, message, kept _ member, names⟩

/-- The invariant of a call survives what others do. -/
theorem Stage.frame (frame : Frame collate call store locks store' locks')
    (stage : Stage collate store locks call state) : Stage collate store' locks' call state := by
  unfold Stage at stage ⊢
  split at stage
  · exact ⟨(frame.selected _).trans stage.1, stage.2⟩
  · exact ⟨stage.1.frame frame, stage.2⟩
  · exact ⟨stage.1.frame frame, stage.2⟩
  · obtain ⟨upserted, fresh, unnumbered, read⟩ := stage
    exact ⟨upserted.frame frame, fresh, unnumbered,
      read.trans (frame.latestSeq upserted.locked).symm⟩
  · exact ⟨stage.1.frame frame, stage.2.1, stage.2.2.frame frame stage.1⟩
  · exact ⟨stage.1.frame frame, stage.2.1.frame frame stage.1, stage.2.2⟩
  · exact ⟨stage.1.frame frame, stage.2.imp (Repeats.frame frame) (Inserts.frame frame stage.1)⟩
  · exact ⟨stage.1.frame frame, stage.2.imp (Repeats.frame frame) (Inserts.frame frame stage.1)⟩
  · exact stage.mono frame.messages

theorem CallSound.frame (frame : Frame collate call store locks store' locks')
    (sound : CallSound collate store locks call state) :
    CallSound collate store' locks' call state where
  snapshot message member := frame.messages _ (sound.snapshot message member)
  pending := sound.pending
  stage := sound.stage.frame frame

end Frame

/-! ### The rules for one step -/

section Rules

variable {collate : String → String} {system : AcceptSystem} {call : Nat}

variable {state : AcceptCall}

section

variable (sound : AcceptSound collate system)
include sound

/-- A step of one call keeps the invariant when the others see a frame and it keeps its own part. -/
theorem AcceptSound.step {store : Store} {locks : LockKey → Option Nat} (keyed : Keyed store)
    (frame : ∀ other ≠ call, Frame collate other system.store system.locks store locks)
    (own : CallSound collate store locks call state) : AcceptSound collate
      { store, locks,
        calls := update system.calls call (some state) } where
  keyed := keyed
  calls other found same := by
    rcases update_eq_some same with ⟨rfl, rfl⟩ | ⟨elsewhere, earlier⟩
    · exact own
    · exact (sound.calls other found earlier).frame (frame other elsewhere)

/-- A step that writes nothing to the tables. -/
theorem AcceptSound.replace {locks : LockKey → Option Nat} (autoIncrement : Nat)
    (others : ∀ other ≠ call, ∀ key, system.locks key = some other → locks key = some other)
    (own : CallSound collate system.store locks call state) : AcceptSound collate
      { store := { system.store with autoIncrement }, locks,
        calls := update system.calls call (some state) } := by
  refine sound.step sound.keyed
    (fun other different => Frame.of_locks (others other different) _) ?_
  exact own.frame (Frame.of_locks (fun _ owned => owned) autoIncrement)

theorem AcceptSound.setCall (own : CallSound collate system.store system.locks call state) :
    AcceptSound collate (system.setCall call state) :=
  sound.replace system.store.autoIncrement (fun _ _ _ owned => owned) own

/-- A call that returns an error has inserted nothing. -/
theorem AcceptSound.finish (found : system.calls call = some state) (running : state.phase ≠ .done)
    (failed : accepted.error ≠ .success) (autoIncrement : Nat) : AcceptSound collate
      ({ system with store := { system.store with autoIncrement } }.finish call
        state accepted) := by
  have own := sound.calls call state found
  refine sound.replace autoIncrement (fun _ different _ owned => release_other different owned) ?_
  exact
    { snapshot := own.snapshot
      pending := fun done => absurd rfl done
      stage :=
        { inserted := fun message equal => by
            rw [show state.inserted = none from own.pending running] at equal
            cases equal
          repeated := fun _ success => absurd success failed } }

end

end Rules

/-! ### The store under the writes of a call -/

section Writes

variable {store : Store} {locks : LockKey → Option Nat} {call : Nat} {state : AcceptCall}

section

variable (upserted : Upserted store locks call state)
include upserted

/-- The upsert changes no counter. -/
theorem Upserted.latestSeqIn_upsert (other : Nat) :
    latestSeqIn (upsertConversation store.conversations state.accepted.conversationId
      state.writes.upsert) other = store.latestSeq other := by
  rcases upserted.row with ⟨none, _⟩ | ⟨insert, _⟩
  · rw [none]
    rfl
  · rw [insert]
    exact latestSeqIn_append_zero _ _ rfl other

/-- After the upsert the conversation has a row. -/
theorem Upserted.present : ((upsertConversation store.conversations state.accepted.conversationId
      state.writes.upsert).find? fun row =>
        row.conversationId = state.accepted.conversationId).isSome := by
  rcases upserted.row with ⟨none, present⟩ | ⟨insert, _⟩
  · rw [none]
    exact present
  · rw [insert, find?_isSome]
    exact ⟨_, mem_append_right _ (mem_singleton_self _), decide_eq_true rfl⟩

theorem Upserted.latestSeq_apply (unnumbered : Unnumbered state) :
    (store.apply state.accepted.conversationId state.writes).latestSeq = store.latestSeq := by
  funext other
  unfold Store.latestSeq Store.apply
  rw [unnumbered.1]
  exact upserted.latestSeqIn_upsert other

theorem Upserted.latestSeq_apply_some {latestSeq : Nat}
    (counter : state.writes.latestSeq = some latestSeq) :
    (store.apply state.accepted.conversationId state.writes).latestSeq =
      update store.latestSeq state.accepted.conversationId latestSeq := by
  funext other
  unfold Store.latestSeq Store.apply
  rw [counter]
  by_cases same : other = state.accepted.conversationId
  · rw [same, update_self]
    exact latestSeqIn_update_self latestSeq upserted.present
  · rw [update_of_ne same, latestSeqIn_update_of_ne _ _ same]
    exact upserted.latestSeqIn_upsert other

/-- The rows of other conversations are as they were. -/
theorem Upserted.conversation_apply_of_ne (different : other ≠ state.accepted.conversationId) :
    (store.apply state.accepted.conversationId state.writes).conversation other =
      store.conversation other := by
  unfold Store.conversation Store.apply
  rw [find?_updateLatestSeq_of_ne _ _ different]
  rcases upserted.row with ⟨none, _⟩ | ⟨insert, _⟩
  · rw [none]
    rfl
  rw [insert]
  unfold upsertConversation
  rw [find?_append, find?_singleton,
    if_neg fun same => different (of_decide_eq_true same).symm, or_none]

/-- The conversation of the call has a row after its writes. -/
theorem Upserted.isSome_apply_self :
    ((store.apply state.accepted.conversationId state.writes).conversation
      state.accepted.conversationId).isSome := by
  unfold Store.conversation Store.apply
  cases state.writes.latestSeq with
  | none => exact upserted.present
  | some latestSeq =>
    rw [find?_updateLatestSeq, isSome_map]
    exact upserted.present

/-- A conversation that has a row keeps one. -/
theorem Upserted.isSome_apply (present : (store.conversation other).isSome) :
    ((store.apply state.accepted.conversationId state.writes).conversation other).isSome := by
  by_cases same : other = state.accepted.conversationId
  · exact same ▸ upserted.isSome_apply_self
  · rw [upserted.conversation_apply_of_ne same]
    exact present

/-- The rows after the writes are the old ones and the inserted one, up to their counters. -/
theorem Upserted.forall_apply {property : ConversationRow → Prop}
    (counter : ∀ row latestSeq, property row → property { row with latestSeq })
    (old : ∀ row ∈ store.conversations, property row)
    (new : property (state.command.conversationRow state.accepted.conversationId)) :
    ∀ row ∈ (store.apply state.accepted.conversationId state.writes).conversations,
      property row := by
  have upsert : ∀ row ∈ upsertConversation store.conversations state.accepted.conversationId
      state.writes.upsert, property row := by
    rcases upserted.row with ⟨none, _⟩ | ⟨insert, _⟩
    · rw [none]
      exact old
    · rw [insert]
      exact forall_mem_append.mpr ⟨old, forall_mem_singleton.mpr new⟩
  intro row member
  change row ∈ updateLatestSeq _ _ state.writes.latestSeq at member
  cases written : state.writes.latestSeq with
  | none =>
    rw [written] at member
    exact upsert row member
  | some latestSeq =>
    rw [written] at member
    obtain ⟨before, beforeMember, equal⟩ := mem_map.mp member
    rw [← equal]
    split
    · exact counter before latestSeq (upsert before beforeMember)
    · exact upsert before beforeMember

theorem Upserted.keyed_apply (keyed : Keyed store) :
    Keyed (store.apply state.accepted.conversationId state.writes) :=
  upserted.forall_apply (fun _ _ => id) keyed
    ((keyedRow_iff upserted.selected rfl rfl).mpr rfl)

end

end Writes

/-! ### Each statement keeps the invariant -/

section Statements

variable {collate : String → String} {system : AcceptSystem} {call : Nat} {state : AcceptCall}

/-- What is known of a call at the statement it executes. -/
theorem AcceptSound.stage (sound : AcceptSound collate system)
    (found : system.calls call = some state) (reached : state.phase = phase) :
    Stage collate system.store system.locks call { state with phase } := by
  rw [← reached]
  exact (sound.calls call state found).stage

variable {locks : LockKey → Option Nat}

section

variable (sound : AcceptSound collate system) (found : system.calls call = some state)
  (running : state.phase ≠ .done) {writes : Writes}
include sound found running

/-- A call that executes a statement and has what its next one needs. -/
theorem AcceptSound.advance (autoIncrement : Nat)
    (others : ∀ other ≠ call, ∀ key, system.locks key = some other → locks key = some other)
    (stage : Stage collate system.store locks call
      { state with phase, accepted, writes }) :
    AcceptSound collate
      { store := { system.store with autoIncrement }, locks,
        calls := update system.calls call
          (some { state with phase, accepted, writes }) } :=
  sound.replace autoIncrement others
    { snapshot := (sound.calls call state found).snapshot
      pending := fun _ => (sound.calls call state found).pending running
      stage }

/-- The same when the statement takes no lock. -/
theorem AcceptSound.advance_setCall (stage : Stage collate system.store system.locks call
      { state with phase, accepted, writes }) :
    AcceptSound collate
      (system.setCall call { state with phase, accepted, writes }) :=
  sound.advance found running system.store.autoIncrement (fun _ _ _ owned => owned) stage

end

/-- With its message known a call of either kind goes on to the same invariant. -/
theorem stage_afterMessage {store : Store} {next : AcceptCall}
    (phase : next.phase = next.command.afterMessage) (upserted : Upserted store locks call next)
    (written : Repeats collate store next ∨ Inserts collate store locks call next) :
    Stage collate store locks call next := by
  have either : next.phase = .commit ∨ next.phase = .selectRecipients := by
    rw [phase]
    unfold afterMessage
    split
    · exact .inl rfl
    · exact .inr rfl
  unfold Stage
  rcases either with last | recipients
  · rw [last]
    exact ⟨upserted, written⟩
  · rw [recipients]
    exact ⟨upserted, written⟩

section

variable (sound : AcceptSound collate system)
include sound

theorem AcceptSound.begin (command : AcceptCommand) :
    AcceptSound collate (system.begin call command) := by
  have fresh : command.result.duplicate = false := by
    unfold result
    split <;> rfl
  unfold AcceptSystem.begin
  split
  · rename_i error selected
    refine sound.setCall
      { snapshot := fun _ member => member
        pending := fun _ => rfl
        stage := ⟨fun _ written => ?_, fun _ success => ?_⟩ }
    · cases written
    · exact absurd success (command.selectConversation_ne_success selected)
  rename_i conversationId selected
  exact sound.setCall
    { snapshot := fun _ member => member
      pending := fun _ => rfl
      stage := ⟨selected, fresh, rfl⟩ }

/-- Every statement keeps the invariant. -/
theorem AcceptSound.execute (found : system.calls call = some state)
    (taken : system.execute collate isolation call state = some next) :
    AcceptSound collate next := by
  have running := running_of_execute taken
  cases execute_cases taken with
  | upserted phase claims locked upserts =>
    obtain ⟨selected, fresh, unwritten⟩ := sound.stage found phase
    refine sound.advance found running system.store.autoIncrement (fun _ _ _ => claims.kept _ _) ?_
    cases upserts with
    | known present =>
      rw [unwritten]
      exact ⟨⟨selected, locked, .inl ⟨rfl, present⟩⟩, fresh, rfl, rfl⟩
    | created absent => exact ⟨⟨selected, locked, .inr ⟨rfl, absent⟩⟩, fresh, rfl, rfl⟩
    | rekeyed absent member keys =>
      have same := (keyedRow_iff selected keys.1 keys.2).mp (sound.keyed _ member)
      exact absurd (decide_eq_true same) (find?_eq_none.mp absent _ member)
  | insertedMembers phase =>
    obtain ⟨upserted, fresh, unnumbered⟩ := sound.stage found phase
    exact sound.advance_setCall found running ⟨{ upserted with }, fresh, unnumbered⟩
  | readSequence phase read =>
    obtain ⟨upserted, fresh, unnumbered⟩ := sound.stage found phase
    have counter := congrFun (upserted.latestSeq_apply unnumbered) state.accepted.conversationId
    refine sound.advance_setCall found running ⟨{ upserted with }, fresh, unnumbered, ?_⟩
    exact (Store.latestSeq_of_conversation read).symm.trans counter
  | notFound phase =>
    obtain ⟨upserted, fresh, unnumbered, read⟩ := sound.stage found phase
    exact sound.advance_setCall found running
      ⟨{ upserted with }, unnumbered, fresh, congrArg (· + 1) read⟩
  | @repeated latestSeq conversationSeq row phase read conversation sequence same =>
    obtain ⟨upserted, fresh, unnumbered, _⟩ := sound.stage found phase
    have visible : row ∈ system.store.messages := by
      have member := mem_of_find?_eq_some read
      cases isolation with
      | repeatableRead => exact (sound.calls call state found).snapshot row member
      | readCommitted => exact member
    refine sound.advance_setCall found running (stage_afterMessage rfl { upserted with } (.inl ?_))
    exact ⟨unnumbered, rfl, row, visible, find?_some read, rfl, conversation, sequence, same.1,
      same.2.2⟩
  | updatedSequence phase =>
    obtain ⟨upserted, unnumbered, numbered⟩ := sound.stage found phase
    exact sound.advance_setCall found running ⟨{ upserted with }, numbered, rfl⟩
  | insertedMessage phase claims locked fresh =>
    obtain ⟨upserted, numbered, counter⟩ := sound.stage found phase
    refine sound.advance found running (system.store.autoIncrement + 1)
      (fun _ _ _ => claims.kept _ _) ?_
    refine stage_afterMessage rfl
      ⟨upserted.selected, claims.kept _ _ upserted.locked, upserted.row⟩ (.inr ?_)
    exact ⟨numbered, counter, ⟨_, rfl, decide_eq_true ⟨rfl, rfl⟩, rfl, rfl, rfl, rfl, rfl⟩, locked,
      fresh⟩
  | readRecipients phase =>
    obtain ⟨upserted, written⟩ := sound.stage found phase
    refine sound.advance_setCall found running ⟨{ upserted with }, written.imp ?_ ?_⟩
    · rintro ⟨unnumbered, duplicate, message, member, names⟩
      exact ⟨unnumbered, duplicate, message, member, { names with }⟩
    · rintro ⟨numbered, counter, ⟨message, equal, names⟩, locked, fresh⟩
      exact ⟨numbered, counter, ⟨message, equal, { names with }⟩, locked, fresh⟩
  | failed autoIncrement _ error => exact sound.finish found running error autoIncrement

end

/-- The others hold other conversations and other client message ids, so they do not see the
commit. -/
theorem Upserted.frame_commit {store : Store} (upserted : Upserted store locks call state)
    (written : Repeats collate store state ∨ Inserts collate store locks call state)
    (different : other ≠ call) :
    Frame collate other store locks (store.apply state.accepted.conversationId state.writes)
      (release locks call) where
  selected _ := rfl
  held _ owned := release_other different owned
  conversation conversationId owned := by
    refine upserted.conversation_apply_of_ne fun same => different ?_
    rw [same, upserted.locked] at owned
    exact (some.inj owned).symm
  messages _ member := mem_append_left _ member
  clientIds senderId clientMessageId owned fresh message member holds := by
    rcases mem_append.mp member with old | new
    · exact fresh message old holds
    rcases written with ⟨unnumbered, _⟩ | ⟨_, _, ⟨inserted, equal, names⟩, locked, _⟩
    · rw [unnumbered.2] at new
      cases new
    rw [equal, toList_some, mem_singleton] at new
    rw [new] at holds
    have key := hasClientId_same names.clientId holds
    rw [← key.1, ← key.2, locked] at owned
    exact different (some.inj owned).symm

/-- So does a commit. -/
theorem AcceptSound.commit (sound : AcceptSound collate system)
    (found : system.calls call = some state) (reached : state.phase = .commit) (replied : Bool) :
    AcceptSound collate (system.commit call state replied) := by
  obtain ⟨upserted, written⟩ := sound.stage found reached
  have snapshot := (sound.calls call state found).snapshot
  refine sound.step (upserted.keyed_apply sound.keyed)
    (fun other different => upserted.frame_commit written different) ?_
  refine ⟨fun message member => mem_append_left _ (snapshot message member), nofun, ?_⟩
  rcases written with ⟨unnumbered, duplicate, message, member, names⟩ |
    ⟨numbered, _, ⟨message, equal, names⟩, _⟩
  · refine ⟨fun inserted same => ?_, fun _ _ => ?_⟩
    · cases unnumbered.2.symm.trans same
    · exact ⟨duplicate, message, mem_append_left _ member, { names with }⟩
  refine ⟨fun inserted same => ?_, fun none => ?_⟩
  · obtain rfl := some.inj (equal.symm.trans same)
    refine ⟨mem_append_right _ ?_, { names with }, numbered.1⟩
    exact mem_toList.mpr equal
  · cases equal.symm.trans none

end Statements

/-- And so every step does. -/
theorem acceptSound_step {collate : String → String} (system : AcceptSystem) (action : AcceptAction)
    (next : AcceptSystem) (sound : AcceptSound collate system)
    (taken : acceptStep collate isolation system action = some next) :
    AcceptSound collate next := by
  obtain ⟨call, command, rfl, _, rfl⟩ | ⟨call, state, rfl, found, executed⟩ |
    ⟨call, state, replied, rfl, found, reached, rfl⟩ |
    ⟨call, state, what, rfl, found, running, rfl⟩ := acceptStep_cases taken
  · exact sound.begin command
  · exact sound.execute found executed
  · exact sound.commit found reached replied
  · refine sound.finish found running ?_ system.store.autoIncrement
    exact nofun

/-! ### What a step does to the store -/

/-- The messages and the counters after a step of a call that has inserted the given message, or
none. -/
inductive Effect (collate : String → String) (before after : Store) : Option MessageRow → Prop
  | unchanged (messages : after.messages = before.messages)
      (latestSeq : after.latestSeq = before.latestSeq) : Effect collate before after none
  | appended (message : MessageRow) (conversationId : Nat)
      (conversation : message.conversationId = some conversationId)
      (sequence : message.conversationSeq = some (before.latestSeq conversationId + 1))
      (messages : after.messages = before.messages ++ [message])
      (latestSeq : after.latestSeq = update before.latestSeq conversationId
        (before.latestSeq conversationId + 1))
      (fresh : ∀ senderId clientMessageId,
        hasClientId collate senderId clientMessageId message → ∀ other ∈ before.messages,
          ¬ hasClientId collate senderId clientMessageId other) :
      Effect collate before after (some message)

/-- The step is one of the call's, and these are its effects. -/
structure Took (collate : String → String) (system : AcceptSystem) (call : Nat)
    (next : AcceptSystem) : Prop where
  others : ∀ other ≠ call, next.calls other = system.calls other
  own : ∃ state, next.calls call = some state ∧
    Effect collate system.store next.store state.inserted

section Took

variable {collate : String → String} {system : AcceptSystem} {call : Nat} {state : AcceptCall}

/-- A step that writes nothing to the tables. -/
theorem took_replace (autoIncrement : Nat) (locks : LockKey → Option Nat) {after : AcceptCall}
    (inserted : after.inserted = none) :
    Took collate system call
      { store := { system.store with autoIncrement }, locks,
        calls := update system.calls call (some after) } where
  others other different := update_of_ne different _ _
  own := by
    refine ⟨after, update_self .., ?_⟩
    rw [inserted]
    exact .unchanged rfl rfl

theorem took_setCall {after : AcceptCall} (inserted : after.inserted = none) :
    Took collate system call (system.setCall call after) :=
  took_replace system.store.autoIncrement system.locks inserted

theorem took_finish (inserted : state.inserted = none) (accepted : AcceptResult) :
    Took collate system call (system.finish call state accepted) :=
  took_replace system.store.autoIncrement _ inserted

theorem took_execute (inserted : state.inserted = none)
    (taken : system.execute collate isolation call state = some next) :
    Took collate system call next := by
  obtain ⟨autoIncrement, locks, after, rfl, executed⟩ := AcceptSystem.execute_outcome taken
  exact took_replace autoIncrement locks (executed.inserted.trans inserted)

theorem took_commit (sound : AcceptSound collate system) (found : system.calls call = some state)
    (reached : state.phase = .commit) (replied : Bool) :
    Took collate system call (system.commit call state replied) where
  others other different := update_of_ne different _ _
  own := by
    refine ⟨_, update_self .., ?_⟩
    change Effect collate system.store
      (system.store.apply state.accepted.conversationId state.writes) state.writes.message
    obtain ⟨upserted, written⟩ := sound.stage found reached
    rcases written with ⟨unnumbered, _⟩ | ⟨⟨_, next⟩, counter, ⟨message, equal, names⟩, _, fresh⟩
    · have messages : (system.store.apply state.accepted.conversationId state.writes).messages =
          system.store.messages := by
        unfold Store.apply
        rw [unnumbered.2]
        exact append_nil _
      rw [unnumbered.2]
      exact .unchanged messages (upserted.latestSeq_apply unnumbered)
    have messages : (system.store.apply state.accepted.conversationId state.writes).messages =
        system.store.messages ++ [message] := by
      unfold Store.apply
      rw [equal]
      rfl
    rw [equal]
    refine .appended message state.accepted.conversationId names.conversationId
      (names.conversationSeq.trans (congrArg some next)) messages ?_ ?_
    · rw [upserted.latestSeq_apply_some counter]
      exact congrArg _ next
    intro senderId clientMessageId holds other member otherHolds
    obtain ⟨sender, client⟩ := hasClientId_same names.clientId holds
    refine fresh other member ?_
    unfold hasClientId at otherHolds ⊢
    rw [sender, client]
    exact otherHolds

/-- Every step is one of some call's: it leaves the messages and the counters, or it appends the
one message that call inserts. -/
theorem acceptStep_took {action : AcceptAction} (sound : AcceptSound collate system)
    (taken : acceptStep collate isolation system action = some next) :
    Took collate system action.call next := by
  obtain ⟨call, command, rfl, _, rfl⟩ | ⟨call, state, rfl, found, executed⟩ |
    ⟨call, state, replied, rfl, found, reached, rfl⟩ |
    ⟨call, state, what, rfl, found, running, rfl⟩ := acceptStep_cases taken
  · unfold begin
    split
    · refine took_setCall ?_
      rfl
    · refine took_setCall ?_
      rfl
  · have running := running_of_execute executed
    exact took_execute ((sound.calls call state found).pending running) executed
  · exact took_commit sound found reached replied
  · exact took_finish ((sound.calls call state found).pending running) _

end Took

end Wimi.Server
