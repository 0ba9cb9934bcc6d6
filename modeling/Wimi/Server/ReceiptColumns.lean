/-
This file proves that accepting a message reads no receipt. The columns `status`
and `readDateTime` of a message and the two cursors of a member are written by
receipts; no statement of an accepting call reads them.

`strip` sets these columns back to what an insert writes. A step of an accepting
call on the stripped system is the stripped step (`acceptStep_strip`), so whatever
the accepting calls keep on the stripped system they keep while receipts change
those columns between their statements.
-/

import Wimi.Server.Density

namespace Wimi.Server

open Function List Option

/-! ### Stripping the receipt columns -/

/-- A message without its receipts. -/
def MessageRow.strip (row : MessageRow) : MessageRow :=
  { row with status := .wait, readDateTime := "" }

/-- A member without its receipts. -/
def MemberRow.strip (row : MemberRow) : MemberRow :=
  { row with deliveredSeq := 0, readSeq := 0 }

/-- The tables without their receipts. -/
def Store.strip (store : Store) : Store :=
  { store with
    conversationMembers := store.conversationMembers.map MemberRow.strip
    messages := store.messages.map MessageRow.strip }

/-- What a transaction has written, without receipts. -/
def Writes.strip (writes : Writes) : Writes :=
  { writes with
    members := writes.members.map MemberRow.strip
    message := writes.message.map MessageRow.strip }

/-- A call whose rows have no receipts. -/
def AcceptCall.strip (state : AcceptCall) : AcceptCall :=
  { state with
    snapshot := state.snapshot.strip
    writes := state.writes.strip
    inserted := state.inserted.map MessageRow.strip }

/-- The whole system without receipts. -/
def AcceptSystem.strip (system : AcceptSystem) : AcceptSystem where
  store := system.store.strip
  locks := system.locks
  calls call := (system.calls call).map AcceptCall.strip

open AcceptSystem

theorem AcceptCall.strip_command (state : AcceptCall) : state.strip.command = state.command := rfl

theorem AcceptCall.strip_accepted (state : AcceptCall) : state.strip.accepted = state.accepted :=
  rfl

theorem AcceptSystem.strip_locks (system : AcceptSystem) : system.strip.locks = system.locks := rfl

theorem Store.strip_apply (store : Store) (conversationId : Nat) (writes : Writes) :
    (store.apply conversationId writes).strip = store.strip.apply conversationId writes.strip := by
  unfold Store.apply Store.strip Writes.strip
  rw [map_append, map_append, toList_map]

theorem Store.sequences_strip (store : Store) : store.strip.sequences = store.sequences := by
  funext conversationId
  unfold Store.sequences Store.messagesOf Store.strip
  rw [List.filter_map, List.map_map]
  rfl

/-- Receipts do not matter to the sequence numbers. -/
theorem dense_strip {store : Store} : Dense store.strip ↔ Dense store := by
  unfold Dense
  rw [store.sequences_strip]
  rfl

theorem hasClientId_strip (collate : String → String) (senderId : Nat) (clientMessageId : String) :
    (hasClientId collate senderId clientMessageId ∘ MessageRow.strip) =
      hasClientId collate senderId clientMessageId := rfl

/-- Which members are new does not depend on receipts. -/
theorem newMembers_strip (present rows : List MemberRow) :
    newMembers (present.map MemberRow.strip) (rows.map MemberRow.strip) =
      (newMembers present rows).map MemberRow.strip := by
  induction rows generalizing present with
  | nil => rfl
  | cons row rest inductionHypothesis =>
    have same : ((present.map MemberRow.strip).any fun other =>
        other.conversationId = row.strip.conversationId ∧ other.uid = row.strip.uid) =
        present.any fun other =>
          other.conversationId = row.conversationId ∧ other.uid = row.uid := by
      rw [List.any_map]
      rfl
    rw [map_cons, newMembers, newMembers, same]
    split
    · exact inductionHypothesis present
    · exact congrArg _ (inductionHypothesis (row :: present))

/-- The members a command adds have no receipts. -/
theorem AcceptCommand.members_strip (command : AcceptCommand) (view : Store)
    (conversationId : Nat) :
    (command.members view conversationId).map MemberRow.strip =
      command.members view.strip conversationId := by
  unfold AcceptCommand.members
  cases command.type with
  | direct => rfl
  | group =>
    have same : view.strip.conversation conversationId = view.conversation conversationId := rfl
    rw [same]
    cases view.conversation conversationId with
    | none => rfl
    | some row =>
      rw [List.map_map]
      rfl

/-! ### Each step commutes with it -/

section Steps

variable (collate : String → String) (isolation : Isolation) (system : AcceptSystem) (call : Nat)
  (state : AcceptCall)

/-- A step that replaces the state of a call. -/
theorem AcceptSystem.strip_update (store : Store) (locks : LockKey → Option Nat) :
    strip
        { store, locks,
          calls := update system.calls call (some state) } =
      { store := store.strip, locks,
        calls := update system.strip.calls call (some state.strip) } := by
  unfold strip
  congr 1
  exact comp_update (Option.map AcceptCall.strip) system.calls call (some state)

theorem AcceptSystem.strip_setCall :
    (system.setCall call state).strip = system.strip.setCall call state.strip :=
  system.strip_update call state system.store system.locks

theorem AcceptSystem.strip_finish (accepted : AcceptResult) :
    (system.finish call state accepted).strip = system.strip.finish call state.strip accepted :=
  system.strip_update call _ system.store _

theorem AcceptSystem.strip_begin (command : AcceptCommand) :
    (system.begin call command).strip = system.strip.begin call command := by
  have same : command.selectConversation system.strip.store =
      command.selectConversation system.store := rfl
  unfold begin
  rw [same]
  cases command.selectConversation system.store with
  | error | ok => exact system.strip_setCall call _

theorem AcceptSystem.strip_upsertConversation :
    (system.upsertConversation call state).map strip =
      system.strip.upsertConversation call state.strip := by
  have conversations : system.strip.store.conversations = system.store.conversations := rfl
  have conversation : system.strip.store.conversation = system.store.conversation := rfl
  unfold upsertConversation
  rw [AcceptCall.strip_command, AcceptCall.strip_accepted, strip_locks, conversations,
    conversation]
  dsimp only
  split
  · split
    · exact congrArg some (system.strip_update call _ system.store _)
    split
    · split
      · exact congrArg some (system.strip_update call _ system.store _)
      split
      · exact congrArg some (system.strip_update call _ system.store _)
      · rfl
    · rfl
  · rfl

theorem AcceptSystem.strip_insertMembers :
    (system.insertMembers call state).strip = system.strip.insertMembers call state.strip := by
  unfold insertMembers
  rw [strip_setCall]
  have rows := newMembers_strip
    (system.store.apply state.accepted.conversationId state.writes).conversationMembers
    (state.command.members (system.store.apply state.accepted.conversationId state.writes)
      state.accepted.conversationId)
  rw [AcceptCommand.members_strip] at rows
  change newMembers (Store.strip _).conversationMembers _ = _ at rows
  rw [Store.strip_apply] at rows
  exact congrArg (fun members => system.strip.setCall call
    { state.strip with
      phase := .selectSequence
      writes := { state.writes.strip with members } }) rows.symm

theorem AcceptSystem.strip_selectSequence :
    (system.selectSequence call state).strip = system.strip.selectSequence call state.strip := by
  have view : (system.strip.store.apply state.strip.accepted.conversationId
      state.strip.writes).conversation state.strip.accepted.conversationId =
      (system.store.apply state.accepted.conversationId state.writes).conversation
        state.accepted.conversationId := rfl
  unfold selectSequence
  dsimp only
  rw [view]
  split
  · exact system.strip_finish call state _
  · exact system.strip_setCall call _

theorem AcceptSystem.strip_selectDuplicate (latestSeq : Nat) :
    (system.selectDuplicate collate isolation call state latestSeq).strip =
      system.strip.selectDuplicate collate isolation call state.strip latestSeq := by
  have messages : (readView isolation state.strip.snapshot system.strip.store).messages =
      (readView isolation state.snapshot system.store).messages.map MessageRow.strip := by
    cases isolation <;> rfl
  unfold selectDuplicate
  rw [messages, find?_map, AcceptCall.strip_command, hasClientId_strip]
  cases (readView isolation state.snapshot system.store).messages.find?
    (hasClientId collate state.command.senderId state.command.clientMessageId) with
  | none => exact system.strip_setCall call _
  | some row =>
    simp only [map_some, MessageRow.strip]
    split
    · exact system.strip_finish call state _
    split
    · rename_i sameCommand
      refine .trans ?_ (if_pos sameCommand).symm
      split
      · exact system.strip_finish call state _
      · exact system.strip_setCall call _
    rename_i different
    refine .trans ?_ (if_neg different).symm
    exact system.strip_finish call state _

theorem AcceptSystem.strip_insertMessage :
    (system.insertMessage collate call state).map strip =
      system.strip.insertMessage collate call state.strip := by
  have present : ∀ keyed : MessageRow → Bool, keyed ∘ MessageRow.strip = keyed →
      system.strip.store.messages.any keyed = system.store.messages.any keyed := by
    intro keyed same
    change (system.store.messages.map MessageRow.strip).any keyed = _
    rw [List.any_map, same]
  unfold insertMessage
  dsimp only
  rw [present _ rfl]
  split
  · rename_i available
    refine .trans ?_ (if_pos available).symm
    split
    · rename_i taken
      refine .trans ?_ (if_pos taken).symm
      exact congrArg some (system.strip_update call _ _ _)
    rename_i free
    refine .trans ?_ (if_neg free).symm
    exact congrArg some (system.strip_update call _ _ _)
  rename_i locked
  refine .trans ?_ (if_neg locked).symm
  rfl

theorem AcceptSystem.strip_selectRecipients :
    (system.selectRecipients isolation call state).strip =
      system.strip.selectRecipients isolation call state.strip := by
  have members : (readView isolation state.strip.snapshot system.strip.store).groupMembers =
      (readView isolation state.snapshot system.store).groupMembers := by
    cases isolation <;> rfl
  unfold selectRecipients
  rw [members]
  exact system.strip_setCall call _

/-- A commit on the stripped system is the stripped commit. -/
theorem AcceptSystem.strip_commit (replied : Bool) :
    (system.commit call state replied).strip = system.strip.commit call state.strip replied := by
  have applied := system.store.strip_apply state.accepted.conversationId state.writes
  refine (system.strip_update call _ _ _).trans ?_
  rw [applied]
  rfl

/-- A statement reads no receipt. -/
theorem AcceptSystem.strip_execute :
    (system.execute collate isolation call state).map strip =
      system.strip.execute collate isolation call state.strip := by
  have phase : state.strip.phase = state.phase := rfl
  unfold execute
  rw [phase]
  split
  · exact system.strip_upsertConversation call state
  · exact congrArg some (system.strip_insertMembers call state)
  · exact congrArg some (system.strip_selectSequence call state)
  · exact congrArg some (system.strip_selectDuplicate collate isolation call state _)
  · exact congrArg some (system.strip_setCall call _)
  · exact system.strip_insertMessage collate call state
  · exact congrArg some (system.strip_selectRecipients isolation call state)
  · rfl
  · rfl

/-- A step on the stripped system is the stripped step. -/
theorem acceptStep_strip (action : AcceptAction) :
    (acceptStep collate isolation system action).map strip =
      acceptStep collate isolation system.strip action := by
  have lookup : ∀ call, system.strip.calls call = (system.calls call).map AcceptCall.strip :=
    fun _ => rfl
  cases action with simp only [acceptStep, lookup]
  | begin call command =>
    cases system.calls call with
    | none => exact congrArg some (system.strip_begin call command)
    | some state => rfl
  | execute call =>
    cases system.calls call with
    | none => rfl
    | some state => exact system.strip_execute collate isolation call state
  | commit call replied =>
    cases system.calls call with
    | none => rfl
    | some state =>
      change Option.map _ (if state.phase = .commit then _ else none) =
        if state.phase = .commit then _ else none
      split
      · exact congrArg some (system.strip_commit call state replied)
      · rfl
  | fail call what =>
    cases system.calls call with
    | none => rfl
    | some state =>
      change Option.map _ (if state.phase = .done then none else _) =
        if state.phase = .done then none else _
      split
      · rfl
      · exact congrArg some (system.strip_finish call state _)

end Steps

end Wimi.Server
