/-
This file is about two `acceptDirectText` transactions that carry one message at the
same time, as they arise when the gateway sends a command again to another node while
the first node is still at work.

The lock on the conversation brings the two into an order: from its upsert to its end a
transaction is alone. The lookup of an earlier message comes after the lock, but it is a
plain `SELECT`, and its snapshot was taken by the first statement, before the lock. So
the second transaction does not see what the first has committed while it waited. It
goes on to insert, meets the unique key and returns `MysqlFailed`.

Both succeed exactly if the message was stored before either of them began. Nothing is
asked of the tables at the start, and that both return is part of the result.
-/

import Wimi.Server.Idempotency

namespace Wimi.Server

open Function List Option Transition AcceptSystem

/-! ### Who holds the conversation -/

def AcceptPhase.holding : AcceptPhase → Bool
  | .upsertConversation | .done => false
  | _ => true

theorem AcceptCommand.holding_afterMessage (command : AcceptCommand) :
    command.afterMessage.holding = true := by
  unfold AcceptCommand.afterMessage
  split <;> rfl

structure LockSound (system : AcceptSystem) : Prop where
  held : ∀ call state, system.calls call = some state → state.phase.holding →
    system.locks (.conversation state.accepted.conversationId) = some call
  holder : ∀ key call, system.locks key = some call →
    ∃ state, system.calls call = some state ∧ state.phase.holding

variable {locks : LockKey → Option Nat} {state after : AcceptCall} {isolation : Isolation}
  {store : Store} {hasKey : MessageRow → Bool} {collate : String → String}
  {system next : AcceptSystem} {call : Nat}

structure GoesOn (system : AcceptSystem) (call : Nat) (state : AcceptCall)
    (locks : LockKey → Option Nat) (after : AcceptCall) : Prop where
  command : after.command = state.command
  snapshot : after.snapshot = state.snapshot
  conversation : after.accepted.conversationId = state.accepted.conversationId
  holding : after.phase.holding
  claims : Claims system.locks call locks
  locked : state.phase.holding ∨
    locks (.conversation state.accepted.conversationId) = some call

theorem Upserts.present {writes : Writes} (upserts : Upserts store state writes)
    (empty : state.writes = {}) :
    ((store.apply state.accepted.conversationId writes).conversation
      state.accepted.conversationId).isSome := by
  cases upserts with
  | known present =>
    rw [empty]
    exact present
  | created =>
    exact find?_isSome.mpr ⟨_, mem_append_right _ (mem_singleton_self _), decide_eq_true rfl⟩
  | @rekeyed old absent member keys =>
    refine find?_isSome.mpr
      ⟨{ old with conversationId := state.accepted.conversationId }, ?_, decide_eq_true rfl⟩
    exact mem_map.mpr ⟨old, member, if_pos rfl⟩

theorem AcceptSystem.execute_goesOn
    (taken : system.execute collate isolation call state = some next) :
    ∃ autoIncrement,
      (∃ accepted, accepted.error ≠ .success ∧
        next = { system with
          store := { system.store with autoIncrement } }.finish call state accepted) ∨
      ∃ locks after,
        next = { store := { system.store with autoIncrement }, locks,
                 calls := Function.update system.calls call (some after) } ∧
        GoesOn system call state locks after := by
  have unchanged := Claims.refl system.locks call
  cases execute_cases taken with
  | upserted _ claims locked =>
    exact ⟨system.store.autoIncrement, .inr ⟨_, _, rfl, rfl, rfl, rfl, rfl, claims, .inr locked⟩⟩
  | insertedMembers phase | readSequence phase | notFound phase | updatedSequence phase
  | readRecipients phase =>
    exact ⟨system.store.autoIncrement,
      .inr ⟨_, _, rfl, rfl, rfl, rfl, rfl, unchanged, .inl (by rw [phase]; rfl)⟩⟩
  | repeated phase =>
    exact ⟨system.store.autoIncrement, .inr ⟨_, _, rfl, rfl, rfl, rfl,
      state.command.holding_afterMessage, unchanged, .inl (by rw [phase]; rfl)⟩⟩
  | insertedMessage phase claims =>
    exact ⟨_, .inr ⟨_, _, rfl, rfl, rfl, rfl, state.command.holding_afterMessage, claims,
      .inl (by rw [phase]; rfl)⟩⟩
  | failed _ accepted error => exact ⟨_, .inl ⟨accepted, error, rfl⟩⟩

theorem AcceptSystem.not_succeeded_of_execute
    (taken : system.execute collate isolation call state = some next)
    (now : next.calls call = some after) : ¬ Succeeded after := by
  obtain ⟨autoIncrement, ⟨accepted, failed, rfl⟩ | ⟨locks, later, rfl, goesOn⟩⟩ :=
    execute_goesOn taken
  · cases (Function.update_self call _ system.calls).symm.trans now
    exact fun success => failed success.2
  cases (Function.update_self call _ system.calls).symm.trans now
  rintro ⟨done, -⟩
  have holding := goesOn.holding
  rw [done] at holding
  cases holding

theorem LockSound.initial (store : Store) : LockSound { store } :=
  ⟨fun _ _ found => (by cases found), fun _ _ held => (by cases held)⟩

section

variable (sound : LockSound system)
include sound

theorem LockSound.finish (state : AcceptCall) (accepted : AcceptResult) (store : Store) :
    LockSound ({ system with store }.finish call state accepted) := by
  refine ⟨fun other found same holding => ?_, fun key other owned => ?_⟩
  · rcases update_eq_some same with ⟨rfl, rfl⟩ | ⟨elsewhere, earlier⟩
    · cases holding
    · exact release_other elsewhere (sound.held other found earlier holding)
  simp only [AcceptSystem.finish, release] at owned
  split at owned
  · cases owned
  rename_i notOwn
  have elsewhere : other ≠ call := by
    rintro rfl
    exact notOwn owned
  obtain ⟨state, found, holding⟩ := sound.holder key other owned
  exact ⟨state, (update_of_ne elsewhere ..).trans found, holding⟩

theorem LockSound.goesOn (found : system.calls call = some state)
    (goesOn : GoesOn system call state locks after) (store : Store) :
    LockSound { store, locks,
                calls := Function.update system.calls call (some after) } := by
  refine ⟨fun other now same holding => ?_, fun key other owned => ?_⟩
  · rcases update_eq_some same with ⟨rfl, rfl⟩ | ⟨elsewhere, earlier⟩
    · rw [goesOn.conversation]
      rcases goesOn.locked with before | taken
      · exact goesOn.claims.kept _ _ (sound.held other state found before)
      · exact taken
    · exact goesOn.claims.kept _ _ (sound.held other now earlier holding)
  by_cases same : other = call
  · exact ⟨after, by rw [same]; exact Function.update_self .., goesOn.holding⟩
  obtain ⟨state, earlier, holding⟩ := sound.holder key other
    ((goesOn.claims.source key other owned).resolve_left same)
  exact ⟨state, (update_of_ne same ..).trans earlier, holding⟩

theorem LockSound.begin (free : system.calls call = none) (command : AcceptCommand) :
    LockSound (system.begin call command) := by
  have started : ∀ state : AcceptCall, state.phase.holding = false →
      LockSound (system.setCall call state) := by
    refine fun state waits => ⟨fun other found same holding => ?_, fun key other owned => ?_⟩
    · rcases update_eq_some same with ⟨rfl, rfl⟩ | ⟨elsewhere, earlier⟩
      · rw [waits] at holding
        cases holding
      · exact sound.held other found earlier holding
    obtain ⟨now, found, holding⟩ := sound.holder key other owned
    refine ⟨now, (update_of_ne ?_ ..).trans found, holding⟩
    rintro rfl
    rw [free] at found
    cases found
  unfold AcceptSystem.begin
  split
  · exact started _ rfl
  · exact started _ rfl

theorem LockSound.exclusive {other : Nat} {state' : AcceptCall}
    (found : system.calls call = some state) (found' : system.calls other = some state')
    (same : state.accepted.conversationId = state'.accepted.conversationId)
    (holding : state.phase.holding) (holding' : state'.phase.holding) : call = other := by
  have one := sound.held call state found holding
  rw [same, sound.held other state' found' holding'] at one
  exact (some.inj one).symm

end

/-! ### Two transactions with one message -/

/-- The other command is the same text, sent at another time perhaps. -/
def SameText (command other : AcceptCommand) : Prop :=
  other = { command with sendDateTime := other.sendDateTime }

instance (command other : AcceptCommand) : Decidable (SameText command other) :=
  inferInstanceAs (Decidable (_ = _))

/-- What two transactions can do without a failure and with every reply arriving. -/
def pairActions (first second : Nat) (one other : AcceptCommand) : List AcceptAction :=
  [.begin first one, .begin second other, .execute first, .execute second, .commit first true,
    .commit second true]

/-- Both calls have returned `Success` with one message. -/
def BothSucceed (first second : Nat) (system : AcceptSystem) : Prop :=
  ∃ state state', system.calls first = some state ∧ system.calls second = some state' ∧
    Succeeded state ∧ Succeeded state' ∧
    state.accepted.messageId = state'.accepted.messageId ∧
    state.accepted.conversationSeq = state'.accepted.conversationSeq

structure Carries (command : AcceptCommand) (conversationId : Nat) (row : MessageRow) : Prop where
  conversationId : row.conversationId = some conversationId
  receiverId : row.receiverId = command.receiverId
  type : row.type = .text
  content : row.content = command.content
  conversationSeq : row.conversationSeq.isSome

def AlreadyStored (collate : String → String) (store : Store) (command : AcceptCommand) : Prop :=
  ∃ conversationId row, command.selectConversation store = .ok conversationId ∧
    store.messages.find? (hasClientId collate command.senderId command.clientMessageId) =
      some row ∧
    Carries command conversationId row

structure Paired (start : Store) (first second : Nat) (command : AcceptCommand)
    (system : AcceptSystem) : Prop where
  selected : ∀ command : AcceptCommand,
    command.selectConversation system.store = command.selectConversation start
  locks : LockSound system
  two : ∀ call state, system.calls call = some state → call = first ∨ call = second
  text : ∀ call state, system.calls call = some state → SameText command state.command
  snapshot : ∀ call state, system.calls call = some state →
    state.snapshot.messages = start.messages
  conversation : ∀ call state, system.calls call = some state → state.phase ≠ .done →
    command.selectConversation start = .ok state.accepted.conversationId

variable {start : Store} {first second : Nat} {command other : AcceptCommand}
  {action : AcceptAction} {conversationId : Nat} {row : MessageRow}

section

variable (same : SameText command other)
include same

theorem SameText.selectConversation (store : Store) :
    other.selectConversation store = command.selectConversation store := by
  rw [same]
  rfl

theorem SameText.senderId : other.senderId = command.senderId := by
  rw [same]

theorem SameText.clientMessageId : other.clientMessageId = command.clientMessageId := by
  rw [same]

theorem SameText.receiverId : other.receiverId = command.receiverId := by
  rw [same]

theorem SameText.content : other.content = command.content := by
  rw [same]

theorem SameText.type : other.type = command.type := by
  rw [same]

end

theorem Paired.initial : Paired start first second command { store := start } where
  selected _ := rfl
  locks := .initial start
  two _ _ found := by cases found
  text _ _ found := by cases found
  snapshot _ _ found := by cases found
  conversation _ _ found := by cases found

theorem Paired.update (paired : Paired start first second command system)
    (selected : ∀ command : AcceptCommand,
      command.selectConversation store = command.selectConversation start) (sound : LockSound
      { store, locks,
        calls := Function.update system.calls call (some after) })
    (ours : call = first ∨ call = second) (text : SameText command after.command)
    (snapshot : after.snapshot.messages = start.messages) (conversation : after.phase ≠ .done →
      command.selectConversation start = .ok after.accepted.conversationId) :
    Paired start first second command
      { store, locks,
        calls := Function.update system.calls call (some after) } where
  selected := selected
  locks := sound
  two := forall_update paired.two ours
  text := forall_update paired.text text
  snapshot := forall_update paired.snapshot snapshot
  conversation := forall_update paired.conversation conversation

inductive PairMove (collate : String → String) (command : AcceptCommand) (system : AcceptSystem) :
    AcceptSystem → Prop
  | begin (call : Nat) (text : AcceptCommand) (same : SameText command text) :
      PairMove collate command system (system.begin call text)
  | execute (call : Nat) (state : AcceptCall) {next : AcceptSystem}
      (found : system.calls call = some state)
      (executed : system.execute collate .repeatableRead call state = some next) :
      PairMove collate command system next
  | commit (call : Nat) (state : AcceptCall) (found : system.calls call = some state)
      (phase : state.phase = .commit) :
      PairMove collate command system (system.commit call state true)

theorem Paired.step_cases (paired : Paired start first second command system)
    (same : SameText command other) (ours : action ∈ pairActions first second command other)
    (unchanged : ∀ call text, action = .begin call text → system.calls call = none →
      system.store.messages = start.messages)
    (taken : acceptStep collate .repeatableRead system action = some next) :
    Paired start first second command next ∧ PairMove collate command system next := by
  obtain ⟨call, text, rfl, free, rfl⟩ | ⟨call, state, rfl, found, executed⟩ |
    ⟨call, state, replied, rfl, found, phase, rfl⟩ | ⟨call, state, what, rfl, -, -, rfl⟩ :=
    acceptStep_cases taken
  · have begun : (call = first ∨ call = second) ∧ SameText command text := by
      simp only [pairActions, mem_cons, AcceptAction.begin.injEq, reduceCtorEq, or_false,
        not_mem_nil] at ours
      rcases ours with ⟨rfl, rfl⟩ | ⟨rfl, rfl⟩
      · exact ⟨.inl rfl, rfl⟩
      · exact ⟨.inr rfl, same⟩
    refine ⟨?_, .begin call text begun.2⟩
    have sound := paired.locks.begin free text
    have read : text.selectConversation system.store = command.selectConversation start :=
      (paired.selected text).trans (begun.2.selectConversation start)
    unfold begin at sound ⊢
    split at sound
    · rename_i error refused
      exact paired.update paired.selected sound begun.1 begun.2 (unchanged call text rfl free)
        fun running => absurd rfl running
    rename_i conversationId selected
    exact paired.update paired.selected sound begun.1 begun.2 (unchanged call text rfl free)
      fun _ => read.symm.trans selected
  · refine ⟨?_, .execute call state found executed⟩
    have conversation := paired.conversation call state found
      (running_of_execute executed)
    obtain ⟨autoIncrement, ⟨accepted, -, rfl⟩ | ⟨locks, after, rfl, goesOn⟩⟩ :=
      execute_goesOn executed
    · exact paired.update paired.selected (paired.locks.finish state accepted _)
        (paired.two call state found) (paired.text call state found)
        (paired.snapshot call state found) fun running => absurd rfl running
    refine paired.update paired.selected (paired.locks.goesOn found goesOn _)
      (paired.two call state found) ?_ ?_ fun _ => ?_
    · exact goesOn.command ▸ paired.text call state found
    · exact goesOn.snapshot ▸ paired.snapshot call state found
    · rw [goesOn.conversation]
      exact conversation
  · have replies : replied = true := by
      simp only [pairActions, mem_cons, AcceptAction.commit.injEq, reduceCtorEq, false_or,
        or_false, not_mem_nil] at ours
      rcases ours with ⟨-, replies⟩ | ⟨-, replies⟩ <;> exact replies
    subst replies
    refine ⟨?_, .commit call state found phase⟩
    exact paired.update paired.selected (paired.locks.finish _ _ _) (paired.two call state found)
      (paired.text call state found) (paired.snapshot call state found)
      fun running => absurd rfl running
  · simp [pairActions] at ours

theorem Paired.not_holding_of_commit (paired : Paired start first second command system)
    {other : Nat} {state' : AcceptCall} (found : system.calls call = some state)
    (phase : state.phase = .commit) (found' : system.calls other = some state')
    (elsewhere : other ≠ call) : state'.phase.holding = false := by
  by_contra wrong
  have holding : state'.phase.holding := by simpa using wrong
  have commits : state.phase.holding := by rw [phase]; rfl
  have running : state.phase ≠ .done := by rw [phase]; exact fun wrong => by cases wrong
  have running' : state'.phase ≠ .done := by
    intro done
    rw [done] at holding
    cases holding
  have one := paired.conversation call state found running
  rw [paired.conversation other state' found' running'] at one
  exact elsewhere (paired.locks.exclusive found' found (Except.ok.inj one) holding commits)

/-! ### The message is there -/

def Repeating (conversationId : Nat) (row : MessageRow) (store : Store) (state : AcceptCall) :
    Prop :=
  match state.phase with
  | .upsertConversation => state.writes = {}
  | .insertMembers | .selectSequence =>
    ((store.apply conversationId state.writes).conversation conversationId).isSome
  | .selectDuplicate _ => True
  | .commit =>
    state.accepted.messageId = row.messageId ∧
      row.conversationSeq = some state.accepted.conversationSeq
  | .done =>
    state.accepted.error = .success ∧ state.accepted.messageId = row.messageId ∧
      row.conversationSeq = some state.accepted.conversationSeq
  | .updateSequence | .insertMessage | .selectRecipients => False

theorem Repeating.of_not_holding {store' : Store}
    (repeating : Repeating conversationId row store state) (waits : state.phase.holding = false) :
    Repeating conversationId row store' state := by
  unfold Repeating at repeating ⊢
  cases phase : state.phase with
  | upsertConversation | done =>
    rw [phase] at repeating
    exact repeating
  | insertMembers | selectSequence | selectDuplicate _ | updateSequence | insertMessage
  | selectRecipients | commit =>
    rw [phase] at waits
    cases waits

theorem Paired.selectDuplicate_stored (paired : Paired start first second command system)
    (direct : command.type = .direct) (found : system.calls call = some state)
    (conversation : state.accepted.conversationId = conversationId) (stored : start.messages.find?
      (hasClientId collate command.senderId command.clientMessageId) = some row)
    (carries : Carries command conversationId row) (latestSeq : Nat) :
    ∃ conversationSeq, row.conversationSeq = some conversationSeq ∧
      system.selectDuplicate collate .repeatableRead call state latestSeq =
        system.setCall call
          { state with
            phase := .commit
            accepted := { state.accepted with
              messageId := row.messageId
              conversationSeq
              duplicate := true } } := by
  obtain ⟨conversationSeq, sequence⟩ := isSome_iff_exists.mp carries.conversationSeq
  have text := paired.text call state found
  have read : (readView .repeatableRead state.snapshot system.store).messages.find?
      (hasClientId collate state.command.senderId state.command.clientMessageId) = some row := by
    rw [text.senderId, text.clientMessageId]
    exact (paired.snapshot call state found).symm ▸ stored
  have matches_ : conversationId = state.accepted.conversationId ∧
      row.receiverId = state.command.receiverId ∧ row.type = .text ∧
      row.content = state.command.content :=
    ⟨conversation.symm, carries.receiverId.trans text.receiverId.symm, carries.type,
      carries.content.trans text.content.symm⟩
  have commits : state.command.afterMessage = .commit := by
    unfold AcceptCommand.afterMessage
    rw [text.type, direct]
  refine ⟨conversationSeq, sequence, ?_⟩
  simp only [selectDuplicate, read, carries.conversationId, sequence]
  rw [if_pos matches_, commits]

theorem Paired.repeating_execute (paired : Paired start first second command system)
    (direct : command.type = .direct) (stored : start.messages.find?
      (hasClientId collate command.senderId command.clientMessageId) = some row)
    (carries : Carries command conversationId row) (found : system.calls call = some state)
    (conversation : state.accepted.conversationId = conversationId)
    (repeating : Repeating conversationId row system.store state)
    (taken : system.execute collate .repeatableRead call state = some next) :
    ∃ after, next.store = system.store ∧
      next.calls = Function.update system.calls call (some after) ∧
      Repeating conversationId row system.store after := by
  unfold Repeating at repeating
  unfold execute at taken
  cases phase : state.phase with
  | upsertConversation =>
    rw [phase] at taken repeating
    obtain ⟨locks, writes, rfl, -, -, upserts⟩ := upsertConversation_outcome taken
    have present := upserts.present repeating
    rw [conversation] at present
    exact ⟨_, rfl, rfl, present⟩
  | insertMembers =>
    rw [phase] at taken repeating
    cases taken
    exact ⟨_, rfl, rfl, repeating⟩
  | selectSequence =>
    rw [phase] at taken repeating
    cases taken
    obtain ⟨sequenceRow, read⟩ := isSome_iff_exists.mp repeating
    have selected : system.selectSequence call state =
        system.setCall call { state with phase := .selectDuplicate sequenceRow.latestSeq } := by
      simp only [selectSequence, conversation, read]
    rw [selected]
    exact ⟨_, rfl, rfl, trivial⟩
  | selectDuplicate latestSeq =>
    rw [phase] at taken
    cases taken
    obtain ⟨conversationSeq, sequence, finds⟩ :=
      paired.selectDuplicate_stored direct found conversation stored carries latestSeq
    rw [finds]
    exact ⟨_, rfl, rfl, rfl, sequence⟩
  | updateSequence | insertMessage | selectRecipients =>
    rw [phase] at repeating
    exact repeating.elim
  | commit | done =>
    rw [phase] at taken
    cases taken

def AllRepeat (conversationId : Nat) (row : MessageRow) (system : AcceptSystem) : Prop :=
  ∀ call state, system.calls call = some state →
    Repeating conversationId row system.store state

theorem Paired.allRepeat_step (paired : Paired start first second command system)
    (direct : command.type = .direct)
    (selects : command.selectConversation start = .ok conversationId)
    (stored : start.messages.find?
      (hasClientId collate command.senderId command.clientMessageId) = some row)
    (carries : Carries command conversationId row)
    (all : AllRepeat conversationId row system)
    (move : PairMove collate command system next) :
    AllRepeat conversationId row next := by
  obtain ⟨call, text, same⟩ | ⟨call, state, found, executed⟩ | ⟨call, state, found, phase⟩ := move
  · have read : text.selectConversation system.store = .ok conversationId :=
      (paired.selected text).trans ((same.selectConversation start).trans selects)
    unfold begin
    rw [read]
    exact forall_update all rfl
  · have conversation : state.accepted.conversationId = conversationId := by
      have known := paired.conversation call state found
        (running_of_execute executed)
      rw [selects] at known
      exact (Except.ok.inj known).symm
    obtain ⟨after, store, calls, repeating⟩ := paired.repeating_execute direct stored carries found
      conversation (all call state found) executed
    unfold AllRepeat
    rw [calls, store]
    exact forall_update all repeating
  have own := all call state found
  unfold Repeating at own
  rw [phase] at own
  intro other now same
  rcases update_eq_some same with ⟨rfl, rfl⟩ | ⟨elsewhere, earlier⟩
  · exact ⟨rfl, own⟩
  · exact (all other now earlier).of_not_holding
      (paired.not_holding_of_commit found phase earlier elsewhere)

theorem Paired.progress (paired : Paired start first second command system)
    (collate : String → String) (other : AcceptCommand) (all : AllRepeat conversationId row system)
    (found : system.calls call = some state) (running : state.phase ≠ .done) :
    ∃ action ∈ pairActions first second command other,
      (acceptStep collate .repeatableRead system action).isSome := by
  have executes : ∀ call, (call = first ∨ call = second) →
      AcceptAction.execute call ∈ pairActions first second command other := by
    rintro call (rfl | rfl) <;> simp [pairActions]
  have commits : ∀ call, (call = first ∨ call = second) →
      AcceptAction.commit call true ∈ pairActions first second command other := by
    rintro call (rfl | rfl) <;> simp [pairActions]
  have continues : ∀ call state, system.calls call = some state → state.phase.holding →
      ∃ action ∈ pairActions first second command other,
        (acceptStep collate .repeatableRead system action).isSome := by
    intro call state found holding
    have own := all call state found
    unfold Repeating at own
    cases phase : state.phase with
    | upsertConversation | done =>
      rw [phase] at holding
      cases holding
    | updateSequence | insertMessage | selectRecipients =>
      rw [phase] at own
      exact own.elim
    | insertMembers | selectSequence | selectDuplicate _ =>
      refine ⟨.execute call, executes call (paired.two call state found), ?_⟩
      simp only [acceptStep, found, AcceptSystem.execute, phase, isSome_some]
    | commit =>
      refine ⟨.commit call true, commits call (paired.two call state found), ?_⟩
      simp only [acceptStep, found, phase, if_true, isSome_some]
  by_cases someone : ∃ other now, system.calls other = some now ∧ now.phase.holding
  · grind
  -- No one holds a lock, so the upsert of the call is free to go.
  have free : ∀ key, system.locks key = none := by
    intro key
    by_contra taken
    obtain ⟨holder, owned⟩ := ne_none_iff_exists'.mp taken
    obtain ⟨now, found, holding⟩ := paired.locks.holder key holder owned
    exact someone ⟨holder, now, found, holding⟩
  have available : ∀ key, Available system.locks call key := fun key => .inl (free key)
  have upserts : state.phase = .upsertConversation := by
    cases phase : state.phase with
    | upsertConversation => rfl
    | done => exact absurd phase running
    | insertMembers | selectSequence | selectDuplicate _ | updateSequence | insertMessage
    | selectRecipients | commit =>
      exact absurd ⟨call, state, found, by rw [phase]; rfl⟩ someone
  refine ⟨.execute call, executes call (paired.two call state found), ?_⟩
  simp only [acceptStep, found, AcceptSystem.execute, upserts,
    AcceptSystem.upsertConversation, available, if_true]
  split
  · rfl
  · split <;> rfl

/-! ### The message is not there -/

def Inserting (hasKey : MessageRow → Bool) (store : Store) (state : AcceptCall) : Prop :=
  match state.phase with
  | .commit =>
    (∀ message ∈ store.messages, ¬ hasKey message) ∧
      ∃ message, state.writes.message = some message ∧ hasKey message
  | .selectRecipients => False
  | .done => state.accepted.error = .success → ∃ message ∈ store.messages, hasKey message
  | _ => True

theorem Inserting.of_not_holding {store' : Store} (inserting : Inserting hasKey store state)
    (waits : state.phase.holding = false)
    (kept : ∀ message ∈ store.messages, message ∈ store'.messages) :
    Inserting hasKey store' state := by
  unfold Inserting at inserting ⊢
  cases phase : state.phase with
  | upsertConversation => trivial
  | done => grind
  | insertMembers | selectSequence | selectDuplicate _ | updateSequence | insertMessage
  | selectRecipients | commit =>
    rw [phase] at waits
    cases waits

theorem Inserting.failed {accepted : AcceptResult} (failed : accepted.error ≠ .success) :
    Inserting hasKey store { state with phase := .done, accepted } :=
  fun success => absurd success failed

theorem Paired.inserting_execute (paired : Paired start first second command system)
    (direct : command.type = .direct) (unstored : ¬ AlreadyStored collate start command)
    (found : system.calls call = some state)
    (inserting : Inserting (hasClientId collate command.senderId command.clientMessageId)
      system.store state) (taken : system.execute collate .repeatableRead call state = some next) :
    ∃ autoIncrement locks after,
      next = { store := { system.store with autoIncrement }, locks,
               calls := Function.update system.calls call (some after) } ∧
      Inserting (hasClientId collate command.senderId command.clientMessageId) system.store
        after := by
  have text := paired.text call state found
  have conversation := paired.conversation call state found
    (running_of_execute taken)
  cases execute_cases taken with
  | upserted | insertedMembers | readSequence | notFound | updatedSequence =>
    exact ⟨_, _, _, rfl, trivial⟩
  | @repeated _ _ row _ read known sequence same =>
    refine absurd ⟨state.accepted.conversationId, row, conversation, ?_, known,
      same.1.trans text.receiverId, same.2.1, same.2.2.trans text.content,
      isSome_of_eq_some sequence⟩ unstored
    rw [text.senderId, text.clientMessageId] at read
    exact (paired.snapshot call state found) ▸ read
  | insertedMessage _ _ _ fresh =>
    refine ⟨_, _, _, rfl, ?_⟩
    have commits : state.command.afterMessage = .commit := by
      unfold AcceptCommand.afterMessage
      rw [text.type, direct]
    unfold Inserting
    rw [commits, ← text.senderId, ← text.clientMessageId]
    exact ⟨fresh, _, rfl, decide_eq_true ⟨rfl, rfl⟩⟩
  | readRecipients phase =>
    unfold Inserting at inserting
    rw [phase] at inserting
    exact inserting.elim
  | failed _ _ error => exact ⟨_, _, _, rfl, Inserting.failed error⟩

structure OneSucceeds (hasKey : MessageRow → Bool) (system : AcceptSystem) : Prop where
  each : ∀ call state, system.calls call = some state → Inserting hasKey system.store state
  one : ∀ call other state state', system.calls call = some state →
    system.calls other = some state' → Succeeded state → Succeeded state' → call = other

theorem OneSucceeds.update (alone : OneSucceeds hasKey system) {autoIncrement : Nat}
    (own : Inserting hasKey system.store after) (pending : ¬ Succeeded after) :
    OneSucceeds hasKey
      { store := { system.store with autoIncrement }, locks,
        calls := Function.update system.calls call (some after) } := by
  refine ⟨forall_update alone.each own, fun one other now now' same same' success success' => ?_⟩
  rcases update_eq_some same with ⟨rfl, rfl⟩ | ⟨-, earlier⟩
  · exact absurd success pending
  rcases update_eq_some same' with ⟨rfl, rfl⟩ | ⟨-, earlier'⟩
  · exact absurd success' pending
  exact alone.one one other now now' earlier earlier' success success'

theorem Paired.oneSucceeds_commit (paired : Paired start first second command system)
    (alone : OneSucceeds hasKey system) (found : system.calls call = some state)
    (phase : state.phase = .commit) : OneSucceeds hasKey (system.commit call state true) := by
  have own := alone.each call state found
  unfold Inserting at own
  rw [phase] at own
  obtain ⟨fresh, message, written, key⟩ := own
  have failed : ∀ other now, system.calls other = some now → ¬ Succeeded now := by
    rintro other now earlier ⟨done, success⟩
    have theirs := alone.each other now earlier
    unfold Inserting at theirs
    rw [done] at theirs
    obtain ⟨stored, member, taken⟩ := theirs success
    exact fresh stored member taken
  have kept : ∀ stored ∈ system.store.messages,
      stored ∈ (system.store.apply state.accepted.conversationId state.writes).messages :=
    fun stored member => mem_append_left _ member
  have added : message ∈
      (system.store.apply state.accepted.conversationId state.writes).messages :=
    mem_append_right _ (by rw [written]; exact mem_singleton_self _)
  refine ⟨fun other now same => ?_, fun one other now now' same same' success success' => ?_⟩
  · rcases update_eq_some same with ⟨rfl, rfl⟩ | ⟨elsewhere, earlier⟩
    · exact fun _ => ⟨message, added, key⟩
    · exact (alone.each other now earlier).of_not_holding
        (paired.not_holding_of_commit found phase earlier elsewhere) kept
  rcases update_eq_some same with ⟨rfl, -⟩ | ⟨-, earlier⟩
  · rcases update_eq_some same' with ⟨rfl, -⟩ | ⟨-, earlier'⟩
    · rfl
    · exact absurd success' (failed other now' earlier')
  · exact absurd success (failed one now earlier)

theorem Paired.oneSucceeds_step (paired : Paired start first second command system)
    (direct : command.type = .direct) (unstored : ¬ AlreadyStored collate start command)
    (alone : OneSucceeds (hasClientId collate command.senderId command.clientMessageId) system)
    (move : PairMove collate command system next) :
    OneSucceeds (hasClientId collate command.senderId command.clientMessageId) next := by
  obtain ⟨call, text, -⟩ | ⟨call, state, found, executed⟩ | ⟨call, state, found, phase⟩ := move
  · unfold begin
    split
    · rename_i error refused
      have failed := text.selectConversation_ne_success refused
      exact alone.update (fun success => absurd success failed) fun success => failed success.2
    · exact alone.update trivial fun success => by cases success.1
  · obtain ⟨autoIncrement, locks, after, rfl, own⟩ := paired.inserting_execute direct unstored
      found (alone.each call state found) executed
    exact alone.update own
      (not_succeeded_of_execute executed (Function.update_self ..))
  · exact paired.oneSucceeds_commit alone found phase

/-! ### Overlapping transactions -/

theorem acceptStep_calls
    (taken : acceptStep collate isolation system action = some next) :
    ∃ after, next.calls = Function.update system.calls action.call (some after) := by
  obtain ⟨call, text, rfl, -, rfl⟩ | ⟨call, state, rfl, -, executed⟩ |
    ⟨call, state, replied, rfl, -, -, rfl⟩ | ⟨call, state, what, rfl, -, -, rfl⟩ :=
    acceptStep_cases taken
  · unfold begin
    split <;> exact ⟨_, rfl⟩
  · obtain ⟨autoIncrement, locks, after, rfl, -⟩ := AcceptSystem.execute_outcome executed
    exact ⟨after, rfl⟩
  · exact ⟨_, rfl⟩
  · exact ⟨_, rfl⟩

theorem acceptStep_present
    (taken : acceptStep collate isolation system action = some next)
    (present : action.call = call ∨ system.calls call ≠ none) :
    next.calls call ≠ none := by
  obtain ⟨after, calls⟩ := acceptStep_calls taken
  rw [calls]
  by_cases same : call = action.call
  · grind
  · grind

theorem present_of_mem {final : AcceptSystem} {actions : List AcceptAction}
    (taken : run (acceptStep collate isolation) system actions = some final)
    (member : action ∈ actions) : final.calls action.call ≠ none := by
  obtain ⟨early, late, rfl⟩ := append_of_mem member
  obtain ⟨middle, -, continued⟩ := run_append_eq_some.mp taken
  obtain ⟨next, first, later⟩ := run_cons_eq_some.mp continued
  exact run_invariant (fun system => system.calls action.call ≠ none)
    (fun _ _ _ present step => acceptStep_present step (.inr present))
    (acceptStep_present first (.inl rfl)) later

variable {final : AcceptSystem} {early late : List AcceptAction}

section Overlap

variable (same : SameText command other)
  (ours : ∀ action ∈ early ++ late, action ∈ pairActions first second command other)
  (begun : .begin first command ∈ early ∧ .begin second other ∈ early)
  (uncommitted : ∀ call replied, .commit call replied ∉ early)
  (taken : run (acceptStep collate .repeatableRead) { store := start } (early ++ late) =
    some final)
include same ours begun uncommitted taken

/-- What every move of the pair keeps holds at the end. -/
theorem overlap_invariant (invariant : AcceptSystem → Prop)
    (kept : ∀ {system next}, Paired start first second command system → invariant system →
      PairMove collate command system next → invariant next)
    (initial : invariant { store := start }) :
    Paired start first second command final ∧ invariant final := by
  obtain ⟨middle, reached, continued⟩ := run_append_eq_some.mp taken
  obtain ⟨oursEarly, oursLate⟩ := forall_mem_append.mp ours
  have before : (Paired start first second command middle ∧ invariant middle) ∧
      middle.store.messages = start.messages := by
    refine run_invariant_along
      (fun system => (Paired start first second command system ∧ invariant system) ∧
        system.store.messages = start.messages)
      (fun _ action => action ∈ pairActions first second command other ∧
        ∀ call replied, action ≠ .commit call replied)
      ?_ ⟨⟨.initial, initial⟩, rfl⟩ (along_of_forall ?_) reached
    · rintro system action next ⟨⟨paired, holds⟩, unchanged⟩ ⟨ours, noCommit⟩ step
      obtain ⟨later, moved⟩ := paired.step_cases same ours (fun _ _ _ _ => unchanged) step
      refine ⟨⟨later, kept paired holds moved⟩, ?_⟩
      rcases acceptStep_store step with ⟨autoIncrement, store⟩ | ⟨call, state, replied, commits, -⟩
      · rw [store]
        exact unchanged
      · exact absurd commits (noCommit call replied)
    · grind
  have after : (Paired start first second command final ∧ invariant final) ∧
      final.calls first ≠ none ∧ final.calls second ≠ none := by
    refine run_invariant_along
      (fun system => (Paired start first second command system ∧ invariant system) ∧
        system.calls first ≠ none ∧ system.calls second ≠ none)
      (fun _ action => action ∈ pairActions first second command other)
      ?_ ⟨before.1, present_of_mem reached begun.1, present_of_mem reached begun.2⟩
      (along_of_forall oursLate) continued
    rintro system action next ⟨⟨paired, holds⟩, presentFirst, presentSecond⟩ ours step
    have unchanged (call : Nat) (text : AcceptCommand) (begins : action = .begin call text)
        (free : system.calls call = none) : system.store.messages = start.messages := by
      -- Both have begun, so no call is left that could.
      subst begins
      simp only [pairActions, mem_cons, AcceptAction.begin.injEq, reduceCtorEq, or_false,
        not_mem_nil] at ours
      rcases ours with ⟨rfl, -⟩ | ⟨rfl, -⟩
      · exact absurd free presentFirst
      · exact absurd free presentSecond
    obtain ⟨later, moved⟩ := paired.step_cases same ours unchanged step
    exact ⟨⟨later, kept paired holds moved⟩, acceptStep_present step (.inr presentFirst),
      acceptStep_present step (.inr presentSecond)⟩
  exact after.1

theorem both_succeed_of_stored (direct : command.type = .direct)
    (stored : AlreadyStored collate start command)
    (ended : ∀ action ∈ pairActions first second command other,
      acceptStep collate .repeatableRead final action = none) :
    BothSucceed first second final := by
  obtain ⟨conversationId, row, selects, finds, carries⟩ := stored
  obtain ⟨paired, all⟩ := overlap_invariant same ours begun uncommitted taken
    (AllRepeat conversationId row)
    (fun paired => paired.allRepeat_step direct selects finds carries)
    (fun _ _ found => by cases found)
  have returned : ∀ call state, final.calls call = some state → Succeeded state ∧
      state.accepted.messageId = row.messageId ∧
      row.conversationSeq = some state.accepted.conversationSeq := by
    intro call state found
    have done : state.phase = .done := by
      by_contra running
      obtain ⟨action, member, enabled⟩ := paired.progress collate other all found running
      rw [ended action member] at enabled
      cases enabled
    have own := all call state found
    unfold Repeating at own
    rw [done] at own
    exact ⟨⟨done, own.1⟩, own.2⟩
  obtain ⟨state, found⟩ := ne_none_iff_exists'.mp
    (present_of_mem taken (mem_append_left late begun.1))
  obtain ⟨state', found'⟩ := ne_none_iff_exists'.mp
    (present_of_mem taken (mem_append_left late begun.2))
  obtain ⟨success, messageId, sequence⟩ := returned _ state found
  obtain ⟨success', messageId', sequence'⟩ := returned _ state' found'
  rw [sequence, some.injEq] at sequence'
  exact ⟨state, state', found, found', success, success', messageId.trans messageId'.symm,
    sequence'⟩

theorem not_both_succeed_of_not_stored (different : first ≠ second)
    (direct : command.type = .direct) (unstored : ¬ AlreadyStored collate start command) :
    ¬ BothSucceed first second final := by
  obtain ⟨-, alone⟩ := overlap_invariant same ours begun uncommitted taken
    (OneSucceeds (hasClientId collate command.senderId command.clientMessageId))
    (fun paired => paired.oneSucceeds_step direct unstored)
    ⟨fun _ _ found => (by cases found), fun _ _ _ _ found => (by cases found)⟩
  rintro ⟨state, state', found, found', success, success', -⟩
  exact different (alone.one first second state state' found found' success success')

end Overlap

/-- Two transactions with one text that overlap, in any interleaving that runs to its end: both
return `Success` with one message exactly if the message had been stored before. -/
theorem identical_sends_succeed_iff (different : first ≠ second) (direct : command.type = .direct)
    (same : SameText command other)
    (ours : ∀ action ∈ early ++ late, action ∈ pairActions first second command other)
    (begun : .begin first command ∈ early ∧ .begin second other ∈ early)
    (uncommitted : ∀ call replied, .commit call replied ∉ early)
    (taken : Transition.run (acceptStep collate .repeatableRead) { store := start }
      (early ++ late) = some final)
    (ended : ∀ action ∈ pairActions first second command other,
      acceptStep collate .repeatableRead final action = none) :
    BothSucceed first second final ↔ AlreadyStored collate start command := by
  constructor
  · intro both
    by_contra unstored
    exact not_both_succeed_of_not_stored same ours begun uncommitted taken different direct
      unstored both
  · intro stored
    exact both_succeed_of_stored same ours begun uncommitted taken direct stored ended

/-! ### A text sent twice at once -/

def overlappingBegins (command : AcceptCommand) : List AcceptAction :=
  [.begin 0 command, .begin 1 command]

def storedText : Store := (acceptAfter friendsStore ((directText "a").script 7)).store

def repeatedTurns : List AcceptAction :=
  [.execute 0, .execute 0, .execute 0, .execute 0, .commit 0 true,
    .execute 1, .execute 1, .execute 1, .execute 1, .commit 1 true]

theorem repeatedTurns_ended :
    ∀ action ∈ pairActions 0 1 (directText "a") (directText "a"),
      acceptStep id .repeatableRead (acceptAfter storedText
        (overlappingBegins (directText "a") ++ repeatedTurns)) action = none := by
  have none : ∀ action ∈ pairActions 0 1 (directText "a") (directText "a"),
      (acceptStep id .repeatableRead (acceptAfter storedText
        (overlappingBegins (directText "a") ++ repeatedTurns)) action).isNone := by
    decide +kernel
  exact fun action member => isNone_iff_eq_none.mp (none action member)

theorem identical_sends_succeed_stored :
    AlreadyStored id storedText (directText "a") ∧
      BothSucceed 0 1
        (acceptAfter storedText (overlappingBegins (directText "a") ++ repeatedTurns)) := by
  have stored : AlreadyStored id storedText (directText "a") :=
    ⟨5, (directText "a").messageRow { conversationId := 5, conversationSeq := 1 } 1,
      by decide +kernel, by decide +kernel, ⟨rfl, rfl, rfl, rfl, rfl⟩⟩
  have same : SameText (directText "a") (directText "a") := rfl
  have taken : run (acceptStep id .repeatableRead) { store := storedText }
      (overlappingBegins (directText "a") ++ repeatedTurns) =
        some (acceptAfter storedText (overlappingBegins (directText "a") ++ repeatedTurns)) :=
    run_acceptAfter (by decide +kernel)
  refine ⟨stored, (identical_sends_succeed_iff Nat.zero_ne_one rfl same (by decide) (by decide)
    (fun call replied => ?_) taken repeatedTurns_ended).mpr stored⟩
  simp [overlappingBegins]

/-- A text is sent twice at once: the transaction that comes second to the lock fails on the
unique key, although the text is stored and its first copy has succeeded. -/
theorem second_identical_send_fails :
    ∃ final state state',
      Transition.run (acceptStep id .repeatableRead) { store := friendsStore }
        (overlappingBegins (directText "a") ++ List.replicate 6 (.execute 0) ++
          [.commit 0 true] ++ List.replicate 6 (.execute 1)) = some final ∧
      final.calls 0 = some state ∧ final.calls 1 = some state' ∧ Succeeded state ∧
      state'.phase = .done ∧ state'.accepted.error = .mysqlFailed ∧
      state'.accepted.diagnostic = "Duplicate entry" ∧ ¬ BothSucceed 0 1 final := by
  refine ⟨_, _, _, rfl, rfl, rfl, by decide +kernel, by decide +kernel, by decide +kernel,
    by decide +kernel, ?_⟩
  rintro ⟨state, state', found, found', -, success, -⟩
  cases found'
  exact absurd success.2 (by decide +kernel)

end Wimi.Server
