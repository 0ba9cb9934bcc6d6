/-
This file is about which messages of a group a user gets to see. A user becomes a
group member when a row of `groupMembers` is inserted; the row of
`conversationMembers` that opens the conversation to the user is written by the
next send to the group, with the number after the latest as its first.

The system runs the transactions one at a time, each accepting call as a run of
its statements on its own, and logs what visibility depends on: who has become a
member and which sends have been committed, in their order. The invariant says of
every row of `conversationMembers` that the messages from its first number on are
those logged after its user became a member, and of every member without a row that
no send has been logged since.
-/

import Wimi.Server.Paging

namespace Wimi.Server

open Function List Option Transition ConversationSyncResult

/-! ### The system -/

structure IdDraw where
  timestamp : Nat
  machineId : Nat
  seq : Nat
  counted : 0 < seq
deriving DecidableEq, Repr

def generateId : Option IdDraw → Int
  | none => -1
  | some draw => (draw.timestamp <<< 22 ||| draw.machineId <<< 12 ||| draw.seq : Nat)

namespace Store

variable (store : Store)

/-- `INSERT INTO groupInfo`, whose columns are unsigned and whose two ids are unique. -/
def insertGroup (gid sessionKey : Int) : Option Store :=
  if 0 ≤ gid ∧ 0 ≤ sessionKey ∧
      ∀ info ∈ store.groupInfo, info.gid ≠ gid.toNat ∧ info.sessionKey ≠ sessionKey.toNat then
    some { store with groupInfo := store.groupInfo ++ [⟨gid.toNat, sessionKey.toNat⟩] }
  else none

def insertGroupMember (gid uid : Int) : Option Store :=
  if 0 ≤ gid ∧ 0 ≤ uid ∧
      ∀ member ∈ store.groupMembers, ¬ (member.gid = gid.toNat ∧ member.uid = uid.toNat) then
    some { store with
      groupMembers := store.groupMembers ++ [{ gid := gid.toNat, uid := uid.toNat }] }
  else none

end Store

inductive SendEnding where
  | returned
  | committed (replied : Bool)
  | failed (what : String)
deriving DecidableEq, Repr

def SendEnding.actions : SendEnding → List AcceptAction
  | .returned => []
  | .committed replied => [.commit 0 replied]
  | .failed what => [.fail 0 what]

def AcceptCommand.alone (command : AcceptCommand) (statements : Nat) (ending : SendEnding) :
    List AcceptAction :=
  .begin 0 command :: (replicate statements (.execute 0) ++ ending.actions)

/-- A user has become a member of a group, or a send to it has been committed, with the message
it inserted unless it was a duplicate. -/
inductive GroupEvent where
  | joined (gid uid : Nat)
  | committed (gid : Nat) (inserted : Option MessageRow)
deriving DecidableEq, Repr

def SendEnding.events (gid : Nat) (inserted : Option MessageRow) : SendEnding → List GroupEvent
  | .returned => []
  | .committed _ => [.committed gid inserted]
  | .failed _ => []

structure GroupSystem where
  store : Store := {}
  history : List GroupEvent := []
deriving DecidableEq, Repr

/-- The transactions: the two of `GroupService::Create`, the second of which is also the one of
`ReplyJoin`, a send, and a read. -/
inductive GroupAction where
  | insertGroup (gid sessionKey : Option IdDraw)
  | insertGroupMember (gid uid : Int)
  | acceptGroupText (command : AcceptCommand) (statements : Nat) (ending : SendEnding)
  | syncConversation (uid conversationId afterSeq pullCount : Int)
deriving DecidableEq, Repr

def createGroup (gid sessionKey : Option IdDraw) (uid : Int) : List GroupAction :=
  [.insertGroup gid sessionKey, .insertGroupMember (generateId gid) uid]

def groupStep (collate : String → String) (isolation : Isolation) (system : GroupSystem) :
    GroupAction → Option GroupSystem
  | .insertGroup gid sessionKey =>
    match system.store.insertGroup (generateId gid) (generateId sessionKey) with
    | none => some system
    | some store => some { system with store }
  | .insertGroupMember gid uid =>
    match system.store.insertGroupMember gid uid with
    | none => some system
    | some store =>
      some { store, history := system.history ++ [.joined gid.toNat uid.toNat] }
  | .acceptGroupText command statements ending =>
    if command.type = .group then
      match run (acceptStep collate isolation) { store := system.store }
        (command.alone statements ending) with
      | none => none
      | some final =>
        match final.calls 0 with
        | none => none
        | some state =>
          if state.phase = .done then
            some
              { store := final.store
                history := system.history ++ ending.events command.receiverId state.inserted }
          else none
    else none
  | .syncConversation _ _ _ _ => some system

/-! ### A send on its own -/

def memberRows (store : Store) (gid conversationId : Nat) : List MemberRow :=
  (store.groupMembers.filter fun member => member.gid = gid).map fun member =>
    { conversationId, uid := member.uid,
      joinedSeq := store.latestSeq conversationId + 1 }

variable {command : AcceptCommand} {conversationId : Nat}

section Alone

variable {collate : String → String} {isolation : Isolation} {system next : AcceptSystem}
  {call : Nat} {state : AcceptCall}

variable {store : Store}

theorem Upserted.members_apply {locks : LockKey → Option Nat}
    (upserted : Upserted store locks call state) (unnumbered : Unnumbered state)
    (group : state.command.type = .group) :
    state.command.members (store.apply state.accepted.conversationId state.writes)
        state.accepted.conversationId =
      memberRows store state.command.receiverId state.accepted.conversationId := by
  have latest := congrFun (upserted.latestSeq_apply unnumbered) state.accepted.conversationId
  obtain ⟨row, found⟩ := isSome_iff_exists.mp upserted.isSome_apply_self
  unfold AcceptCommand.members memberRows
  rw [group, ← latest, Store.latestSeq_of_conversation found]
  rw [found]
  rfl

structure Alone (collate : String → String) (store : Store) (command : AcceptCommand)
    (system : AcceptSystem) : Prop where
  sound : AcceptSound collate system
  tables : ∃ autoIncrement, system.store = { store with autoIncrement }
  call : ∃ state, system.calls 0 = some state ∧ state.command = command ∧
    (state.phase ≠ .done → state.writes.members =
      if state.phase.membersAdded then
        newMembers store.conversationMembers
          (memberRows store command.receiverId state.accepted.conversationId)
      else [])

theorem alone_begin (keyed : Keyed store)
    (taken : acceptStep collate isolation { store } (.begin 0 command) = some next) :
    Alone collate store command next where
  sound := acceptSound_step _ _ _ (acceptSound_initial collate keyed) taken
  tables := by
    obtain ⟨autoIncrement, tables⟩ | ⟨_, _, _, commits, _⟩ := acceptStep_store taken
    · exact ⟨autoIncrement, tables⟩
    · cases commits
  call := by
    cases taken
    unfold AcceptSystem.begin
    split
    · exact ⟨_, rfl, rfl, fun running => absurd rfl running⟩
    · exact ⟨_, rfl, rfl, fun _ => rfl⟩

theorem alone_execute (group : command.type = .group) (alone : Alone collate store command system)
    (taken : acceptStep collate isolation system (.execute 0) = some next) :
    Alone collate store command next := by
  obtain ⟨sound, ⟨autoIncrement, tables⟩, state, found, same, members⟩ := alone
  have executed : system.execute collate isolation 0 state = some next := by
    simpa only [acceptStep, found] using taken
  have running := AcceptSystem.running_of_execute executed
  have soundAfter := acceptSound_step _ _ _ sound taken
  obtain ⟨drawn, locks, after, rfl, sameCommand, _, _, written⟩ :=
    AcceptSystem.execute_outcome executed
  have foundAfter : update system.calls 0 (some after) 0 = some after :=
    update_self _ _ _
  refine ⟨soundAfter, ⟨drawn, ?_⟩, after, foundAfter, sameCommand.trans same,
    fun runningAfter => ?_⟩
  · rw [tables]
  rcases written with done | ⟨phase, added, sameId, rows⟩ | ⟨added, sameId, rows⟩
  · exact absurd done runningAfter
  · obtain ⟨upserted, _, unnumbered⟩ := sound.stage found phase
    have none : state.writes.members = [] := by
      rw [members running, phase]
      rfl
    rw [if_pos added, rows, upserted.members_apply unnumbered (same ▸ group), sameId, same,
      tables]
    unfold Store.apply
    rw [none]
    simp only [append_nil]
    rfl
  · grind

structure Committed (collate : String → String) (gid conversationId : Nat) (before after : Store)
    (inserted : Option MessageRow) : Prop where
  group : ∃ info ∈ before.groupInfo, info.gid = gid ∧ info.sessionKey = conversationId
  groupInfo : after.groupInfo = before.groupInfo
  groupMembers : after.groupMembers = before.groupMembers
  members : after.conversationMembers = before.conversationMembers ++
    newMembers before.conversationMembers (memberRows before gid conversationId)
  keyed : Keyed after
  businesses : ∀ row ∈ after.conversations,
    row.businessId = gid ∨ ∃ old ∈ before.conversations, old.businessId = row.businessId
  present : (after.conversation conversationId).isSome
  others : ∀ other, (before.conversation other).isSome → (after.conversation other).isSome
  effect : Effect collate before after inserted
  own : ∀ message, inserted = some message → message.conversationId = some conversationId

theorem Effect.of_tables {after : Store} {autoIncrement : Nat} {inserted : Option MessageRow}
    (effect : Effect collate { store with autoIncrement } after inserted) :
    Effect collate store after inserted := by
  cases effect with
  | unchanged messages latestSeq => exact .unchanged messages latestSeq
  | appended message conversationId conversation sequence messages latestSeq fresh =>
    exact .appended message conversationId conversation sequence messages latestSeq fresh

theorem alone_commit (group : command.type = .group) (alone : Alone collate store command system)
    {replied : Bool} (taken : acceptStep collate isolation system (.commit 0 replied) = some next) :
    ∃ conversationId state, next.calls 0 = some state ∧
      Committed collate command.receiverId conversationId store next.store state.inserted := by
  obtain ⟨sound, ⟨autoIncrement, tables⟩, state, found, same, members⟩ := alone
  obtain ⟨after, foundAfter, effect⟩ := (acceptStep_took sound taken).own
  have reached : state.phase = .commit ∧ next = system.commit 0 state replied := by
    simp only [acceptStep, found] at taken
    split at taken
    · exact ⟨‹_›, (some.inj taken).symm⟩
    · cases taken
  obtain ⟨phase, rfl⟩ := reached
  obtain ⟨upserted, written⟩ := sound.stage found phase
  have isGroup : state.command.type = .group := same ▸ group
  obtain ⟨info, isInfo, key⟩ := AcceptCommand.group_of_select isGroup upserted.selected
  have rows : state.writes.members = newMembers store.conversationMembers
      (memberRows store command.receiverId state.accepted.conversationId) := by
    have begun : state.phase ≠ .done := by
      rw [phase]
      intro equal
      cases equal
    rw [members begun, phase]
    rfl
  refine ⟨state.accepted.conversationId, after, foundAfter, ?_⟩
  constructor
  case group =>
    have gid : info.gid = state.command.receiverId := by simpa using find?_some isInfo
    refine ⟨info, ?_, same ▸ gid, key⟩
    have member := mem_of_find?_eq_some isInfo
    rw [tables] at member
    exact member
  case groupInfo =>
    change system.store.groupInfo = _
    rw [tables]
  case groupMembers =>
    change system.store.groupMembers = _
    rw [tables]
  case members =>
    change system.store.conversationMembers ++ state.writes.members = _
    rw [tables, rows]
  case keyed => exact upserted.keyed_apply sound.keyed
  case businesses =>
    refine upserted.forall_apply (fun _ _ => id) (fun row member => .inr ⟨row, ?_, rfl⟩) (.inl ?_)
    · rw [tables] at member
      exact member
    · change state.command.businessId _ = _
      rw [AcceptCommand.businessId, isGroup, same]
  case present => exact upserted.isSome_apply_self
  case others =>
    intro other present
    refine upserted.isSome_apply ?_
    rw [tables]
    exact present
  case effect =>
    rw [tables] at effect
    exact effect.of_tables
  case own =>
    intro message inserted
    cases foundAfter
    have isWritten : state.writes.message = some message := inserted
    rcases written with ⟨unnumbered, _⟩ | ⟨_, _, ⟨other, equal, names⟩, _⟩
    · cases unnumbered.2.symm.trans isWritten
    · cases equal.symm.trans isWritten
      exact names.conversationId

theorem alone_outcome (keyed : Keyed store) (group : command.type = .group) {statements : Nat}
    {ending : SendEnding} {final : AcceptSystem}
    (taken : run (acceptStep collate isolation) { store }
      (command.alone statements ending) = some final) (found : final.calls 0 = some state) :
    (∃ autoIncrement, final.store = { store with autoIncrement } ∧
      ending.events command.receiverId state.inserted = []) ∨
    ∃ conversationId,
      Committed collate command.receiverId conversationId store final.store state.inserted ∧
      ending.events command.receiverId state.inserted =
        [.committed command.receiverId state.inserted] := by
  obtain ⟨started, began, rest⟩ := run_cons_eq_some.mp taken
  obtain ⟨middle, executed, ended⟩ := run_append_eq_some.mp rest
  have alone : Alone collate store command middle := by
    refine run_invariant_along (Alone collate store command)
      (fun _ action => action = .execute 0) ?_ (alone_begin keyed began)
      (along_of_forall fun _ => eq_of_mem_replicate) executed
    rintro system _ next alone rfl step
    exact alone_execute group alone step
  cases ending with
  | returned =>
    cases ended
    obtain ⟨autoIncrement, tables⟩ := alone.tables
    exact .inl ⟨autoIncrement, tables, rfl⟩
  | committed replied =>
    obtain ⟨last, committed, same⟩ := run_cons_eq_some.mp ended
    cases same
    obtain ⟨conversationId, after, foundAfter, sent⟩ := alone_commit group alone committed
    cases found.symm.trans foundAfter
    exact .inr ⟨conversationId, sent, rfl⟩
  | failed what =>
    obtain ⟨last, failed, same⟩ := run_cons_eq_some.mp ended
    cases same
    obtain ⟨autoIncrement, tables⟩ := alone.tables
    obtain ⟨drawn, kept⟩ | ⟨_, _, _, commits, _⟩ := acceptStep_store failed
    · refine .inl ⟨drawn, ?_, rfl⟩
      rw [kept, tables]
    · cases commits

end Alone

/-! ### The invariant -/

/-- The second event is logged after the first. -/
def Follows (history : List GroupEvent) (first second : GroupEvent) : Prop :=
  [first, second].Sublist history

theorem follows_concat {history : List GroupEvent} {first second event : GroupEvent} :
    Follows (history ++ [event]) first second ↔
      Follows history first second ∨ first ∈ history ∧ second = event :=
  Lists.pair_sublist_concat

structure RowSound (system : GroupSystem) (info : GroupInfoRow) (row : MemberRow) : Prop where
  joined : .joined info.gid row.uid ∈ system.history
  stays : row.leftSeq = none
  present : (system.store.conversation info.sessionKey).isSome
  bounded : row.joinedSeq ≤ system.store.latestSeq info.sessionKey + 1
  opens : ∀ message, .committed info.gid (some message) ∈ system.history →
    (Follows system.history (.joined info.gid row.uid) (.committed info.gid (some message)) ↔
      row.joinedSeq ≤ message.seq)

structure GroupSound (system : GroupSystem) : Prop where
  gids : ∀ first ∈ system.store.groupInfo, ∀ second ∈ system.store.groupInfo,
    first.gid = second.gid → first = second
  keys : ∀ first ∈ system.store.groupInfo, ∀ second ∈ system.store.groupInfo,
    first.sessionKey = second.sessionKey → first = second
  positive : ∀ info ∈ system.store.groupInfo, 0 < info.sessionKey
  keyed : Keyed system.store
  businesses : ∀ row ∈ system.store.conversations,
    ∃ info ∈ system.store.groupInfo, info.gid = row.businessId
  dense : Dense system.store
  members : ∀ gid uid, .joined gid uid ∈ system.history ↔
    ∃ member ∈ system.store.groupMembers, member.gid = gid ∧ member.uid = uid
  sent : ∀ gid inserted, .committed gid inserted ∈ system.history →
    ∃ info ∈ system.store.groupInfo, info.gid = gid ∧
      ∀ message, inserted = some message → message ∈ system.store.messagesOf info.sessionKey
  rows : ∀ row ∈ system.store.conversationMembers,
    ∃ info ∈ system.store.groupInfo, info.sessionKey = row.conversationId ∧
      RowSound system info row
  missing : ∀ info ∈ system.store.groupInfo, ∀ uid,
    (∀ row ∈ system.store.conversationMembers, row.key ≠ (info.sessionKey, uid)) →
    ∀ inserted, ¬ Follows system.history (.joined info.gid uid) (.committed info.gid inserted)

theorem groupSound_initial : GroupSound {} := by
  constructor
  case members => exact fun gid uid => iff_of_false not_mem_nil nofun
  case dense => exact fun _ => .refl _
  case rows => exact forall_mem_nil _
  all_goals exact nofun

section Steps

variable {collate : String → String} {system : GroupSystem}

theorem GroupSound.tables (sound : GroupSound system) (autoIncrement : Nat) :
    GroupSound { system with store := { system.store with autoIncrement } } :=
  { sound with
    rows := fun row member =>
      have ⟨info, isInfo, key, rowSound⟩ := sound.rows row member
      ⟨info, isInfo, key, { rowSound with }⟩ }

theorem GroupSound.created (sound : GroupSound system) {info : GroupInfoRow}
    (positive : 0 < info.sessionKey)
    (fresh : ∀ other ∈ system.store.groupInfo,
      other.gid ≠ info.gid ∧ other.sessionKey ≠ info.sessionKey) :
    GroupSound { system with
      store := { system.store with groupInfo := system.store.groupInfo ++ [info] } } := by
  have kept : ∀ other ∈ system.store.groupInfo, other ∈ system.store.groupInfo ++ [info] :=
    fun _ => mem_append_left _
  have unique : ∀ {Key : Type} (key : GroupInfoRow → Key),
      (∀ first ∈ system.store.groupInfo, ∀ second ∈ system.store.groupInfo,
        key first = key second → first = second) →
      (∀ other ∈ system.store.groupInfo, key other ≠ key info) →
      ∀ first ∈ system.store.groupInfo ++ [info], ∀ second ∈ system.store.groupInfo ++ [info],
        key first = key second → first = second := by
    intro Key key old different
    refine forall_mem_append.mpr ⟨fun first isFirst => ?_, ?_⟩
    · grind
    · grind
  constructor
  case gids => exact unique GroupInfoRow.gid sound.gids fun other isOther => (fresh other isOther).1
  case keys =>
    exact unique GroupInfoRow.sessionKey sound.keys fun other isOther => (fresh other isOther).2
  case positive =>
    exact forall_mem_append.mpr ⟨sound.positive, forall_mem_singleton.mpr positive⟩
  case keyed =>
    intro row member
    have old := sound.keyed row member
    obtain ⟨owner, isOwner, business⟩ := sound.businesses row member
    unfold KeyedRow at old ⊢
    split
    · rename_i direct
      rw [direct] at old
      exact old
    · grind
  case businesses =>
    intro row member
    obtain ⟨owner, isOwner, business⟩ := sound.businesses row member
    exact ⟨owner, kept owner isOwner, business⟩
  case dense => exact sound.dense
  case members => exact sound.members
  case sent =>
    intro gid inserted logged
    obtain ⟨owner, isOwner, same, stored⟩ := sound.sent gid inserted logged
    exact ⟨owner, kept owner isOwner, same, stored⟩
  case rows =>
    intro row member
    obtain ⟨owner, isOwner, key, rowSound⟩ := sound.rows row member
    exact ⟨owner, kept owner isOwner, key, { rowSound with }⟩
  case missing =>
    refine forall_mem_append.mpr ⟨sound.missing, forall_mem_singleton.mpr ?_⟩
    intro uid _ inserted follows
    obtain ⟨owner, isOwner, same, _⟩ := sound.sent info.gid inserted (follows.subset (by simp))
    exact (fresh owner isOwner).1 same

theorem GroupSound.joined (sound : GroupSound system) (gid uid : Nat) :
    GroupSound
      { store := { system.store with
          groupMembers := system.store.groupMembers ++ [{ gid, uid }] }
        history := system.history ++ [.joined gid uid] } := by
  have logged : ∀ {other inserted},
      .committed other inserted ∈ system.history ++ [.joined gid uid] →
      .committed other inserted ∈ system.history := by
    intro other inserted member
    rcases mem_append.mp member with old | new
    · exact old
    · cases mem_singleton.mp new
  have follows : ∀ {first other inserted},
      Follows (system.history ++ [.joined gid uid]) first (.committed other inserted) ↔
        Follows system.history first (.committed other inserted) := by
    intro first other inserted
    rw [follows_concat]
    exact or_iff_left fun ⟨_, same⟩ => GroupEvent.noConfusion same
  refine { sound with members := ?members, sent := ?sent, rows := ?rows, missing := ?missing }
  case members =>
    intro other user
    rw [mem_append, sound.members, mem_singleton]
    simp only [mem_append, mem_singleton, or_and_right, exists_or, exists_eq_left,
      GroupEvent.joined.injEq]
    exact or_congr_right (and_congr eq_comm eq_comm)
  case sent => exact fun other inserted member => sound.sent other inserted (logged member)
  case rows =>
    intro row member
    obtain ⟨info, isInfo, key, joined, stays, present, bounded, opens⟩ := sound.rows row member
    refine ⟨info, isInfo, key, mem_append_left _ joined, stays, present, bounded, ?_⟩
    intro message sent
    rw [follows]
    exact opens message (logged sent)
  case missing =>
    intro info isInfo user absent inserted
    rw [follows]
    exact sound.missing info isInfo user absent inserted

theorem Committed.inserted_seq {gid : Nat} {before after : Store} {inserted : Option MessageRow}
    (sent : Committed collate gid conversationId before after inserted) {message : MessageRow}
    (isInserted : inserted = some message) :
    message ∈ after.messagesOf conversationId ∧
      message.seq = before.latestSeq conversationId + 1 := by
  have conversation := sent.own message isInserted
  obtain ⟨_, _⟩ | ⟨_, other, sameConversation, sequence, messages, _, _⟩ := sent.effect
  · cases isInserted
  cases isInserted
  cases conversation.symm.trans sameConversation
  refine ⟨mem_messagesOf.mpr ⟨?_, conversation⟩, ?_⟩
  · grind
  · rw [MessageRow.seq, sequence, getD_some]

section Committed

variable {info : GroupInfoRow} {after : Store} {inserted : Option MessageRow}

section

variable (sound : GroupSound system)
  (sent : Committed collate info.gid info.sessionKey system.store after inserted)
  (isInfo : info ∈ system.store.groupInfo)
include sound sent isInfo

theorem RowSound.committed {owner : GroupInfoRow} (isOwner : owner ∈ system.store.groupInfo)
    {row : MemberRow} (rowSound : RowSound system owner row) :
    RowSound { store := after, history := system.history ++ [.committed info.gid inserted] }
      owner row where
  joined := mem_append_left _ rowSound.joined
  stays := rowSound.stays
  present := sent.others owner.sessionKey rowSound.present
  bounded := rowSound.bounded.trans (Nat.succ_le_succ (sent.effect.latestSeq_le owner.sessionKey))
  opens message logged := by
    rw [follows_concat]
    by_cases isNew :
        GroupEvent.committed owner.gid (some message) = .committed info.gid inserted
    · obtain ⟨sameGid, isInserted⟩ := GroupEvent.committed.inj isNew
      cases sound.gids owner isOwner info isInfo sameGid
      have bounded := rowSound.bounded
      have seq := (sent.inserted_seq isInserted.symm).2
      exact iff_of_true (.inr ⟨rowSound.joined, isNew⟩) (by omega)
    have earlier : .committed owner.gid (some message) ∈ system.history :=
      (mem_append.mp logged).resolve_right fun new => isNew (mem_singleton.mp new)
    rw [or_iff_left fun both => isNew both.2]
    exact rowSound.opens message earlier

theorem rowSound_new {row : MemberRow} (isNew : row ∈ newMembers system.store.conversationMembers
      (memberRows system.store info.gid info.sessionKey)) :
    row.conversationId = info.sessionKey ∧
      RowSound { store := after, history := system.history ++ [.committed info.gid inserted] }
        info row := by
  have absent := newMembers_fresh isNew
  obtain ⟨member, isMember, rfl⟩ := mem_map.mp (mem_newMembers isNew)
  obtain ⟨stored, gid⟩ := mem_filter.mp isMember
  have joined : .joined info.gid member.uid ∈ system.history :=
    (sound.members info.gid member.uid).mpr ⟨member, stored, of_decide_eq_true gid, rfl⟩
  have nothingSince := sound.missing info isInfo member.uid absent
  refine ⟨rfl, mem_append_left _ joined, rfl, sent.present,
    Nat.succ_le_succ (sent.effect.latestSeq_le info.sessionKey), fun message logged => ?_⟩
  rw [follows_concat, or_iff_right (nothingSince (some message))]
  by_cases isNew : GroupEvent.committed info.gid (some message) = .committed info.gid inserted
  · have seq := (sent.inserted_seq (GroupEvent.committed.inj isNew).2.symm).2
    exact iff_of_true ⟨joined, isNew⟩ seq.ge
  have earlier : .committed info.gid (some message) ∈ system.history :=
    (mem_append.mp logged).resolve_right fun new => isNew (mem_singleton.mp new)
  obtain ⟨owner, isOwner, same, inConversation⟩ := sound.sent info.gid _ earlier
  cases sound.gids owner isOwner info isInfo same
  have below := DenseAt.seq_le (sound.dense info.sessionKey) (inConversation message rfl)
  exact iff_of_false (fun both => isNew both.2) (Nat.not_le_of_lt (Nat.lt_succ_of_le below))

end

theorem Committed.exists_row
    (sent : Committed collate info.gid info.sessionKey system.store after inserted)
    {member : GroupMemberRow} (isMember : member ∈ system.store.groupMembers)
    (gid : member.gid = info.gid) :
    ∃ row ∈ after.conversationMembers, row.key = (info.sessionKey, member.uid) := by
  rw [sent.members]
  exact exists_key_newMembers (mem_map_of_mem
    (mem_filter.mpr ⟨isMember, decide_eq_true gid⟩))

end Committed

theorem GroupSound.committed (sound : GroupSound system) {gid : Nat} {after : Store}
    {inserted : Option MessageRow}
    (sent : Committed collate gid conversationId system.store after inserted) :
    GroupSound { store := after, history := system.history ++ [.committed gid inserted] } := by
  obtain ⟨info, isInfo, rfl, rfl⟩ := sent.group
  constructor
  case gids => exact sent.groupInfo ▸ sound.gids
  case keys => exact sent.groupInfo ▸ sound.keys
  case positive => exact sent.groupInfo ▸ sound.positive
  case keyed => exact sent.keyed
  case businesses =>
    intro row member
    dsimp only
    rw [sent.groupInfo]
    rcases sent.businesses row member with same | ⟨old, isOld, same⟩
    · exact ⟨info, isInfo, same.symm⟩
    · rw [← same]
      exact sound.businesses old isOld
  case dense => exact sent.effect.dense sound.dense
  case members =>
    intro other uid
    dsimp only
    rw [sent.groupMembers, ← sound.members, mem_append]
    exact or_iff_left fun new => GroupEvent.noConfusion (mem_singleton.mp new)
  case sent =>
    intro other written logged
    dsimp only
    rw [sent.groupInfo]
    rcases mem_append.mp logged with old | new
    · obtain ⟨owner, isOwner, same, stored⟩ := sound.sent other written old
      refine ⟨owner, isOwner, same, fun message isWritten => ?_⟩
      obtain ⟨member, inConversation⟩ := mem_messagesOf.mp (stored message isWritten)
      exact mem_messagesOf.mpr ⟨sent.effect.messages_kept member, inConversation⟩
    · cases mem_singleton.mp new
      exact ⟨info, isInfo, rfl, fun message isWritten => (sent.inserted_seq isWritten).1⟩
  case rows =>
    dsimp only
    rw [sent.members, sent.groupInfo]
    refine forall_mem_append.mpr ⟨fun row member => ?_, fun row isNew => ?_⟩
    · obtain ⟨owner, isOwner, key, rowSound⟩ := sound.rows row member
      exact ⟨owner, isOwner, key, rowSound.committed sound sent isInfo isOwner⟩
    · grind [rowSound_new]
  case missing =>
    intro owner isOwner uid absent written follows
    rw [sent.groupInfo] at isOwner
    rcases follows_concat.mp follows with earlier | ⟨joined, same⟩
    · refine sound.missing owner isOwner uid (fun row member => absent row ?_) written earlier
      rw [sent.members]
      exact mem_append_left _ member
    cases sound.gids owner isOwner info isInfo (GroupEvent.committed.inj same).1
    obtain ⟨member, isMember, gid, rfl⟩ := (sound.members info.gid uid).mp joined
    obtain ⟨row, isRow, key⟩ := sent.exists_row isMember gid
    exact absent row isRow key

theorem generateId_pos {draw : Option IdDraw} (unsigned : 0 ≤ generateId draw) :
    0 < (generateId draw).toNat := by
  cases draw with
  | none => cases unsigned
  | some draw =>
    exact lt_of_lt_of_le draw.counted Nat.right_le_or

theorem GroupSound.step {isolation : Isolation} {action : GroupAction} {next : GroupSystem}
    (sound : GroupSound system) (taken : groupStep collate isolation system action = some next) :
    GroupSound next := by
  cases action with
  | insertGroup gid sessionKey =>
    simp only [groupStep, Store.insertGroup] at taken
    split_ifs at taken with valid
    · cases taken
      exact sound.created (generateId_pos valid.2.1) valid.2.2
    · exact some.inj taken ▸ sound
  | insertGroupMember gid uid =>
    simp only [groupStep, Store.insertGroupMember] at taken
    split_ifs at taken
    · cases taken
      exact sound.joined gid.toNat uid.toNat
    · exact some.inj taken ▸ sound
  | acceptGroupText command statements ending =>
    simp only [groupStep] at taken
    split_ifs at taken with group
    split at taken
    · cases taken
    rename_i final executed
    split at taken
    · cases taken
    rename_i state found
    split_ifs at taken
    cases taken
    obtain ⟨autoIncrement, tables, none⟩ | ⟨conversationId, sent, event⟩ :=
      alone_outcome sound.keyed group executed found
    · rw [tables, none, append_nil]
      exact sound.tables autoIncrement
    · rw [event]
      exact sound.committed sent
  | syncConversation uid conversationId afterSeq pullCount => exact some.inj taken ▸ sound

theorem groupSound_run {isolation : Isolation} {final : GroupSystem} {actions : List GroupAction}
    (taken : run (groupStep collate isolation) {} actions = some final) : GroupSound final :=
  run_invariant GroupSound (fun _ _ _ => GroupSound.step) groupSound_initial taken

end Steps

/-! ### What a member sees -/

theorem pullUntil_of_not_member {store : Store} {uid : Nat}
    (missing : store.membership uid conversationId = none) (limits : Nat → Int) (after : Nat)
    {fuel : Nat} (enough : 0 < fuel) :
    ∃ pages, pullUntil store uid conversationId limits after fuel = some pages ∧
      pages.flatMap messages = [] := by
  obtain ⟨rest, rfl⟩ := Nat.exists_eq_succ_of_ne_zero (Nat.ne_of_gt enough)
  have empty : ∀ result, syncConversation store uid conversationId after (limits 0) = result →
      result.hasMore = false ∧ result.messages = [] := by
    rintro _ rfl
    unfold syncConversation
    split
    · exact ⟨rfl, rfl⟩
    · grind
  obtain ⟨noMore, noMessages⟩ := empty _ rfl
  refine ⟨[syncConversation store uid conversationId after (limits 0)], ?_, ?_⟩
  · rw [pullUntil, noMore]
    rfl
  · rw [flatMap_singleton, noMessages]

theorem membership_of_ownershipInvalid {store : Store} {uid after : Nat} {limit : Int}
    (refused : (syncConversation store uid conversationId after limit).error =
      .messageOwnershipInvalid) : store.membership uid conversationId = none := by
  unfold syncConversation at refused
  split at refused
  · cases refused
  split at refused
  · assumption
  · cases refused

namespace GroupSound

variable {system : GroupSystem} {info : GroupInfoRow} {uid : Nat}

theorem not_follows_of_not_member (sound : GroupSound system)
    (isInfo : info ∈ system.store.groupInfo)
    (missing : system.store.membership uid info.sessionKey = none) (inserted : Option MessageRow) :
    ¬ Follows system.history (.joined info.gid uid) (.committed info.gid inserted) := by
  refine sound.missing info isInfo uid (fun row member key => ?_) inserted
  obtain ⟨conversation, user⟩ := Prod.ext_iff.mp key
  obtain ⟨owner, isOwner, ownerKey, rowSound⟩ := sound.rows row member
  obtain ⟨found, isFound⟩ := isSome_iff_exists.mp rowSound.present
  have hasRow : (system.store.conversationMembers.find? fun row =>
      row.conversationId = info.sessionKey ∧ row.uid = uid).isSome :=
    find?_isSome.mpr ⟨row, member, decide_eq_true ⟨conversation, user⟩⟩
  obtain ⟨first, isFirst⟩ := isSome_iff_exists.mp hasRow
  have isMember := Store.membership_eq_some.mpr
    ⟨(ownerKey.trans conversation) ▸ isFound, isFirst⟩
  rw [missing] at isMember
  cases isMember

theorem mem_pages_iff (sound : GroupSound system) (isInfo : info ∈ system.store.groupInfo)
    (user : 0 < uid) (limits : Nat → Int) :
    ∃ enough, ∀ fuel, enough ≤ fuel → ∃ pages,
      pullUntil system.store uid info.sessionKey limits 0 fuel = some pages ∧
      ∀ message, .committed info.gid (some message) ∈ system.history →
        (message ∈ pages.flatMap messages ↔
          Follows system.history (.joined info.gid uid) (.committed info.gid (some message))) := by
  cases found : system.store.membership uid info.sessionKey with
  | none =>
    refine ⟨1, fun fuel enough => ?_⟩
    obtain ⟨pages, returned, empty⟩ := pullUntil_of_not_member found limits 0 enough
    refine ⟨pages, returned, fun message _ => ?_⟩
    rw [empty]
    exact iff_of_false not_mem_nil (sound.not_follows_of_not_member isInfo found _)
  | some membership =>
    obtain ⟨conversation, member⟩ := membership
    refine ⟨lastVisible conversation member + 1, fun fuel enough => ?_⟩
    obtain ⟨pages, returned, _, complete⟩ := pullUntil_paged user (sound.positive info isInfo) found
      (sound.dense info.sessionKey) limits (paged_nil found 0) enough
    refine ⟨pages, returned, fun message logged => (complete message).trans ?_⟩
    obtain ⟨isConversation, isMember⟩ := Store.membership_eq_some.mp found
    obtain ⟨sameConversation, rfl⟩ :
        member.conversationId = info.sessionKey ∧ member.uid = uid := by
      simpa using find?_some isMember
    obtain ⟨owner, isOwner, key, rowSound⟩ := sound.rows member (mem_of_find?_eq_some isMember)
    cases sound.keys owner isOwner info isInfo (key.trans sameConversation)
    obtain ⟨other, isOther, sameGid, stored⟩ := sound.sent info.gid _ logged
    cases sound.gids other isOther info isInfo sameGid
    have atMost := DenseAt.seq_le (sound.dense info.sessionKey) (stored message rfl)
    rw [Store.latestSeq_of_conversation isConversation] at atMost
    rw [visibleAfter_iff found, rowSound.opens message logged, lastVisible, rowSound.stays,
      Nat.zero_max]
    have positive := DenseAt.seq_pos (sound.dense info.sessionKey) (stored message rfl)
    refine ⟨fun visible => by omega, fun opened => ⟨stored message rfl, by omega, atMost⟩⟩

end GroupSound

/-- In every run, for every group and every user: complete paging from 0 returns a message that
was accepted in the group exactly if it was accepted after the user became a member, and a user
is refused as a stranger to the conversation only if no send to the group has been committed
since the user became a member. -/
theorem group_history_follows_join (collate : String → String) (isolation : Isolation)
    {actions : List GroupAction} {final : GroupSystem}
    (taken : run (groupStep collate isolation) {} actions = some final)
    {info : GroupInfoRow} (isGroup : info ∈ final.store.groupInfo) {uid : Nat} (user : 0 < uid) :
    (∀ limits : Nat → Int, ∃ enough, ∀ fuel, enough ≤ fuel → ∃ pages,
      pullUntil final.store uid info.sessionKey limits 0 fuel = some pages ∧
      ∀ message, .committed info.gid (some message) ∈ final.history →
        (message ∈ pages.flatMap messages ↔
          Follows final.history (.joined info.gid uid) (.committed info.gid (some message)))) ∧
    ∀ (after : Nat) (limit : Int),
      (syncConversation final.store uid info.sessionKey after limit).error =
        .messageOwnershipInvalid →
      ∀ inserted,
        ¬ Follows final.history (.joined info.gid uid) (.committed info.gid inserted) := by
  have sound := groupSound_run taken
  refine ⟨sound.mem_pages_iff isGroup user, fun after limit refused => ?_⟩
  exact sound.not_follows_of_not_member isGroup (membership_of_ownershipInvalid refused)

/-! ### A user who joins between two messages -/

def groupAfter (actions : List GroupAction) : GroupSystem :=
  (run (groupStep id .repeatableRead) {} actions).getD {}

def joinBetween : List GroupAction :=
  createGroup (some ⟨0, 0, 7, by decide⟩) (some ⟨0, 0, 9, by decide⟩) 1 ++
    [.acceptGroupText { groupText with clientMessageId := "a" } 7 (.committed true),
      .insertGroupMember 7 2,
      .acceptGroupText groupText 7 (.committed true)]

theorem group_history_follows_join_between :
    ∃ first second pages fuel,
      (groupAfter joinBetween).history =
        [.joined 7 1, .committed 7 (some first), .joined 7 2, .committed 7 (some second)] ∧
      pullUntil (groupAfter joinBetween).store 2 9 (fun _ => 50) 0 fuel = some pages ∧
      first ∉ pages.flatMap messages ∧
      second ∈ pages.flatMap messages := by
  have taken : run (groupStep id .repeatableRead) {} joinBetween =
      some (groupAfter joinBetween) := rfl
  have isGroup : ⟨7, 9⟩ ∈ (groupAfter joinBetween).store.groupInfo := by decide +kernel
  obtain ⟨enough, complete⟩ :=
    (group_history_follows_join id .repeatableRead taken isGroup (by decide : 0 < 2)).1 fun _ => 50
  obtain ⟨pages, returned, visible⟩ := complete enough le_rfl
  refine ⟨_, _, pages, enough, rfl, returned, ?_, ?_⟩
  · rw [visible _ (by decide +kernel)]
    unfold Follows
    decide +kernel
  · rw [visible _ (by decide +kernel)]
    unfold Follows
    decide +kernel

end Wimi.Server
