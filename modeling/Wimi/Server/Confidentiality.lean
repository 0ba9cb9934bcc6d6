/-
This file is about what a user can pull. A message is visible to a user who sent
it, to the user a direct message is addressed to, and to a member of its
conversation within the member's range. Which requests return visible messages
only, in every reachable database, is settled for every packet.

The page of a conversation checks the membership. The older queries do not: one
takes both users from the packet, and the other takes the messages whose receiver
is the actor's number, which can be the number of a group as well.
-/

import Wimi.Server.AcceptSound
import Wimi.Server.Pull

namespace Wimi.Server

open Function List Option Transition

/-! ### Reachable databases -/

inductive DatabaseAction where
  | accept (action : AcceptAction)
  | relate (friends : List FriendRow) (groupInfo : List GroupInfoRow)
      (groupMembers : List GroupMemberRow)
deriving DecidableEq, Repr

/-- `AcceptText` and `AcceptGroupText` refuse ids that are not positive. -/
def AcceptAction.Checked : AcceptAction → Prop
  | .begin _ command => 0 < command.senderId ∧ 0 < command.receiverId
  | .execute _ => True
  | .commit _ _ => True
  | .fail _ _ => True

instance : (action : AcceptAction) → Decidable action.Checked
  | .begin _ command =>
    inferInstanceAs (Decidable (0 < command.senderId ∧ 0 < command.receiverId))
  | .execute _ => isTrue trivial
  | .commit _ _ => isTrue trivial
  | .fail _ _ => isTrue trivial

def databaseStep (collate : String → String) (isolation : Isolation) (gids : List Nat)
    (system : AcceptSystem) : DatabaseAction → Option AcceptSystem
  | .accept action =>
    if action.Checked then acceptStep collate isolation system action else none
  | .relate friends groupInfo groupMembers =>
    if ∀ info ∈ groupInfo, info.gid ∈ gids then
      some { system with
        store := { system.store with
          friends, groupInfo, groupMembers } }
    else none

/-- Reached from tables without rows, with the message ids counted from anywhere. -/
def Reachable (collate : String → String) (isolation : Isolation) (gids : List Nat)
    (system : AcceptSystem) : Prop :=
  ∃ autoIncrement actions,
    run (databaseStep collate isolation gids)
      { store := { autoIncrement } } actions = some system

/-! ### Who a message is addressed to -/

structure CallAddressed (gids : List Nat) (state : AcceptCall) : Prop where
  positive : 0 < state.command.senderId ∧ 0 < state.command.receiverId
  pending : state.phase ≠ .done → state.inserted = none
  group : (state.phase = .done ∧ state.inserted = none) ∨
    (state.command.type = .group → state.command.receiverId ∈ gids)
  written : ∀ message, state.writes.message = some message ∨ state.inserted = some message →
    message.senderId = state.command.senderId ∧ message.receiverId = state.command.receiverId

structure Addressed (gids : List Nat) (system : AcceptSystem) : Prop where
  groups : ∀ info ∈ system.store.groupInfo, info.gid ∈ gids
  calls : ∀ call state, system.calls call = some state → CallAddressed gids state
  messages : ∀ message ∈ system.store.messages, ∃ call state, system.calls call = some state ∧
    state.inserted = some message

variable {system next : AcceptSystem} {gids : List Nat} {call uid : Nat} {message : MessageRow}
  {request : PullRequest} {collate : String → String} {isolation : Isolation}
  {command : AcceptCommand} {state : AcceptCall}

section

variable (addressed : Addressed gids system)
include addressed

theorem Addressed.replace {after : AcceptCall} (own : CallAddressed gids after)
    (kept : ∀ state message, system.calls call = some state → state.inserted = some message →
      after.inserted = some message) (autoIncrement : Nat) (locks : LockKey → Option Nat) :
    Addressed gids
      { store := { system.store with autoIncrement }, locks,
        calls := update system.calls call (some after) } where
  groups := addressed.groups
  calls other state found := by
    rcases update_eq_some found with ⟨_, rfl⟩ | ⟨_, earlier⟩
    · exact own
    · exact addressed.calls other state earlier
  messages message member := by
    obtain ⟨other, state, found, inserted⟩ := addressed.messages message member
    by_cases same : other = call
    · subst same
      exact ⟨other, after, update_self .., kept state message found inserted⟩
    · exact ⟨other, state, (update_of_ne same _ _).trans found, inserted⟩

theorem Addressed.begin (absent : system.calls call = none)
    (positive : 0 < command.senderId ∧ 0 < command.receiverId) :
    Addressed gids (system.begin call command) := by
  have kept : ∀ (after : AcceptCall) state message, system.calls call = some state →
      state.inserted = some message → after.inserted = some message := by
    intro _ state _ found
    rw [absent] at found
    cases found
  unfold AcceptSystem.begin
  split
  · refine addressed.replace ⟨positive, fun _ => rfl, .inl ⟨rfl, rfl⟩, ?_⟩ (kept _) _ _
    rintro message (written | inserted)
    · cases written
    · cases inserted
  rename_i conversationId selected
  refine addressed.replace ⟨positive, fun _ => rfl, .inr fun group => ?_, ?_⟩ (kept _) _ _
  · obtain ⟨info, found, _⟩ := AcceptCommand.group_of_select group selected
    have same : info.gid = command.receiverId := by simpa using find?_some found
    exact same ▸ addressed.groups info (mem_of_find?_eq_some found)
  · simp

theorem Addressed.execute (found : system.calls call = some state)
    (taken : system.execute collate isolation call state = some next) : Addressed gids next := by
  have running := AcceptSystem.running_of_execute taken
  obtain ⟨positive, pending, group, written⟩ := addressed.calls call state found
  obtain ⟨autoIncrement, locks, after, rfl, command, inserted, message, _⟩ :=
    AcceptSystem.execute_outcome taken
  refine addressed.replace
    ⟨command ▸ positive, fun _ => inserted.trans (pending running), .inr ?_, fun row => ?_⟩ ?_
    autoIncrement locks
  · grind
  · rw [command, inserted]
    rintro (new | old)
    · rcases message row new with same | ⟨accepted, messageId, rfl⟩
      · exact written row (.inl same)
      · exact ⟨rfl, rfl⟩
    · exact written row (.inr old)
  · grind

theorem Addressed.commit (found : system.calls call = some state) (running : state.phase ≠ .done)
    (replied : Bool) : Addressed gids (system.commit call state replied) := by
  obtain ⟨positive, pending, group, written⟩ := addressed.calls call state found
  have own : CallAddressed gids { state with
      phase := .done
      accepted := { state.accepted with error := if replied then .success else .mysqlFailed }
      inserted := state.writes.message } :=
    ⟨positive, fun done => absurd rfl done,
      .inr (group.resolve_left fun finished => running finished.1),
      fun message holds => written message (.inl (holds.elim id id))⟩
  have quiet := addressed.replace own (fun before message same inserted => by
    rw [found] at same
    rw [← some.inj same, pending running] at inserted
    cases inserted) system.store.autoIncrement (release system.locks call)
  refine ⟨quiet.groups, quiet.calls, fun message member => ?_⟩
  rcases mem_append.mp member with old | new
  · exact quiet.messages message old
  · exact ⟨call, _, update_self .., mem_toList.mp new⟩

theorem Addressed.finish (found : system.calls call = some state) (running : state.phase ≠ .done)
    (accepted : AcceptResult) : Addressed gids (system.finish call state accepted) := by
  obtain ⟨positive, pending, _, written⟩ := addressed.calls call state found
  refine addressed.replace ?_ ?_ system.store.autoIncrement _
  · exact ⟨positive, fun _ => pending running, .inl ⟨rfl, pending running⟩, written⟩
  · grind

end

theorem addressed_step (system : AcceptSystem) (action : DatabaseAction) (next : AcceptSystem)
    (addressed : Addressed gids system)
    (taken : databaseStep collate isolation gids system action = some next) :
    Addressed gids next := by
  cases action with
  | relate friends groupInfo groupMembers =>
    simp only [databaseStep] at taken
    split at taken
    · rename_i groups
      cases taken
      exact ⟨groups, addressed.calls, addressed.messages⟩
    · cases taken
  | accept action =>
    simp only [databaseStep] at taken
    split at taken
    · rename_i checked
      obtain ⟨call, command, rfl, absent, rfl⟩ | ⟨call, state, rfl, found, executed⟩ |
        ⟨call, state, replied, rfl, found, reached, rfl⟩ |
        ⟨call, state, what, rfl, found, running, rfl⟩ := acceptStep_cases taken
      · exact addressed.begin absent checked
      · exact addressed.execute found executed
      · exact addressed.commit found (reached ▸ nofun) replied
      · exact addressed.finish found running _
    · cases taken

theorem addressed_initial (gids : List Nat) (autoIncrement : Nat) :
    Addressed gids { store := { autoIncrement } } where
  groups := forall_mem_nil _
  calls _ _ found := nomatch found
  messages := forall_mem_nil _

theorem Reachable.addressed (reachable : Reachable collate isolation gids system) :
    Addressed gids system := by
  obtain ⟨autoIncrement, actions, taken⟩ := reachable
  exact run_invariant (Addressed gids) addressed_step
    (addressed_initial gids autoIncrement) taken

/-! ### Visibility -/

def Direct (system : AcceptSystem) (message : MessageRow) : Prop :=
  ∃ call state, system.calls call = some state ∧ state.inserted = some message ∧
    state.command.type = .direct

def InMembership (store : Store) (uid : Nat) (message : MessageRow) : Prop :=
  ∃ member ∈ store.conversationMembers, member.uid = uid ∧
    message.conversationId = some member.conversationId ∧
    ∃ conversationSeq, message.conversationSeq = some conversationSeq ∧
      member.joinedSeq ≤ conversationSeq ∧
      ∀ leftSeq, member.leftSeq = some leftSeq → conversationSeq ≤ leftSeq

def Visible (system : AcceptSystem) (uid : Nat) (message : MessageRow) : Prop :=
  message.senderId = uid ∨ (message.receiverId = uid ∧ Direct system message) ∨
    InMembership system.store uid message

theorem Addressed.positive (addressed : Addressed gids system)
    (member : message ∈ system.store.messages) : 0 < message.senderId ∧ 0 < message.receiverId := by
  obtain ⟨call, state, found, inserted⟩ := addressed.messages message member
  have own := addressed.calls call state found
  rw [(own.written message (.inr inserted)).1, (own.written message (.inr inserted)).2]
  exact own.positive

theorem Addressed.direct (addressed : Addressed gids system)
    (member : message ∈ system.store.messages) (notGroup : message.receiverId ∉ gids) :
    Direct system message := by
  obtain ⟨call, state, found, inserted⟩ := addressed.messages message member
  have own := addressed.calls call state found
  refine ⟨call, state, found, inserted, ?_⟩
  cases kind : state.command.type with
  | direct => rfl
  | group =>
    rcases own.group with ⟨_, none⟩ | group
    · rw [none] at inserted
      cases inserted
    · rw [(own.written message (.inr inserted)).2] at notGroup
      exact absurd (group kind) notGroup

theorem visible_of_inRange {conversationId after : Nat} {conversation : ConversationRow}
    {member : MemberRow}
    (found : system.store.membership uid conversationId = some (conversation, member))
    (joined : member.joinedSeq - 1 ≤ after)
    (within : inRange conversationId after (lastVisible conversation member) message) :
    Visible system uid message := by
  obtain ⟨same, above, below⟩ := of_decide_eq_true within
  unfold Store.membership at found
  split at found
  · rename_i _ row _ foundMember
    cases found
    have keys : member.conversationId = conversationId ∧ member.uid = uid := by
      simpa using find?_some foundMember
    cases sequence : message.conversationSeq with
    | none => grind
    | some conversationSeq =>
      rw [sequence, getD_some] at above below
      refine .inr (.inr ⟨member, mem_of_find?_eq_some foundMember, keys.2,
        same.trans (congrArg some keys.1.symm), conversationSeq, sequence, by omega, ?_⟩)
      intro leftSeq left
      unfold lastVisible at below
      rwa [left] at below
  · cases found

/-! ### Confidential requests -/

open scoped Classical in
/-- Two databases in which the user has the same memberships and sees the same messages. What
others exchanged may differ, with its conversations and their members. -/
def SameView (uid : Nat) (first second : AcceptSystem) : Prop :=
  (∀ conversationId,
      first.store.membership uid conversationId = second.store.membership uid conversationId) ∧
    (first.store.messages.filter fun message => Visible first uid message) =
      second.store.messages.filter fun message => Visible second uid message

/-- In every reachable database the request returns messages visible to the actor, and what
it returns does not depend on the others. -/
structure Confidential (collate : String → String) (isolation : Isolation) (gids : List Nat)
    (uid : Nat) (command : PullCommand) (request : PullRequest) : Prop where
  visible : ∀ system, Reachable collate isolation gids system →
    ∀ item ∈ (executeGatewayCommand system.store command uid request).messageList,
      ∃ message ∈ system.store.messages,
        (item = message.syncItem ∨ item = message.legacyItem) ∧ Visible system uid message
  independent : ∀ first second, Reachable collate isolation gids first →
    Reachable collate isolation gids second → SameView uid first second →
    executeGatewayCommand first.store command uid request =
      executeGatewayCommand second.store command uid request

def ReadsNothing (request : PullRequest) : Prop :=
  toInt32 request.lastMsgId < 0 ∨ request.limit.getD 0 ≤ 0

instance (request : PullRequest) : Decidable (ReadsNothing request) :=
  inferInstanceAs (Decidable (_ ∨ _))

/-- The requests that are safe: those for a conversation; by the older queries, those for the
actor's own messages or for messages to the actor when no group has the actor's number, and
those that cannot match a message. -/
def Safe (gids : List Nat) (uid : Nat) (command : PullCommand) (request : PullRequest) : Prop :=
  match command with
  | .pullSessionMessageListReq =>
    request.conversationId.isSome ∨ request.fromUid = uid ∨
      (request.toUid = uid ∧ uid ∉ gids) ∨ ReadsNothing request ∨
      request.fromUid ≤ 0 ∨ request.toUid ≤ 0
  | .pullMessageListReq => uid ∉ gids ∨ ReadsNothing request

theorem SameView.filter_eq {first second : AcceptSystem} (same : SameView uid first second)
    {selected : MessageRow → Bool}
    (firstVisible : ∀ message ∈ first.store.messages, selected message →
      Visible first uid message)
    (secondVisible : ∀ message ∈ second.store.messages, selected message →
      Visible second uid message) :
    first.store.messages.filter selected = second.store.messages.filter selected := by
  classical
  have narrowed : ∀ system : AcceptSystem,
      (∀ message ∈ system.store.messages, selected message → Visible system uid message) →
      system.store.messages.filter selected =
        (system.store.messages.filter fun message => Visible system uid message).filter
          selected := by
    intro system visible
    rw [List.filter_filter]
    refine filter_congr fun message member => ?_
    cases holds : selected message with
    | false => rfl
    | true => simp [visible message member holds]
  rw [narrowed first firstVisible, narrowed second secondVisible]
  convert congrArg (filter selected) same.2 using 3

theorem sentTo_visible (reachable : Reachable collate isolation gids system)
    (notGroup : uid ∉ gids) :
    ∀ message ∈ system.store.messages, sentTo uid message → Visible system uid message := by
  intro message member addressed
  have same : message.receiverId = uid := by exact_mod_cast of_decide_eq_true addressed
  exact .inr (.inl ⟨same, reachable.addressed.direct member (same ▸ notGroup)⟩)

theorem sentBetween_visible (reachable : Reachable collate isolation gids system)
    {fromUid toUid : Int}
    (safe : fromUid = uid ∨ (toUid = uid ∧ uid ∉ gids) ∨ fromUid ≤ 0 ∨ toUid ≤ 0) :
    ∀ message ∈ system.store.messages, sentBetween fromUid toUid message →
      Visible system uid message := by
  intro message member between
  obtain ⟨sender, receiver⟩ := of_decide_eq_true between
  have positive := reachable.addressed.positive member
  rcases safe with own | ⟨mine, notGroup⟩ | noSender | noReceiver
  · exact .inl (by exact_mod_cast sender.trans own)
  · exact sentTo_visible reachable notGroup message member
      (decide_eq_true (receiver.trans mine))
  · omega
  · omega

theorem confidential_conversation (authenticated : 0 < uid) {conversationId : Int}
    (conversation : request.conversationId = some conversationId) :
    Confidential collate isolation gids uid .pullSessionMessageListReq request := by
  have actor : ¬ (uid : Int) ≤ 0 := by omega
  refine ⟨fun system _ item member => ?_, fun first second _ _ same => ?_⟩
  · simp only [executeGatewayCommand, if_neg actor, pullSessionMessages, conversation] at member
    split at member
    · cases member
    obtain ⟨message, inPage, rfl⟩ := mem_map.mp member
    obtain ⟨stored, row, membership, after, found, joined, within⟩ :=
      mem_syncConversation inPage
    exact ⟨message, stored, .inl rfl, visible_of_inRange found joined within⟩
  have pages := @syncConversation_congr first.store conversationId second.store uid same.1 ?_
    (request.afterSeq.getD 0) (request.limit.getD 50)
  · simp only [executeGatewayCommand, pullSessionMessages, conversation, pages]
  intro row membership after found joined
  have foundSecond := (same.1 _).symm.trans found
  exact same.filter_eq (fun _ _ within => visible_of_inRange found joined within)
    (fun _ _ within => visible_of_inRange foundSecond joined within)

structure Answers (uid : Nat) (command : PullCommand) (request : PullRequest)
    (selected : MessageRow → Bool) : Prop where
  items : ∀ store, (executeGatewayCommand store command uid request).messageList =
    ((messagesFrom store selected (toInt32 request.lastMsgId) (request.limit.getD 0)).getD []).map
      MessageRow.legacyItem
  congr : ∀ first second,
    messagesFrom first selected (toInt32 request.lastMsgId) (request.limit.getD 0) =
      messagesFrom second selected (toInt32 request.lastMsgId) (request.limit.getD 0) →
    executeGatewayCommand first command uid request =
      executeGatewayCommand second command uid request

theorem answers_pullSessionMessages (authenticated : 0 < uid)
    (legacy : request.conversationId = none) :
    Answers uid .pullSessionMessageListReq request
      (sentBetween request.fromUid request.toUid) := by
  have actor : ¬ (uid : Int) ≤ 0 := by omega
  refine ⟨fun store => ?_, fun first second same => ?_⟩
  · simp only [executeGatewayCommand, if_neg actor, pullSessionMessages, legacy,
      getSessionMessage]
    split
    · rename_i none
      rw [none]
      rfl
    rename_i rows found
    rw [found]
    rfl
  · simp only [executeGatewayCommand, pullSessionMessages, legacy,
      getSessionMessage, same]

theorem answers_pullMessages (authenticated : 0 < uid) (request : PullRequest) :
    Answers uid .pullMessageListReq request (sentTo uid) := by
  have actor : ¬ (uid : Int) ≤ 0 := by omega
  refine ⟨fun store => ?_, fun first second same => ?_⟩
  · simp only [executeGatewayCommand, if_neg actor, pullMessages, getUserMessage]
    split
    · rename_i none
      rw [none]
      rfl
    rename_i rows found
    rw [found]
    rfl
  · simp only [executeGatewayCommand, pullMessages, getUserMessage, same]

section

variable {command : PullCommand} {request : PullRequest} {selected : MessageRow → Bool}
  (answers : Answers uid command request selected)
include answers

theorem Answers.confidential
    (safe : ReadsNothing request ∨ ∀ system, Reachable collate isolation gids system →
      ∀ message ∈ system.store.messages, selected message → Visible system uid message) :
    Confidential collate isolation gids uid command request := by
  rcases safe with nothing | visible
  · refine ⟨fun system _ item member => ?_, fun first second _ _ _ => answers.congr _ _ ?_⟩
    · rw [answers.items, messagesFrom_eq_none nothing] at member
      cases member
    · rw [messagesFrom_eq_none nothing, messagesFrom_eq_none nothing]
  refine ⟨fun system reachable item member => ?_,
    fun first second firstReachable secondReachable same => answers.congr _ _ ?_⟩
  · rw [answers.items] at member
    obtain ⟨message, inRows, rfl⟩ := mem_map.mp member
    cases found : messagesFrom system.store selected (toInt32 request.lastMsgId)
        (request.limit.getD 0) with
    | none =>
      rw [found] at inRows
      cases inRows
    | some rows =>
      rw [found] at inRows
      obtain ⟨stored, holds⟩ := mem_messagesFrom found inRows
      exact ⟨message, stored, .inr rfl, visible system reachable message stored holds⟩
  · exact messagesFrom_congr (same.filter_eq (visible first firstReachable)
      (visible second secondReachable)) _ _

theorem Answers.leaks (reads : ¬ ReadsNothing request)
    (reachable : Reachable collate isolation gids system)
    (only : system.store.messages = [message]) (holds : selected message)
    (reached : toInt32 request.lastMsgId ≤ message.messageId)
    (hidden : ¬ Visible system uid message) :
    ¬ Confidential collate isolation gids uid command request := by
  intro confidential
  have returned : message.legacyItem ∈
      (executeGatewayCommand system.store command uid request).messageList := by
    rw [answers.items, messagesFrom_singleton only holds reads reached]
    exact mem_singleton_self _
  obtain ⟨stored, member, _, visible⟩ := confidential.visible system reachable _ returned
  rw [only, mem_singleton] at member
  exact hidden (member ▸ visible)

end

theorem confidential_of_safe (authenticated : 0 < uid) {command : PullCommand}
    (safe : Safe gids uid command request) :
    Confidential collate isolation gids uid command request := by
  cases command with
  | pullSessionMessageListReq =>
    cases conversation : request.conversationId with
    | some conversationId => exact confidential_conversation authenticated conversation
    | none =>
      simp only [Safe, conversation] at safe
      refine (answers_pullSessionMessages authenticated conversation).confidential ?_
      by_cases nothing : ReadsNothing request
      · exact .inl nothing
      · exact .inr fun system reachable => sentBetween_visible reachable (by tauto)
  | pullMessageListReq =>
    refine (answers_pullMessages authenticated request).confidential ?_
    rcases safe with notGroup | nothing
    · exact .inr fun system reachable => sentTo_visible reachable notGroup
    · exact .inl nothing

/-! ### Requests that leak -/

theorem run_accept {final : AcceptSystem} {actions : List AcceptAction}
    (checked : ∀ action ∈ actions, action.Checked)
    (taken : run (acceptStep collate isolation) system actions = some final) :
    run (databaseStep collate isolation gids) system (actions.map .accept) =
      some final := by
  induction actions generalizing system with
  | nil => exact taken
  | cons action rest inductionHypothesis =>
    obtain ⟨next, first, later⟩ := run_cons_eq_some.mp taken
    obtain ⟨here, restChecked⟩ := forall_mem_cons.mp checked
    refine run_cons_eq_some.mpr ⟨next, ?_, inductionHypothesis restChecked later⟩
    simp only [databaseStep, if_pos here, first]

theorem checked_script (positive : 0 < command.senderId ∧ 0 < command.receiverId) (call : Nat) :
    ∀ action ∈ command.script call, action.Checked := by
  intro action member
  rcases mem_append.mp member with early | last
  · rcases mem_cons.mp early with rfl | statement
    · exact positive
    · rw [eq_of_mem_replicate statement]
      trivial
  · rw [mem_singleton.mp last]
    trivial

theorem reachable_alone (autoIncrement : Nat) {friends : List FriendRow}
    {groupInfo : List GroupInfoRow} {groupMembers : List GroupMemberRow}
    (groups : ∀ info ∈ groupInfo, info.gid ∈ gids)
    (positive : 0 < command.senderId ∧ 0 < command.receiverId)
    (selected : command.selectConversation
      { friends, groupInfo, groupMembers,
        autoIncrement } = .ok 1) :
    ∃ system accepted, Reachable collate isolation gids system ∧
      system.store.messages = [command.messageRow accepted autoIncrement] ∧
      (∀ member ∈ system.store.conversationMembers, ∃ view : Store,
        view.groupMembers = groupMembers ∧ member ∈ command.members view 1) ∧
      ∀ call state, system.calls call = some state → state.command = command := by
  obtain ⟨system, accepted, view, taken, messages, members, sameGroups, others, state, own,
    ownCommand⟩ := accept_alone collate isolation rfl rfl rfl selected
  refine ⟨system, accepted, ⟨autoIncrement,
    .relate friends groupInfo groupMembers :: (command.script 0).map .accept, ?_⟩,
    messages, fun member inMembers => ⟨view, sameGroups, ?_⟩, fun call found present => ?_⟩
  · refine run_cons_eq_some.mpr ⟨_, ?_, run_accept (checked_script positive 0) taken⟩
    simp only [databaseStep, if_pos groups]
  · rw [members] at inMembers
    exact mem_newMembers inMembers
  · grind

theorem direct_leaks (authenticated : 0 < uid) (legacy : request.conversationId = none)
    (reads : ¬ ReadsNothing request) (positive : 0 < request.fromUid ∧ 0 < request.toUid)
    (notSender : request.fromUid ≠ uid) (notReceiver : request.toUid ≠ uid) :
    ¬ Confidential collate isolation gids uid .pullSessionMessageListReq request := by
  have sender : (request.fromUid.toNat : Int) = request.fromUid := Int.toNat_of_nonneg positive.1.le
  have receiver : (request.toUid.toNat : Int) = request.toUid := Int.toNat_of_nonneg positive.2.le
  let command : AcceptCommand :=
    { type := .direct, senderId := request.fromUid.toNat, receiverId := request.toUid.toNat,
      clientMessageId := "", content := "secret", sendDateTime := "" }
  obtain ⟨system, accepted, reachable, messages, members, _⟩ :=
    @reachable_alone gids collate isolation command (toInt32 request.lastMsgId).toNat
      [⟨command.senderId, command.receiverId, 1⟩] [] [] nofun
      (by simp only [command]; omega) (by simp [AcceptCommand.selectConversation, command])
  refine (answers_pullSessionMessages authenticated legacy).leaks reads reachable messages
    (decide_eq_true ⟨sender, receiver⟩) (Int.self_le_toNat _) ?_
  rintro (own | ⟨mine, _⟩ | ⟨member, inMembers, same, _⟩)
  · exact notSender (sender.symm.trans (congrArg Nat.cast own))
  · exact notReceiver (receiver.symm.trans (congrArg Nat.cast mine))
  obtain ⟨view, _, added⟩ := members member inMembers
  simp only [AcceptCommand.members, command, mem_cons, not_mem_nil, or_false] at added
  rcases added with rfl | rfl
  · exact notSender (sender.symm.trans (congrArg Nat.cast same))
  · exact notReceiver (receiver.symm.trans (congrArg Nat.cast same))

theorem reachable_groupMessage {sender : Nat} (authenticated : 0 < uid) (positive : 0 < sender)
    (different : sender ≠ uid) (isGroup : uid ∈ gids) (autoIncrement : Nat) :
    ∃ system message, Reachable collate isolation gids system ∧
      system.store.messages = [message] ∧ message.senderId = sender ∧ message.receiverId = uid ∧
      message.messageId = autoIncrement ∧ ¬ Visible system uid message := by
  let command : AcceptCommand :=
    { type := .group, senderId := sender, receiverId := uid, clientMessageId := "",
      content := "secret", sendDateTime := "" }
  obtain ⟨system, accepted, reachable, messages, members, calls⟩ :=
    @reachable_alone gids collate isolation command autoIncrement [] [⟨uid, 1⟩]
      [{ gid := uid, uid := sender }] (by simpa using isGroup) ⟨positive, authenticated⟩
      (by simp [AcceptCommand.selectConversation, command])
  refine ⟨system, _, reachable, messages, rfl, rfl, rfl, ?_⟩
  rintro (own | ⟨_, call, state, found, _, direct⟩ | ⟨member, inMembers, same, _⟩)
  · exact different own
  · rw [calls call state found] at direct
    cases direct
  obtain ⟨view, groupMembers, added⟩ := members member inMembers
  simp only [AcceptCommand.members, command] at added
  split at added
  · cases added
  · grind

theorem safe_of_confidential (authenticated : 0 < uid) {command : PullCommand}
    (confidential : Confidential collate isolation gids uid command request) :
    Safe gids uid command request := by
  by_contra leak
  cases command with
  | pullSessionMessageListReq =>
    simp only [Safe, not_or, not_and, not_not, Bool.not_eq_true, isSome_eq_false_iff,
      isNone_iff_eq_none, not_le] at leak
    obtain ⟨legacy, notSender, group, reads, senderPositive, receiverPositive⟩ := leak
    by_cases mine : request.toUid = uid
    · have sender : (request.fromUid.toNat : Int) = request.fromUid :=
        Int.toNat_of_nonneg senderPositive.le
      obtain ⟨system, message, reachable, only, sent, received, messageId, hidden⟩ :=
        @reachable_groupMessage gids uid collate isolation request.fromUid.toNat authenticated
          (by omega) (by omega) (group mine) (toInt32 request.lastMsgId).toNat
      refine (answers_pullSessionMessages authenticated legacy).leaks reads reachable only
        (decide_eq_true ⟨?_, ?_⟩) (messageId ▸ Int.self_le_toNat _) hidden confidential
      · rw [sent, sender]
      · rw [received, mine]
    · grind [direct_leaks]
  | pullMessageListReq =>
    simp only [Safe, not_or, not_not] at leak
    obtain ⟨isGroup, reads⟩ := leak
    obtain ⟨system, message, reachable, only, _, received, messageId, hidden⟩ :=
      @reachable_groupMessage gids uid collate isolation (uid + 1) authenticated (by omega)
        (by omega) isGroup (toInt32 request.lastMsgId).toNat
    exact (answers_pullMessages authenticated request).leaks reads reachable only
      (decide_eq_true (congrArg Nat.cast received)) (messageId ▸ Int.self_le_toNat _) hidden
      confidential

/-- For every authenticated actor, every packet and every set of group ids: the request is
confidential in all reachable databases exactly if it is safe. -/
theorem pull_confidential_iff_safe (collate : String → String) (isolation : Isolation)
    (gids : List Nat) {uid : Nat} (authenticated : 0 < uid) (command : PullCommand)
    (request : PullRequest) :
    Confidential collate isolation gids uid command request ↔ Safe gids uid command request :=
  ⟨safe_of_confidential authenticated, confidential_of_safe authenticated⟩

def strangersRequest : PullRequest := { fromUid := 1, toUid := 2, limit := some 10 }

/-- User 1 may ask for the same. -/
theorem pull_confidential_iff_safe_own :
    Confidential id .repeatableRead [] 1 .pullSessionMessageListReq strangersRequest :=
  (pull_confidential_iff_safe id .repeatableRead [] (by decide) _ _).mpr (.inr (.inl rfl))

def friendsActions : List DatabaseAction :=
  .relate [⟨1, 2, 5⟩, ⟨2, 1, 5⟩] [] [] ::
    (AcceptCommand.script
      { type := .direct, senderId := 1, receiverId := 2, clientMessageId := "a",
        content := "hello", sendDateTime := "" } 0).map .accept

def friendsDatabase : AcceptSystem :=
  (run (databaseStep id .repeatableRead []) { store := {} } friendsActions).getD
    { store := {} }

theorem reachable_friendsDatabase : Reachable id .repeatableRead [] friendsDatabase := by
  have enabled : (run (databaseStep id .repeatableRead []) { store := {} }
      friendsActions).isSome := by decide +kernel
  obtain ⟨final, taken⟩ := isSome_iff_exists.mp enabled
  refine ⟨1, friendsActions, ?_⟩
  rw [friendsDatabase, taken, getD_some]

/-- User 3, who is no friend of either, is returned the message of user 1 to user 2. -/
theorem stranger_pulls_direct_message :
    Reachable id .repeatableRead [] friendsDatabase ∧
      ((executeGatewayCommand friendsDatabase.store .pullSessionMessageListReq 3
          strangersRequest).messageList.map ChatMessage.content = ["hello"]) ∧
      (∀ message ∈ friendsDatabase.store.messages, ¬ Visible friendsDatabase 3 message) ∧
      ¬ Confidential id .repeatableRead [] 3 .pullSessionMessageListReq strangersRequest := by
  have hidden : ∀ message ∈ friendsDatabase.store.messages,
      message.senderId ≠ 3 ∧ message.receiverId ≠ 3 := by decide +kernel
  have members : ∀ member ∈ friendsDatabase.store.conversationMembers, member.uid ≠ 3 := by
    decide +kernel
  refine ⟨reachable_friendsDatabase, by decide +kernel, fun message member => ?_,
    direct_leaks (by decide) rfl (by decide) (by decide) (by decide) (by decide)⟩
  rintro (own | ⟨mine, _⟩ | ⟨row, inMembers, same, _⟩)
  · exact (hidden message member).1 own
  · exact (hidden message member).2 mine
  · exact members row inMembers same

end Wimi.Server
