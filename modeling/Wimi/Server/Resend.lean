/-
This file studies what it means that an error is retryable: the client sends the same
packet again until it succeeds, while an execution it was told to be too late may still
go on, and afterwards the database has the effect of one execution.

Apart from the times in the rows, a statement that inserts under a key fails when it is
executed again, and one that sets columns sets them to the same values; so for most
commands the rule of the library applies. A text has its client message id, whose lock
the inserting transaction holds to its end. The creating of a group draws its key anew in
every execution, and an upload appends; neither has anything by which a second execution
could recognise the first.
-/

import Wimi.Server.ResendText

namespace Wimi.Server

open Function List Option Attempts

/-! ### The database without the times of its rows -/

def FriendApplyRow.undated (row : FriendApplyRow) : FriendApplyRow := { row with createTime := "" }

namespace GroupJoin

def GroupManager.undated (group : GroupManager) : GroupManager := { group with createTime := "" }

def GroupMember.undated (member : GroupMember) : GroupMember := { member with joinTime := "" }

def GroupApply.undated (apply : GroupApply) : GroupApply := { apply with updateTime := "" }

def Tables.undated (tables : Tables) : Tables where
  groupInfo := tables.groupInfo.map GroupManager.undated
  groupMembers := tables.groupMembers.map GroupMember.undated
  groupApplys := tables.groupApplys.map GroupApply.undated

end GroupJoin

/-- The database without the columns that only hold when a row was written. -/
def Database.undated (database : Database) : Database :=
  { database with
    friendApplys := database.friendApplys.map FriendApplyRow.undated
    groups := database.groups.undated }

open Database

theorem insertApplyRow_undated (rows : List FriendApplyRow) (row : FriendApplyRow) :
    (insertApplyRow rows row).map (map FriendApplyRow.undated) =
      insertApplyRow (rows.map FriendApplyRow.undated) row.undated := by
  unfold insertApplyRow
  rw [apply_ite (Option.map _), List.any_map]
  refine if_congr Iff.rfl rfl ?_
  rw [map_some, map_append, map_singleton]

theorem updateApplyRows_undated (rows : List FriendApplyRow) (fromUid toUid : Nat)
    (call : FriendCall) :
    (updateApplyRows rows fromUid toUid call).map (map FriendApplyRow.undated) =
      updateApplyRows (rows.map FriendApplyRow.undated) fromUid toUid
        { call with createTime := "" } := by
  unfold updateApplyRows
  rw [apply_ite (Option.map _), List.any_map]
  refine if_congr Iff.rfl rfl ?_
  rw [map_some, List.map_map, List.map_map]
  refine congrArg some (map_congr_left fun row _ => ?_)
  rw [comp_apply, FriendCall.reply, apply_ite FriendApplyRow.undated]
  rfl

namespace GroupJoin.Tables

variable (tables : Tables)

theorem hasGroup_undated (gid : Int) : tables.undated.hasGroup gid = tables.hasGroup gid := by
  rw [hasGroup, undated, List.any_map]
  rfl

theorem insertGroupMember_undated (member : GroupMember) :
    (tables.insertGroupMember member).map undated =
      tables.undated.insertGroupMember member.undated := by
  unfold insertGroupMember
  rw [apply_ite (Option.map _)]
  refine if_congr ?_ ?_ rfl
  · rw [undated, List.forall_mem_map]
    rfl
  · simp only [map_some, undated, map_append, map_singleton]

theorem insertGroupApply_undated (apply : GroupApply) :
    (tables.insertGroupApply apply).map undated =
      tables.undated.insertGroupApply apply.undated := by
  unfold insertGroupApply
  rw [apply_ite (Option.map _)]
  refine if_congr ?_ ?_ rfl
  · rw [undated, List.forall_mem_map]
    rfl
  · simp only [map_some, undated, map_append, map_singleton]

theorem updateGroupApply_undated (apply : GroupApply) :
    (tables.updateGroupApply apply).map undated =
      tables.undated.updateGroupApply apply.undated := by
  unfold updateGroupApply
  rw [apply_ite (Option.map _)]
  refine if_congr ?_ ?_ rfl
  · rw [undated, List.forall_mem_map]
    rfl
  simp only [map_some, undated, List.map_map]
  refine congrArg (fun rows => some (Tables.mk _ _ rows)) (map_congr_left fun row _ => ?_)
  rw [comp_apply, GroupApply.reply, apply_ite GroupApply.undated]
  rfl

end GroupJoin.Tables

/-! ### Statements that settle a row -/

variable {database next : Database} {fault : Option ErrorCode} {look : Database → Option ErrorCode}
  {row : FriendApplyRow} {call : FriendCall} {fromUid toUid : Nat}
  {data fileName fileType groupName : String}

/-- The image does to the database without the times what the statement does to it with them. -/
def Undates (statement image : CommandStatement) : Prop :=
  ∀ database, (statement.run database).map undated = image.run database.undated

theorem tryWrite_undated {write image : Database → Option Database}
    (same : ∀ database, (write database).map undated = image database.undated) :
    Undates (tryWrite write) (tryWrite image) := by
  intro database
  simp only [tryWrite, ← same database]
  cases write database <;> rfl

theorem check_undated {image : Database → Option ErrorCode}
    (same : ∀ database : Database, look database = image database.undated) :
    Undates (check look fault) (check image fault) := by
  intro database
  simp only [check, ← same database]
  cases look database <;> rfl

theorem writeGroups_undated {write image : GroupJoin.Tables → Option GroupJoin.Tables}
    (same : ∀ tables, (write tables).map GroupJoin.Tables.undated = image tables.undated) :
    Undates (writeGroups write) (writeGroups image) := by
  refine tryWrite_undated fun database => ?_
  have groups : database.undated.groups = database.groups.undated := rfl
  rw [groups, ← same, Option.map_map, Option.map_map]
  rfl

theorem insertGroupMember_undated (member : GroupJoin.GroupMember) :
    Undates (insertGroupMember member) (insertGroupMember member.undated) :=
  writeGroups_undated fun tables => tables.insertGroupMember_undated member

theorem insertGroupApply_undated (apply : GroupJoin.GroupApply) :
    Undates (insertGroupApply apply) (insertGroupApply apply.undated) :=
  writeGroups_undated fun tables => tables.insertGroupApply_undated apply

theorem updateGroupApply_undated (apply : GroupJoin.GroupApply) :
    Undates (updateGroupApply apply) (updateGroupApply apply.undated) :=
  writeGroups_undated fun tables => tables.updateGroupApply_undated apply

theorem insertFriendApply_undated (row : FriendApplyRow) :
    Undates (insertFriendApply row) (insertFriendApply row.undated) := by
  refine tryWrite_undated fun database => ?_
  have rows : database.undated.friendApplys =
      database.friendApplys.map FriendApplyRow.undated := rfl
  rw [rows, ← insertApplyRow_undated, Option.map_map, Option.map_map]
  rfl

theorem updateFriendApply_undated (fromUid toUid : Nat) (call : FriendCall) :
    Undates (updateFriendApply fromUid toUid call)
      (updateFriendApply fromUid toUid { call with createTime := "" }) := by
  refine tryWrite_undated fun database => ?_
  have rows : database.undated.friendApplys =
      database.friendApplys.map FriendApplyRow.undated := rfl
  rw [rows, ← updateApplyRows_undated, Option.map_map, Option.map_map]
  rfl

theorem insertFriend_undated (row : FriendRow) :
    Undates (insertFriend row) (insertFriend row) := by
  refine tryWrite_undated fun database => ?_
  rw [Option.map_map]
  rfl

/-! ### What the statements settle -/

def settleCheck (look : Database → Option ErrorCode) (fault : Option ErrorCode) :
    Settler Database ErrorCode where
  toStatement := check look fault
  settled _ := True
  establishes _ := trivial
  absorbed _ passed := check_eq_ok passed

theorem insertFriendApply_eq_ok (ran : (insertFriendApply row).run database = .ok next) :
    ¬ HasApply database.friendApplys row.fromUid row.toUid ∧
      next = { database with friendApplys := database.friendApplys ++ [row] } := by
  obtain ⟨rows, inserted, rfl⟩ := map_eq_some_iff.mp (tryWrite_eq_ok.mp ran)
  obtain ⟨-, absent, rfl⟩ := insertApplyRow_eq_some.mp inserted
  exact ⟨absent, rfl⟩

def settleInsertFriendApply (row : FriendApplyRow) : Settler Database ErrorCode where
  toStatement := insertFriendApply row
  settled database := HasApply database.friendApplys row.fromUid row.toUid
  establishes ran := by
    obtain ⟨_, rfl⟩ := insertFriendApply_eq_ok ran
    exact ⟨row, mem_append_right _ mem_cons_self, rfl, rfl⟩
  absorbed present ran := absurd present (insertFriendApply_eq_ok ran).1

theorem insertFriend_eq_ok {row : FriendRow} (ran : (insertFriend row).run database = .ok next) :
    ¬ HasFriend database.friends row.uidA row.uidB ∧
      next = { database with friends := database.friends ++ [row] } := by
  obtain ⟨rows, inserted, rfl⟩ := map_eq_some_iff.mp (tryWrite_eq_ok.mp ran)
  obtain ⟨absent, rfl⟩ := insertFriendRow_eq_some.mp inserted
  exact ⟨absent, rfl⟩

def settleInsertFriend (row : FriendRow) : Settler Database ErrorCode where
  toStatement := insertFriend row
  settled database := HasFriend database.friends row.uidA row.uidB
  establishes ran := by
    obtain ⟨_, rfl⟩ := insertFriend_eq_ok ran
    exact ⟨row, mem_append_right _ mem_cons_self, rfl, rfl⟩
  absorbed present ran := absurd present (insertFriend_eq_ok ran).1

theorem FriendCall.reply_reply (call : FriendCall) (fromUid toUid fromUid' toUid' : Nat)
    (replied : call.reply fromUid toUid row = row) :
    call.reply fromUid toUid (call.reply fromUid' toUid' row) = call.reply fromUid' toUid' row := by
  unfold reply
  split
  · split <;> rfl
  · exact replied

theorem updateFriendApply_eq_ok
    (ran : (updateFriendApply fromUid toUid call).run database = .ok next) :
    next = { database with
      friendApplys := database.friendApplys.map (call.reply fromUid toUid) } := by
  obtain ⟨rows, updated, rfl⟩ := map_eq_some_iff.mp (tryWrite_eq_ok.mp ran)
  rw [(updateApplyRows_eq_some.mp updated).2]

def Replied (call : FriendCall) (fromUid toUid : Nat) (rows : List FriendApplyRow) : Prop :=
  ∀ row ∈ rows, call.reply fromUid toUid row = row

theorem replied_map (call : FriendCall) (fromUid toUid : Nat) (rows : List FriendApplyRow) :
    Replied call fromUid toUid (rows.map (call.reply fromUid toUid)) := by
  refine forall_mem_map.mpr fun row _ => ?_
  unfold FriendCall.reply
  split <;> rfl

theorem Replied.map_reply {rows : List FriendApplyRow} (replied : Replied call fromUid toUid rows)
    (fromUid' toUid' : Nat) : Replied call fromUid toUid (rows.map (call.reply fromUid' toUid')) :=
  forall_mem_map.mpr fun row member =>
    call.reply_reply fromUid toUid fromUid' toUid' (replied row member)

def settleUpdateFriendApply (fromUid toUid : Nat) (call : FriendCall) :
    Settler Database ErrorCode where
  toStatement := updateFriendApply fromUid toUid call
  settled database := Replied call fromUid toUid database.friendApplys
  establishes ran := by
    obtain rfl := updateFriendApply_eq_ok ran
    exact replied_map call fromUid toUid _
  absorbed {seen _} replied ran := by
    obtain rfl := updateFriendApply_eq_ok ran
    have same : seen.friendApplys.map (call.reply fromUid toUid) = seen.friendApplys :=
      (map_congr_left replied).trans (List.map_id _)
    rw [same]

theorem writeGroups_eq_ok {write : GroupJoin.Tables → Option GroupJoin.Tables}
    (ran : (writeGroups write).run database = .ok next) :
    ∃ groups, write database.groups = some groups ∧ next = { database with groups } := by
  obtain ⟨groups, written, rfl⟩ := map_eq_some_iff.mp (tryWrite_eq_ok.mp ran)
  exact ⟨groups, written, rfl⟩

open GroupJoin

theorem GroupJoin.GroupApply.reply_reply (apply row : GroupApply) :
    apply.reply (apply.reply row) = apply.reply row := by
  unfold reply
  split <;> rfl

theorem insertGroup_eq_ok {group : GroupManager}
    (ran : (insertGroup group).run database = .ok next) :
    group.name.length ≤ maxName ∧
      next = { database with
        groups := { database.groups with groupInfo := database.groups.groupInfo ++ [group] } } := by
  obtain ⟨groups, inserted, rfl⟩ := writeGroups_eq_ok ran
  obtain ⟨⟨_, _, fits, _⟩, rfl⟩ := Tables.insertGroup_eq_some.mp inserted
  exact ⟨fits, rfl⟩

theorem insertGroupMember_eq_ok {member : GroupMember}
    (ran : (insertGroupMember member).run database = .ok next) :
    ¬ IsMember database.groups member.uid member.gid ∧
      next = { database with
        groups := { database.groups with
          groupMembers := database.groups.groupMembers ++ [member] } } := by
  obtain ⟨groups, inserted, rfl⟩ := writeGroups_eq_ok ran
  obtain ⟨⟨_, _, absent⟩, rfl⟩ := Tables.insertGroupMember_eq_some.mp inserted
  exact ⟨absent, rfl⟩

theorem insertGroupApply_eq_ok {apply : GroupApply}
    (ran : (insertGroupApply apply).run database = .ok next) :
    ¬ Applied database.groups apply.requestor apply.gid ∧
      next = { database with
        groups := { database.groups with
          groupApplys := database.groups.groupApplys ++ [apply] } } := by
  obtain ⟨groups, inserted, rfl⟩ := writeGroups_eq_ok ran
  obtain ⟨⟨_, _, _, _, absent⟩, rfl⟩ := Tables.insertGroupApply_eq_some.mp inserted
  exact ⟨absent, rfl⟩

theorem updateGroupApply_eq_ok {apply : GroupApply}
    (ran : (updateGroupApply apply).run database = .ok next) :
    next = { database with
      groups := { database.groups with
        groupApplys := database.groups.groupApplys.map apply.reply } } := by
  obtain ⟨groups, updated, rfl⟩ := writeGroups_eq_ok ran
  rw [(Tables.updateGroupApply_eq_some.mp updated).2]

def settleInsertGroupMember (member : GroupMember) : Settler Database ErrorCode where
  toStatement := insertGroupMember member
  settled database := IsMember database.groups member.uid member.gid
  establishes ran := by
    obtain ⟨_, rfl⟩ := insertGroupMember_eq_ok ran
    exact ⟨member, mem_append_right _ mem_cons_self, rfl, rfl⟩
  absorbed present ran := absurd present (insertGroupMember_eq_ok ran).1

def settleInsertGroupApply (apply : GroupApply) : Settler Database ErrorCode where
  toStatement := insertGroupApply apply
  settled database := Applied database.groups apply.requestor apply.gid
  establishes ran := by
    obtain ⟨_, rfl⟩ := insertGroupApply_eq_ok ran
    exact ⟨apply, mem_append_right _ mem_cons_self, rfl, rfl⟩
  absorbed present ran := absurd present (insertGroupApply_eq_ok ran).1

def settleUpdateGroupApply (apply : GroupApply) : Settler Database ErrorCode where
  toStatement := updateGroupApply apply
  settled database := ∀ row ∈ database.groups.groupApplys, apply.reply row = row
  establishes ran := by
    obtain rfl := updateGroupApply_eq_ok ran
    exact forall_mem_map.mpr fun row _ => apply.reply_reply row
  absorbed {seen _} replied ran := by
    obtain rfl := updateGroupApply_eq_ok ran
    have same : seen.groups.groupApplys.map apply.reply = seen.groups.groupApplys :=
      (map_congr_left replied).trans (List.map_id _)
    rw [same]

/-! ### The commands that may be sent again -/

section Commands

variable {actorUid : Int}

def settleNotifyAddFriend (uid toUid : Int) (requestMessage : String) :
    List (Settler Database ErrorCode) :=
  let row : FriendApplyRow :=
    { fromUid := sizeT uid, toUid := sizeT toUid, content := requestMessage, status := .wait,
      applicant := sizeT uid }
  [settleInsertFriendApply row,
    settleInsertFriendApply { row with fromUid := row.toUid, toUid := row.fromUid }]

theorem HasApply.insert (present : HasApply database.friendApplys fromUid toUid)
    (ran : (insertFriendApply row).run database = .ok next) :
    HasApply next.friendApplys fromUid toUid := by
  obtain ⟨_, rfl⟩ := insertFriendApply_eq_ok ran
  obtain ⟨other, member, same⟩ := present
  exact ⟨other, mem_append_left _ member, same⟩

theorem settling_notifyAddFriend (toUid : Int) (requestMessage : String) :
    Settling ((Command.notifyAddFriend toUid requestMessage).service actorUid) undated
      (fun _ _ => True) fun _ => settleNotifyAddFriend actorUid toUid requestMessage := by
  refine .of_const (fun _ =>
    .cons (insertFriendApply_undated _) (.cons (insertFriendApply_undated _) .nil)) ?_
  intro settler member other otherMember seen next settled ran
  simp only [settleNotifyAddFriend, mem_cons, not_mem_nil, or_false] at member otherMember
  rcases member with rfl | rfl <;> rcases otherMember with rfl | rfl <;>
    exact HasApply.insert settled ran

structure ReplyStep (call : FriendCall) (database next : Database) : Prop where
  friends : ∀ row ∈ database.friends, row ∈ next.friends
  friendApplys : next.friendApplys = database.friendApplys ∨
    ∃ fromUid toUid, next.friendApplys = database.friendApplys.map (call.reply fromUid toUid)

theorem replyStep_insertFriend (call : FriendCall) {row : FriendRow}
    (ran : (insertFriend row).run database = .ok next) : ReplyStep call database next := by
  obtain ⟨_, rfl⟩ := insertFriend_eq_ok ran
  exact ⟨fun other member => mem_append_left _ member, .inl rfl⟩

theorem replyStep_update (ran : (updateFriendApply fromUid toUid call).run database = .ok next) :
    ReplyStep call database next := by
  obtain rfl := updateFriendApply_eq_ok ran
  exact ⟨fun _ member => member, .inr ⟨fromUid, toUid, rfl⟩⟩

theorem replyStep_check (call : FriendCall) (ran : (check look fault).run database = .ok next) :
    ReplyStep call database next := by
  obtain rfl := check_eq_ok ran
  exact ⟨fun _ member => member, .inl rfl⟩

theorem ReplyStep.hasFriend (step : ReplyStep call database next) {uidA uidB : Nat}
    (present : HasFriend database.friends uidA uidB) : HasFriend next.friends uidA uidB := by
  obtain ⟨row, member, same⟩ := present
  exact ⟨row, step.friends row member, same⟩

theorem ReplyStep.replied (step : ReplyStep call database next)
    (replied : Replied call fromUid toUid database.friendApplys) :
    Replied call fromUid toUid next.friendApplys := by
  rcases step.friendApplys with same | ⟨fromUid', toUid', same⟩
  · exact same ▸ replied
  · exact same ▸ replied.map_reply fromUid' toUid'

def settleReply (call : FriendCall) : List (Settler Database ErrorCode) :=
  [settleUpdateFriendApply call.uid call.toUid call,
    settleUpdateFriendApply call.toUid call.uid call]

def settleFriends (call : FriendCall) (sessionId : Nat) : List (Settler Database ErrorCode) :=
  [settleInsertFriend ⟨call.uid, call.toUid, sessionId⟩,
    settleInsertFriend ⟨call.toUid, call.uid, sessionId⟩]

def settleStored (sessionId : Nat) : Settler Database ErrorCode :=
  settleCheck (fun _ => storedFailed sessionId) none

def Steady (call : FriendCall) (settler : Settler Database ErrorCode) : Prop :=
  (∀ seen next, settler.run seen = .ok next → ReplyStep call seen next) ∧
    ∀ seen next, settler.settled seen → ReplyStep call seen next → settler.settled next

theorem steady_insertFriend (call : FriendCall) (row : FriendRow) :
    Steady call (settleInsertFriend row) :=
  ⟨fun _ _ ran => replyStep_insertFriend call ran, fun _ _ settled step => step.hasFriend settled⟩

theorem steady_updateFriendApply (call : FriendCall) (fromUid toUid : Nat) :
    Steady call (settleUpdateFriendApply fromUid toUid call) :=
  ⟨fun _ _ ran => replyStep_update ran, fun _ _ settled step => step.replied settled⟩

theorem steady_check (call : FriendCall) (look : Database → Option ErrorCode)
    (fault : Option ErrorCode) : Steady call (settleCheck look fault) :=
  ⟨fun _ _ ran => replyStep_check call ran, fun _ _ _ _ => trivial⟩

theorem steady_settleReply (call : FriendCall) :
    ∀ settler ∈ settleReply call, Steady call settler :=
  forall_mem_cons.mpr ⟨steady_updateFriendApply call _ _,
    forall_mem_singleton.mpr (steady_updateFriendApply call _ _)⟩

def settleAccept (call : FriendCall) (sessionId : Nat) : List (Settler Database ErrorCode) :=
  settleFriends call sessionId ++ settleReply call ++ [settleStored sessionId]

theorem length_settleAccept (call : FriendCall) (sessionId : Nat) :
    (settleAccept call sessionId).length = 5 := rfl

theorem steady_settleAccept (call : FriendCall) (sessionId : Nat) :
    ∀ settler ∈ settleAccept call sessionId, Steady call settler := by
  refine forall_mem_append.mpr ⟨forall_mem_append.mpr ⟨?_, steady_settleReply call⟩, ?_⟩
  · exact forall_mem_cons.mpr ⟨steady_insertFriend call _,
      forall_mem_singleton.mpr (steady_insertFriend call _)⟩
  · exact forall_mem_singleton.mpr (steady_check call _ _)

theorem updateFriendApplyStatus_undated (call : FriendCall) :
    Forall₂ (fun statement (settler : Settler Database ErrorCode) =>
        Undates statement settler.toStatement)
      (updateFriendApplyStatus call) (settleReply { call with createTime := "" }) :=
  .cons (updateFriendApply_undated _ _ _) (.cons (updateFriendApply_undated _ _ _) .nil)

theorem storeReplyAddFriend_undated (call : FriendCall) (sessionId : Nat) :
    Forall₂ (fun statement (settler : Settler Database ErrorCode) =>
        Undates statement settler.toStatement)
      (storeReplyAddFriend call sessionId)
      (settleAccept { call with createTime := "" } sessionId) :=
  .cons (insertFriend_undated _) (.cons (insertFriend_undated _)
    (.cons (updateFriendApply_undated _ _ _) (.cons (updateFriendApply_undated _ _ _)
      (.cons (check_undated fun _ => rfl) .nil))))

theorem settling_refuseFriend (toUid : Int) (replyMessage : String) :
    Settling ((Command.replyAddFriend toUid false replyMessage).service actorUid) undated
      (fun _ _ => True) fun _ => settleReply (replyCall actorUid toUid false replyMessage "") := by
  refine .of_const (fun draw => ?_) ?_
  · exact updateFriendApplyStatus_undated _
  intro settler member other otherMember seen next settled ran
  have all := steady_settleReply (replyCall actorUid toUid false replyMessage "")
  exact (all settler member).2 seen next settled ((all other otherMember).1 seen next ran)

/-- The first insert of a second execution fails, so only one draw goes on. -/
theorem settling_of_accept {service : Service Database Draws ErrorCode} (call : FriendCall)
    (simulated : ∀ draw, Forall₂ (fun statement (settler : Settler Database ErrorCode) =>
        Undates statement settler.toStatement)
      (service.program draw) (settleAccept call draw.sessionId)) :
    Settling service undated Eq fun draw => settleAccept call draw.sessionId where
  refl _ := rfl
  length _ _ := by rw [length_settleAccept, length_settleAccept]
  simulated := simulated
  heads here there settled := by
    cases here
    cases there
    exact settled
  claims here settled ran := by
    cases here
    exact absurd settled (insertFriend_eq_ok ran).1
  tails _ _ same := by rw [same]
  kept draw settler member other otherMember := by
    intro seen next settled ran
    have all := steady_settleAccept call draw.sessionId
    exact (all settler member).2 seen next settled ((all other otherMember).1 seen next ran)

theorem settling_acceptFriend (toUid : Int) (replyMessage : String) :
    Settling ((Command.replyAddFriend toUid true replyMessage).service actorUid) undated
      Eq fun draw =>
        settleAccept (replyCall actorUid toUid true replyMessage "") draw.sessionId := by
  refine settling_of_accept _ fun draw => ?_
  exact storeReplyAddFriend_undated _ _

def settleNotifyJoin (uid gid : Int) (requestMessage : String) :
    List (Settler Database ErrorCode) :=
  [settleCheck
      (fun database => if database.groups.hasGroup gid then none else some .groupNotExists)
      (some .mysqlFailed),
    settleInsertGroupApply ⟨uid, 0, gid, .add, .wait, requestMessage, ""⟩]

theorem settling_notifyJoin (gid : Int) (requestMessage : String) :
    Settling ((Command.notifyJoin gid requestMessage).service actorUid) undated
      (fun _ _ => True) fun _ => settleNotifyJoin actorUid gid requestMessage := by
  refine .of_const (fun draw => .cons (check_undated fun database => ?_)
    (.cons (insertGroupApply_undated _) .nil)) ?_
  · rw [← Tables.hasGroup_undated]
    rfl
  intro settler member other otherMember seen next settled ran
  simp only [settleNotifyJoin, mem_cons, not_mem_nil, or_false] at member otherMember
  rcases member with rfl | rfl
  · trivial
  rcases otherMember with rfl | rfl
  · obtain rfl := check_eq_ok ran
    exact settled
  · exact absurd settled (insertGroupApply_eq_ok ran).1

def settleReplyJoin (uid requestorUid gid : Int) (lookupFailed : Bool) :
    List (Settler Database ErrorCode) :=
  [settleCheck (fun database =>
      if lookupFailed ∨ database.groups.hasGroup gid then none else some .groupNotExists) none,
    settleUpdateGroupApply ⟨requestorUid, uid, gid, .add, .agree, "", ""⟩,
    settleInsertGroupMember ⟨gid, requestorUid, .member, "", 0⟩]

theorem settling_replyJoin (requestorUid gid : Int) (accept : Bool) :
    Settling ((Command.replyJoin requestorUid gid accept).service actorUid) undated
      (fun _ _ => True) fun draw =>
        settleReplyJoin actorUid requestorUid gid draw.lookupFailed where
  refl _ := trivial
  length _ _ := rfl
  simulated draw := by
    refine .cons (check_undated fun database => ?_) (.cons (updateGroupApply_undated _)
      (.cons (insertGroupMember_undated _) .nil))
    rw [← Tables.hasGroup_undated]
    rfl
  heads here _ _ := by
    cases here
    trivial
  claims _ _ _ _ := trivial
  tails _ _ _ := rfl
  kept draw settler member other otherMember := by
    intro seen next settled ran
    simp only [settleReplyJoin, mem_cons, not_mem_nil, or_false] at member otherMember
    rcases otherMember with rfl | rfl | rfl
    · obtain rfl := check_eq_ok ran
      exact settled
    · obtain rfl := updateGroupApply_eq_ok ran
      rcases member with rfl | rfl | rfl
      · trivial
      · exact forall_mem_map.mpr fun row _ => GroupApply.reply_reply _ row
      · exact settled
    obtain ⟨_, rfl⟩ := insertGroupMember_eq_ok ran
    rcases member with rfl | rfl | rfl
    · trivial
    · exact settled
    · obtain ⟨row, present, same⟩ := settled
      exact ⟨row, mem_append_left _ present, same⟩

theorem settling_pullSession (request : PullRequest) :
    Settling ((Command.pullSession request).service actorUid) id (fun _ _ => True) fun _ =>
      [settleCheck (pullError { request with uid := actorUid })
        (if request.conversationId.isSome then some .mysqlFailed else none)] := by
  refine .of_const (fun _ => .cons (fun database => congrFun Except.map_id _) .nil) ?_
  intro settler member other otherMember seen next settled ran
  obtain rfl := mem_singleton.mp member
  trivial

theorem settling_of_empty {service : Service Database Draws ErrorCode}
    (empty : ∀ draw, service.program draw = []) :
    Settling service id (fun _ _ => True) fun _ => [] :=
  .of_const (fun draw => empty draw ▸ .nil) (forall_mem_nil _)

theorem Database.store_withStore {store : Store} (tables : ∃ messages members, store =
      { database.store with messages, conversationMembers := members }) :
    (database.withStore store).store = store := by
  obtain ⟨messages, members, rfl⟩ := tables
  rfl

theorem Database.withStore_withStore (database : Database) (store : Store) :
    (database.withStore store).withStore store = database.withStore store := rfl

theorem storeReceipt_eq_ok {request : AckRequest} {time : DateTime}
    (ran : (storeReceipt request time).run database = .ok next) :
    next = database.withStore (ack database.store request time .completed).store := by
  simp only [storeReceipt] at ran
  split at ran
  · exact (Except.ok.inj ran).symm
  · cases ran

def settleReceipt (request : AckRequest) (time : DateTime) : Settler Database ErrorCode where
  toStatement := storeReceipt request time
  settled database :=
    ∀ later, database.withStore (ack database.store request later .completed).store = database
  establishes {seen _} ran later := by
    obtain rfl := storeReceipt_eq_ok ran
    rw [store_withStore (ack_tables _ _ _), ack_ack, withStore_withStore]
  absorbed settled ran := (storeReceipt_eq_ok ran).trans (settled time)

theorem settling_ack {request : AckRequest} (query : request.receiptType ≠ some .transport) :
    Settling ((Command.ack request).service actorUid) id (fun _ _ => True) fun draw =>
      [settleReceipt { request with uid := actorUid } draw.time] where
  refl _ := trivial
  length _ _ := by rw [length_singleton, length_singleton]
  simulated draw := by
    have program : ((Command.ack request).service actorUid).program draw =
        [storeReceipt { request with uid := actorUid } draw.time] := if_neg query
    rw [program]
    exact .cons (fun database => congrFun Except.map_id _) .nil
  heads here there settled := by
    cases here
    cases there
    exact settled
  claims _ _ _ _ := trivial
  tails _ _ _ := by rw [tail_cons, tail_cons]
  kept draw settler member other otherMember := by
    intro seen next settled ran
    obtain rfl := mem_singleton.mp member
    obtain rfl := mem_singleton.mp otherMember
    rw [(storeReceipt_eq_ok ran).trans (settled draw.time)]
    exact settled

theorem Database.append_empty (database : Database) (uid : Int) (fileName : String) :
    database.append uid fileName "" = database := by
  have same : (fun owner name => if owner = uid ∧ name = fileName then
      database.files owner name ++ "" else database.files owner name) = database.files := by
    funext owner name
    rw [String.append_empty, ite_self]
  unfold append
  rw [same]

def settleStoreFile (uid : Int) {fileName data : String} (nothing : fileName = "" ∨ data = "") :
    Settler Database ErrorCode where
  toStatement := storeFile uid fileName data
  settled _ := True
  establishes _ := trivial
  absorbed {seen _} _ ran := by
    cases ran
    rcases nothing with rfl | rfl
    · rfl
    · rw [seen.append_empty, ite_self]

theorem settling_upload {seq : Int} (nothing : fileName = "" ∨ data = "")
    (known : isFileType fileType = true) :
    Settling ((Command.upload seq fileName fileType data).service actorUid) id (fun _ _ => True)
      fun draw =>
        [settleCheck (fun _ => if draw.hasUserMsgId then some .repeatMessage else none) none,
          settleStoreFile actorUid nothing] where
  refl _ := trivial
  length _ _ := rfl
  simulated draw := by
    refine .cons (fun database => congrFun Except.map_id _) (.cons (fun database => ?_) .nil)
    rw [if_pos known]
    exact congrFun Except.map_id _
  heads here _ _ := by
    cases here
    trivial
  claims _ _ _ _ := trivial
  tails _ _ _ := rfl
  kept draw settler member other _ := by
    intro seen next _ _
    rcases mem_cons.mp member with rfl | member
    · trivial
    · obtain rfl := mem_singleton.mp member
      trivial

end Commands

/-! ### The commands that may not -/

theorem exists_generateId_gt (ids : List Int) :
    ∃ draw, ∀ id ∈ ids, id < generateId (some draw) := by
  obtain ⟨bound, above⟩ : ∃ bound : Nat, ∀ id ∈ ids, id < bound := by
    induction ids with
    | nil => exact ⟨0, forall_mem_nil _⟩
    | cons id rest inductionHypothesis =>
      obtain ⟨bound, above⟩ := inductionHypothesis
      refine ⟨max bound (id.toNat + 1), forall_mem_cons.mpr ⟨?_, fun other member => ?_⟩⟩
      · omega
      · have below := above other member
        omega
  refine ⟨⟨bound, 0, 1, Nat.one_pos⟩, fun id member => lt_of_lt_of_le (above id member) ?_⟩
  have large : bound ≤ bound <<< 22 ||| 0 <<< 12 ||| 1 := by
    rw [Nat.zero_shiftLeft, Nat.or_zero]
    refine le_trans ?_ Nat.left_le_or
    rw [Nat.shiftLeft_eq]
    exact Nat.le_mul_of_pos_right bound (by decide)
  exact Int.ofNat_le.mpr large

theorem insertGroup_of_fresh (group : GroupManager) (database : Database)
    (unsigned : 0 ≤ group.gid ∧ 0 ≤ group.sessionKey) (fits : group.name.length ≤ maxName)
    (fresh : ∀ other ∈ database.groups.groupInfo,
      other.gid ≠ group.gid ∧ other.sessionKey ≠ group.sessionKey) :
    (insertGroup group).run database =
      .ok { database with
        groups := { database.groups with groupInfo := database.groups.groupInfo ++ [group] } } := by
  refine tryWrite_eq_ok.mpr ?_
  dsimp only
  rw [Tables.insertGroup, if_pos ⟨unsigned.1, unsigned.2, fits, fresh⟩]
  rfl

theorem insertGroupMember_of_fresh (member : GroupMember) (database : Database)
    (unsigned : 0 ≤ member.gid ∧ 0 ≤ member.uid)
    (fresh : ∀ other ∈ database.groups.groupMembers,
      ¬ (other.gid = member.gid ∧ other.uid = member.uid)) :
    (insertGroupMember member).run database =
      .ok { database with
        groups := { database.groups with
          groupMembers := database.groups.groupMembers ++ [member] } } := by
  refine tryWrite_eq_ok.mpr ?_
  dsimp only
  rw [Tables.insertGroupMember, if_pos ⟨unsigned.1, unsigned.2, fresh⟩]
  rfl

/-- A user with an id can create a group of a fitting name in any database. -/
theorem runAll_create (database : Database) {actorUid : Int} (positive : 0 < actorUid)
    (fits : groupName.length ≤ maxName) :
    ∃ draw result, runAll ((Command.create groupName).program actorUid draw) database =
      .ok result := by
  obtain ⟨drawn, above⟩ := exists_generateId_gt
    (-1 :: (database.groups.groupInfo.map GroupManager.gid ++
      (database.groups.groupInfo.map GroupManager.sessionKey ++
        database.groups.groupMembers.map GroupMember.gid)))
  obtain ⟨negative, above⟩ := forall_mem_cons.mp above
  obtain ⟨gids, above⟩ := forall_mem_append.mp above
  obtain ⟨sessionKeys, members⟩ := forall_mem_append.mp above
  rw [List.forall_mem_map] at gids sessionKeys members
  have unsigned : 0 ≤ generateId (some drawn) := Int.add_one_le_iff.mpr negative
  let draw : Draws := { (default : Draws) with gid := some drawn, sessionKey := some drawn }
  have first := insertGroup_of_fresh
    ⟨generateId (some drawn), generateId (some drawn), groupName, draw.time.text⟩ database
    ⟨unsigned, unsigned⟩ fits fun other member =>
      ⟨(gids other member).ne, (sessionKeys other member).ne⟩
  have second := insertGroupMember_of_fresh
    ⟨generateId (some drawn), actorUid, .master, draw.time.text, 0⟩
    { database with groups := { database.groups with
      groupInfo := database.groups.groupInfo ++
        [⟨generateId (some drawn), generateId (some drawn), groupName, draw.time.text⟩] } }
    ⟨unsigned, positive.le⟩ fun other member same => (members other member).ne same.1
  exact ⟨draw, _, (runAll_cons first _).trans (runAll_cons second _)⟩

theorem length_of_runAll_create {result : Database} {actorUid : Int} {draw : Draws}
    (ran : runAll ((Command.create groupName).program actorUid draw) database = .ok result) :
    result.groups.groupInfo.length = database.groups.groupInfo.length + 1 := by
  simp only [Command.program, create, runAll] at ran
  split at ran
  · cases ran
  rename_i middle first
  split at ran
  · cases ran
  rename_i last second
  cases ran
  obtain ⟨_, rfl⟩ := insertGroup_eq_ok first
  obtain ⟨_, rfl⟩ := insertGroupMember_eq_ok second
  exact length_append

theorem files_of_runAll_upload {result : Database} {actorUid seq : Int} {draw : Draws}
    (known : isFileType fileType = true) (named : fileName ≠ "")
    (ran : runAll ((Command.upload seq fileName fileType data).program actorUid draw) database =
      .ok result) : result = database.append actorUid fileName data := by
  simp only [Command.program, upload, if_pos known, runAll] at ran
  split at ran
  · cases ran
  rename_i middle checked
  obtain rfl := check_eq_ok checked
  simp only [storeFile, if_neg named] at ran
  exact (Except.ok.inj ran).symm

/-! ### What retryable promises -/

namespace Command

/-- After the packet was sent until it succeeded, the database is this one. -/
def Resent (collate : String → String) (isolation : Isolation) (command : Command)
    (actorUid : Int) (before after : Database) : Prop :=
  match command with
  | .send packet => packet.Resent collate isolation actorUid before after
  | _ => Attempts.Resent (command.service actorUid) before after

/-- The database has the effect of one execution, up to the times in the rows. -/
def Once (collate : String → String) (command : Command) (actorUid : Int)
    (before after : Database) : Prop :=
  match command with
  | .send packet => packet.StoredOnce collate actorUid before.messages after.messages
  | _ => ∃ draw result, runAll (command.program actorUid draw) before = .ok result ∧
      after.undated = result.undated

def SafeToResend (collate : String → String) (isolation : Isolation) (command : Command)
    (actorUid : Int) (before : Database) : Prop :=
  ∀ after, command.Resent collate isolation actorUid before after →
    command.Once collate actorUid before after

/-- The command creates nothing under a key of its own and appends nothing, or it fails. -/
def Repeatable (actorUid : Int) : Command → Prop
  | .create groupName => actorUid ≤ 0 ∨ maxName < groupName.length
  | .upload _ fileName fileType data =>
    actorUid ≤ 0 ∨ isFileType fileType = false ∨ fileName = "" ∨ data = ""
  | _ => True

instance (actorUid : Int) : DecidablePred (Repeatable actorUid)
  | .send _ => isTrue trivial
  | .notifyAddFriend _ _ => isTrue trivial
  | .replyAddFriend _ _ _ => isTrue trivial
  | .create _ => inferInstanceAs (Decidable (_ ∨ _))
  | .notifyJoin _ _ => isTrue trivial
  | .replyJoin _ _ _ => isTrue trivial
  | .upload _ _ _ _ => inferInstanceAs (Decidable (_ ∨ _))
  | .ack _ => isTrue trivial
  | .pullSession _ => isTrue trivial
  | .pull => isTrue trivial
  | .noHandler => isTrue trivial
  | .unknown _ => isTrue trivial

variable {actorUid : Int} {before after : Database}

/-- The rule of the library for a command that is executed by statements. -/
theorem once_of_settling {command : Command} {View : Type} {view : Database → View}
    {similar : Draws → Draws → Prop} {canonical : Draws → List (Settler View ErrorCode)}
    (settling : Settling (command.service actorUid) view similar canonical)
    (seen : ∀ {first second : Database}, view first = view second →
      first.undated = second.undated)
    (resent : Attempts.Resent (command.service actorUid) before after) :
    ∃ draw result, runAll (command.program actorUid draw) before = .ok result ∧
      after.undated = result.undated := by
  obtain ⟨draw, result, ran, same⟩ := settling.once resent
  exact ⟨draw, result, ran, seen same⟩

theorem undated_of_id {first second : Database} (same : id first = id second) :
    first.undated = second.undated := congrArg undated same

theorem refusal_isSome_of_nonpos (command : Command) (nonpos : actorUid ≤ 0) :
    (command.service actorUid).refusal.isSome := by
  have refused : (command.service actorUid).refusal = some .authenticationRequired :=
    if_pos nonpos
  rw [refused]
  rfl

theorem safe_of_repeatable (collate : String → String) (isolation : Isolation)
    {command : Command} (repeatable : command.Repeatable actorUid) (before : Database) :
    command.SafeToResend collate isolation actorUid before := by
  intro after resent
  cases command with
  | send packet => exact TextPacket.storedOnce_of_resent resent
  | notifyAddFriend toUid requestMessage =>
    exact once_of_settling (settling_notifyAddFriend toUid requestMessage) id resent
  | replyAddFriend toUid accept replyMessage =>
    cases accept with
    | false => exact once_of_settling (settling_refuseFriend toUid replyMessage) id resent
    | true => exact once_of_settling (settling_acceptFriend toUid replyMessage) id resent
  | create groupName =>
    refine absurd resent (not_resent 0 (repeatable.imp ?_ fun long draw => ?_) _ _)
    · exact refusal_isSome_of_nonpos _
    refine ⟨_, rfl, fun database => ?_⟩
    cases ran : (insertGroup ⟨generateId draw.gid, generateId draw.sessionKey, groupName,
      draw.time.text⟩).run database with
    | error error => exact ⟨error, rfl⟩
    | ok next => exact absurd (insertGroup_eq_ok ran).1 (Nat.not_le_of_lt long)
  | notifyJoin gid requestMessage =>
    exact once_of_settling (settling_notifyJoin gid requestMessage) id resent
  | replyJoin requestorUid gid accept =>
    exact once_of_settling (settling_replyJoin requestorUid gid accept) id resent
  | upload seq fileName fileType data =>
    by_cases known : isFileType fileType = true
    · rcases repeatable with nonpos | unknown | nothing
      · exact absurd resent (not_resent 0 (.inl (refusal_isSome_of_nonpos _ nonpos)) _ _)
      · cases known.symm.trans unknown
      · exact once_of_settling (settling_upload nothing known) undated_of_id resent
    refine absurd resent (not_resent 1 (.inr fun draw => ⟨_, rfl, fun _ => ?_⟩) _ _)
    rw [if_neg known]
    exact ⟨_, rfl⟩
  | ack request =>
    by_cases transport : request.receiptType = some .transport
    · exact once_of_settling (settling_of_empty fun _ => if_pos transport) undated_of_id resent
    · exact once_of_settling (settling_ack transport) undated_of_id resent
  | pullSession request =>
    exact once_of_settling (settling_pullSession request) undated_of_id resent
  | pull | noHandler => exact once_of_settling (settling_of_empty fun _ => rfl) undated_of_id resent
  | unknown serviceId =>
    exact once_of_settling (settling_of_empty fun _ => rfl) undated_of_id resent

theorem resent_create (positive : 0 < actorUid) (fits : groupName.length ≤ maxName)
    (before : Database) :
    ∃ after, Attempts.Resent ((Command.create groupName).service actorUid) before after ∧
      after.groups.groupInfo.length = before.groups.groupInfo.length + 2 := by
  obtain ⟨first, middle, ranFirst⟩ := runAll_create before positive fits
  obtain ⟨second, after, ranSecond⟩ := runAll_create middle positive fits
  refine ⟨after, resent_twice (if_neg positive.not_ge) rfl (cons_ne_nil _ _)
    (cons_ne_nil _ _) ranFirst ranSecond, ?_⟩
  rw [length_of_runAll_create ranSecond, length_of_runAll_create ranFirst]

theorem runAll_upload (seq : Int) (known : isFileType fileType = true) (named : fileName ≠ "")
    (database : Database) :
    runAll ((Command.upload seq fileName fileType data).program actorUid default) database =
      .ok (database.append actorUid fileName data) := by
  have stored : (storeFile actorUid fileName data).run database =
      .ok (database.append actorUid fileName data) := by
    simp only [storeFile, if_neg named]
  simp only [Command.program, Server.upload, if_pos known]
  exact (runAll_cons rfl _).trans (runAll_cons stored _)

theorem resent_upload {seq : Int} (positive : 0 < actorUid) (known : isFileType fileType = true)
    (named : fileName ≠ "") (before : Database) :
    Attempts.Resent ((Command.upload seq fileName fileType data).service actorUid) before
      ((before.append actorUid fileName data).append actorUid fileName data) :=
  resent_twice (if_neg positive.not_ge) rfl (cons_ne_nil _ _) (cons_ne_nil _ _)
    (runAll_upload seq known named before) (runAll_upload seq known named _)

theorem append_twice_ne (nonempty : data ≠ "") (before : Database) :
    ((before.append actorUid fileName data).append actorUid fileName data).undated ≠
      (before.append actorUid fileName data).undated := by
  intro same
  have files := congrArg (fun database : Database => database.files actorUid fileName) same
  simp only [undated, append, and_self, if_true] at files
  have lengths := congrArg String.length files
  rw [String.length_append, Nat.add_eq_left] at lengths
  exact nonempty (String.length_eq_zero_iff.mp lengths)

/-- An error may call itself retryable exactly for these commands: on any database, a client that
sends the packet again until it succeeds has the effect of one execution. -/
theorem safe_to_resend_iff (collate : String → String) (isolation : Isolation) (command : Command)
    (actorUid : Int) (before : Database) :
    command.SafeToResend collate isolation actorUid before ↔ command.Repeatable actorUid := by
  refine ⟨fun safe => ?_, fun repeatable => safe_of_repeatable collate isolation repeatable before⟩
  cases command with
  | create groupName =>
    by_contra unsafe_
    obtain ⟨positive, fits⟩ := not_or.mp unsafe_
    obtain ⟨after, resent, twice⟩ :=
      resent_create (not_le.mp positive) (not_lt.mp fits) before
    obtain ⟨draw, result, ran, same⟩ := safe after resent
    have lengths := congrArg (fun database : Database => database.groups.groupInfo.length) same
    simp only [undated, Tables.undated, length_map] at lengths
    rw [length_of_runAll_create ran] at lengths
    omega
  | upload seq fileName fileType data =>
    by_contra unsafe_
    obtain ⟨positive, others⟩ := not_or.mp unsafe_
    obtain ⟨unknown, others⟩ := not_or.mp others
    obtain ⟨named, nonempty⟩ := not_or.mp others
    have known : isFileType fileType = true := eq_true_of_ne_false unknown
    obtain ⟨draw, result, ran, same⟩ :=
      safe _ (resent_upload (not_le.mp positive) known named before)
    rw [files_of_runAll_upload known named ran] at same
    exact append_twice_ne nonempty before same
  | _ => trivial

/-- Neither the group nor the text of the file is there once: a first execution that the client
was told to be over, and the one it asked for. -/
theorem group_created_and_file_appended_twice :
    (∃ after, (Command.create "g").Resent id .repeatableRead 1 {} after ∧
      after.groups.groupInfo.length = 2 ∧ ¬ (Command.create "g").Once id 1 {} after) ∧
    ∃ after, (Command.upload 1 "f" "TEXT" "a").Resent id .repeatableRead 1 {} after ∧
      after.files 1 "f" = "aa" ∧ ¬ (Command.upload 1 "f" "TEXT" "a").Once id 1 {} after := by
  obtain ⟨after, resent, twice⟩ := resent_create (show (0 : Int) < 1 by decide)
    (show "g".length ≤ maxName by decide) {}
  refine ⟨⟨after, resent, twice, ?_⟩, _,
    resent_upload (by decide) (show isFileType "TEXT" = true by decide)
      (show "f" ≠ "" by decide) {}, by decide, ?_⟩
  · rintro ⟨draw, result, ran, same⟩
    have lengths := congrArg (fun database : Database => database.groups.groupInfo.length) same
    simp only [undated, Tables.undated, length_map] at lengths
    rw [twice, length_of_runAll_create ran] at lengths
    cases lengths
  · rintro ⟨draw, result, ran, same⟩
    rw [files_of_runAll_upload (by decide) (by decide) ran] at same
    exact append_twice_ne (by decide) _ same

end Command

end Wimi.Server
