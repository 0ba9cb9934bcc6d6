/-
This file is about the five services that change friendships, groups and applications:
when an error they report means that nothing has changed, and when the session key of
a new friendship is the same for both friends.

Each service is a list of statements that commit one by one. An error of a later
statement leaves what an earlier one wrote, so an error is only clean when nothing
before it was written, or when what was written was there already.

An accepting reply stores a session id of 64 bits in the rows of both friends and
returns it as an `int`. The other user is told what is left of it; an id whose lower
half is all ones looks like the failure of a statement.
-/

import Wimi.Lib.SingleFault
import Wimi.Server.Snowflake
import Wimi.Server.Commands

namespace Wimi.Server

open Attempts List Option GroupJoin.Tables

/-! ### What an error may leave -/

/-- The tables of friendships, groups and applications are as before. -/
structure SameRelations (before after : Database) : Prop where
  friendApplys : after.friendApplys = before.friendApplys
  friends : after.friends = before.friends
  groups : after.groups = before.groups

theorem SameRelations.refl (database : Database) : SameRelations database database :=
  ⟨rfl, rfl, rfl⟩

def Command.isRelationship : Command → Bool
  | .notifyAddFriend _ _ => true
  | .replyAddFriend _ _ _ => true
  | .create _ => true
  | .notifyJoin _ _ => true
  | .replyJoin _ _ _ => true
  | _ => false

/-- The first statement of `NotifyAddFriend` writes its row and the second fails or finds one. -/
def LeavesApplication (fromUid toUid : Nat) (requestMessage : String) (fault : Option Nat)
    (database : Database) : Prop :=
  fault ≠ some 0 ∧ requestMessage.length ≤ maxContent ∧
    ¬ HasApply database.friendApplys fromUid toUid ∧
    (fault = some 1 ∨ fromUid = toUid ∨ HasApply database.friendApplys toUid fromUid)

/-- The first statement of an accepting reply writes its row, and one of the next three fails or
is refused, or the id looks like a failure. -/
def LeavesFriendship (fromUid toUid : Nat) (replyMessage : String) (sessionId : Nat)
    (fault : Option Nat) (database : Database) : Prop :=
  fault ≠ some 0 ∧ ¬ HasFriend database.friends fromUid toUid ∧
    (fault = some 1 ∨ fault = some 2 ∨ fault = some 3 ∨ fromUid = toUid ∨
      HasFriend database.friends toUid fromUid ∨
      (maxContent < replyMessage.length ∧
        (HasApply database.friendApplys fromUid toUid ∨
          HasApply database.friendApplys toUid fromUid)) ∨
      storedFailed sessionId ≠ none)

/-- The first statement of a refusing reply changes a row and the second fails. -/
def LeavesRefusal (fromUid toUid : Nat) (replyMessage time : String) (fault : Option Nat)
    (database : Database) : Prop :=
  fault = some 1 ∧ replyMessage.length ≤ maxContent ∧
    ∃ row ∈ database.friendApplys, (row.fromUid = fromUid ∧ row.toUid = toUid) ∧
      ¬ (row.status = .refuse ∧ row.content = replyMessage ∧ row.createTime = time)

/-- The group is written and its master is not. -/
def LeavesGroup (uid gid sessionKey : Int) (groupName : String) (fault : Option Nat)
    (database : Database) : Prop :=
  fault ≠ some 0 ∧ 0 ≤ gid ∧ 0 ≤ sessionKey ∧ groupName.length ≤ GroupJoin.maxName ∧
    (∀ other ∈ database.groups.groupInfo, other.gid ≠ gid ∧ other.sessionKey ≠ sessionKey) ∧
    (fault = some 1 ∨ uid < 0 ∨ GroupJoin.IsMember database.groups uid gid)

/-- The application is changed and the member is not written. -/
def LeavesMembership (uid requestorUid gid : Int) (time : String) (lookupFailed : Bool)
    (fault : Option Nat) (database : Database) : Prop :=
  (lookupFailed ∨ database.groups.hasGroup gid) ∧ fault ≠ some 1 ∧ 0 ≤ uid ∧
    (∃ row ∈ database.groups.groupApplys, (row.requestor = requestorUid ∧ row.gid = gid) ∧
      ¬ (row.handler = uid ∧ row.status = .agree ∧ row.type = .add ∧ row.message = "" ∧
        row.updateTime = time)) ∧
    (fault = some 2 ∨ gid < 0 ∨ requestorUid < 0 ∨
      GroupJoin.IsMember database.groups requestorUid gid)

/-- The command leaves a part of what it writes behind an error, told from the packet, what it
draws, the failing statement and the tables before it. -/
def LeavesHalf (actorUid : Int) (draw : Draws) (fault : Option Nat) (database : Database) :
    Command → Prop
  | .notifyAddFriend toUid requestMessage =>
    LeavesApplication (sizeT actorUid) (sizeT toUid) requestMessage fault database
  | .replyAddFriend toUid true replyMessage =>
    LeavesFriendship (sizeT actorUid) (sizeT toUid) replyMessage draw.sessionId fault database
  | .replyAddFriend toUid false replyMessage =>
    LeavesRefusal (sizeT actorUid) (sizeT toUid) replyMessage draw.time.text fault database
  | .create groupName =>
    LeavesGroup actorUid (generateId draw.gid) (generateId draw.sessionKey) groupName fault database
  | .replyJoin requestorUid gid _ =>
    LeavesMembership actorUid requestorUid gid draw.time.text draw.lookupFailed fault database
  | _ => False

/-- An error of the command means that the tables are as before. -/
def ErrorIsClean (actorUid : Int) (draw : Draws) (fault : Option Nat) (database : Database)
    (command : Command) : Prop :=
  CleanFrom SameRelations database (runFaulty (command.program actorUid draw) fault database)

/-! ### The writes of the tables -/

theorem tryWrite_eq (write : Database → Option Database) :
    tryWrite write = writing .mysqlFailed write := by
  rw [tryWrite]
  congr 1
  funext database
  cases write database <;> rfl

theorem not_sameRelations_of_length {before after : Database}
    (longer : before.friends.length < after.friends.length) : ¬ SameRelations before after :=
  fun same => absurd (congrArg List.length same.friends) (by omega)

variable {rows : List FriendApplyRow} {call : FriendCall} {fromUid : Nat}
  {tables : GroupJoin.Tables}

theorem hasApply_concat {row : FriendApplyRow} {toUid : Nat} :
    HasApply (rows ++ [row]) fromUid toUid ↔
      HasApply rows fromUid toUid ∨ row.fromUid = fromUid ∧ row.toUid = toUid := by
  simp only [HasApply, mem_append, mem_singleton, or_and_right, exists_or, exists_eq_left]

/-! ### The services -/

section Services

variable {fault : Option Nat} {database : Database}

/-- Two writes leave a half when the first one shows and the second does not succeed. -/
theorem clean_two_iff {first second : Database → Option Database} {Shows : Prop}
    (shows : (∃ next, first database = some next ∧ ¬ SameRelations database next) ↔ Shows) :
    CleanFrom SameRelations database
        (runFaulty [tryWrite first, tryWrite second] fault database) ↔
      ¬ (fault ≠ some 0 ∧ Shows ∧
        (fault = some 1 ∨ ¬ ((first database).bind second).isSome)) := by
  rw [tryWrite_eq, tryWrite_eq, cleanFrom_two_writings (.refl database), ← shows]
  constructor
  · grind
  · grind

theorem notifyAddFriend_clean_iff (uid toUid : Int) (requestMessage : String) :
    CleanFrom SameRelations database
        (runFaulty (notifyAddFriend uid toUid requestMessage) fault database) ↔
      ¬ LeavesApplication (sizeT uid) (sizeT toUid) requestMessage fault database := by
  have shows (row : FriendApplyRow) : (∃ next, ((insertApplyRow database.friendApplys row).map
      fun rows => { database with friendApplys := rows }) = some next ∧
        ¬ SameRelations database next) ↔ row.content.length ≤ maxContent ∧
        ¬ HasApply database.friendApplys row.fromUid row.toUid := by
    simp only [map_eq_some_iff, insertApplyRow_eq_some]
    constructor
    · rintro ⟨_, ⟨_, ⟨fits, free, -⟩, -⟩, -⟩
      exact ⟨fits, free⟩
    rintro ⟨fits, free⟩
    refine ⟨_, ⟨_, ⟨fits, free, rfl⟩, rfl⟩, fun same => ?_⟩
    exact absurd (append_right_eq_self.mp same.friendApplys) (cons_ne_nil _ _)
  refine (clean_two_iff (shows _)).trans (not_congr ?_)
  rw [and_assoc]
  refine and_congr_right fun passing => and_congr_right fun fits => and_congr_right fun free =>
    or_congr_right ?_
  rw [insertApplyRow_eq_some.mpr ⟨fits, free, rfl⟩, map_some, bind_some, isSome_map,
    isSome_iff_exists]
  simp only [insertApplyRow_eq_some, hasApply_concat, fits, true_and, exists_and_left, exists_eq,
    and_true, not_not]
  exact or_comm.trans (or_congr_left ⟨And.left, fun same => ⟨same, same.symm⟩⟩)

theorem updateApplyRows_same_iff {next : List FriendApplyRow} {toUid : Nat}
    (written : updateApplyRows rows fromUid toUid call = some next) :
    next = rows ↔ ∀ row ∈ rows, row.fromUid = fromUid ∧ row.toUid = toUid →
      row.status = call.status ∧ row.content = call.content ∧ row.createTime = call.createTime := by
  rw [(updateApplyRows_eq_some.mp written).2]
  refine Lists.map_ite_eq_self_iff.trans (forall₂_congr fun row _ => imp_congr_right fun _ => ?_)
  rw [FriendApplyRow.mk.injEq]
  constructor
  · grind
  · grind

theorem updateFriendApply_shows_iff {toUid : Nat} :
    (∃ next, ((updateApplyRows database.friendApplys fromUid toUid call).map fun rows =>
      { database with friendApplys := rows }) = some next ∧ ¬ SameRelations database next) ↔
      call.content.length ≤ maxContent ∧
        ∃ row ∈ database.friendApplys, (row.fromUid = fromUid ∧ row.toUid = toUid) ∧
          ¬ (row.status = call.status ∧ row.content = call.content ∧
            row.createTime = call.createTime) := by
  constructor
  · rintro ⟨next, written, changed⟩
    obtain ⟨rows, updated, rfl⟩ := map_eq_some_iff.mp written
    have differs : ¬ rows = database.friendApplys := fun same => changed ⟨same, rfl, rfl⟩
    rw [updateApplyRows_same_iff updated] at differs
    push Not at differs
    obtain ⟨row, member, found, other⟩ := differs
    refine ⟨?_, row, member, found, fun values => other values.1 values.2.1 values.2.2⟩
    by_contra long
    exact (updateApplyRows_eq_some.mp updated).1 ⟨not_le.mp long, row, member, found⟩
  rintro ⟨fits, row, member, found, other⟩
  have updated := (updateApplyRows_eq_some.mpr
    ⟨fun refused => absurd refused.1 (not_lt.mpr fits), rfl⟩ :
      updateApplyRows database.friendApplys fromUid toUid call = some _)
  refine ⟨_, by rw [updated, map_some], fun same => ?_⟩
  exact other ((updateApplyRows_same_iff updated).mp same.friendApplys row member found)

theorem refuse_clean_iff (uid toUid : Int) (replyMessage time : String) (sessionId : Nat) :
    CleanFrom SameRelations database
        (runFaulty (replyAddFriend uid toUid false replyMessage time sessionId) fault database) ↔
      ¬ LeavesRefusal (sizeT uid) (sizeT toUid) replyMessage time fault database := by
  refine (clean_two_iff updateFriendApply_shows_iff).trans (not_congr ?_)
  constructor
  · rintro ⟨_, ⟨fits, changes⟩, failing | refused⟩
    · exact ⟨failing, fits, changes⟩
    have updates : ∀ rows fromUid targetUid, updateApplyRows rows fromUid targetUid
        (replyCall uid toUid false replyMessage time) = some _ := fun _ _ _ =>
      updateApplyRows_eq_some.mpr ⟨fun long => absurd long.1 (not_lt.mpr fits), rfl⟩
    refine absurd ?_ refused
    change (Option.bind (Option.map _ (updateApplyRows database.friendApplys (sizeT uid)
      (sizeT toUid) (replyCall uid toUid false replyMessage time))) _).isSome
    rw [updates, map_some, bind_some, isSome_map]
    exact isSome_iff_exists.mpr ⟨_, updates _ _ _⟩
  · rintro ⟨failing, fits, changes⟩
    exact ⟨by rw [failing]; decide, ⟨fits, changes⟩, .inl failing⟩

theorem insertGroupMember_refused_iff {gid uid : Int} {member : GroupJoin.GroupMember}
    (sameGid : member.gid = gid) (sameUid : member.uid = uid) :
    ¬ (tables.insertGroupMember member).isSome ↔ gid < 0 ∨ uid < 0 ∨
      GroupJoin.IsMember tables uid gid := by
  simp only [isSome_iff_exists, insertGroupMember_eq_some, exists_and_left,
    exists_eq, and_true, sameGid, sameUid, not_and_or, not_le, not_not]

theorem create_clean_iff (uid : Int) (groupName time : String) (gid sessionKey : Option IdDraw) :
    CleanFrom SameRelations database
        (runFaulty (create uid groupName time gid sessionKey) fault database) ↔
      ¬ LeavesGroup uid (generateId gid) (generateId sessionKey) groupName fault database := by
  have shows (group : GroupJoin.GroupManager) : (∃ next, ((database.groups.insertGroup group).map
      fun groups => { database with groups }) = some next ∧
        ¬ SameRelations database next) ↔ (0 ≤ group.gid ∧ 0 ≤ group.sessionKey ∧
          group.name.length ≤ GroupJoin.maxName ∧ ∀ other ∈ database.groups.groupInfo,
            other.gid ≠ group.gid ∧ other.sessionKey ≠ group.sessionKey) := by
    simp only [map_eq_some_iff, insertGroup_eq_some]
    refine ⟨fun ⟨_, ⟨_, ⟨fits, _⟩, _⟩, _⟩ => fits, fun fits => ?_⟩
    refine ⟨_, ⟨_, ⟨fits, rfl⟩, rfl⟩, fun same => ?_⟩
    exact absurd (append_right_eq_self.mp
      (congrArg groupInfo same.groups)) (cons_ne_nil _ _)
  refine (clean_two_iff (shows ⟨generateId gid, generateId sessionKey, groupName, time⟩)).trans
    (not_congr ?_)
  rw [and_assoc, and_assoc, and_assoc]
  refine and_congr_right fun passing => and_congr_right fun unsigned => and_congr_right fun key =>
    and_congr_right fun name => and_congr_right fun free => or_congr_right ?_
  have inserted : database.groups.insertGroup
      ⟨generateId gid, generateId sessionKey, groupName, time⟩ = some _ :=
    insertGroup_eq_some.mpr ⟨⟨unsigned, key, name, free⟩, rfl⟩
  simp only [inserted, map_some, bind_some, isSome_map]
  rw [insertGroupMember_refused_iff rfl rfl]
  exact or_iff_right (not_lt.mpr unsigned)

/-- A look either ends the execution or leaves it to the statements behind. -/
theorem runFaulty_check (fault : Option Nat) (database : Database)
    (look : Database → Option ErrorCode) (error : Option ErrorCode)
    (rest : List CommandStatement) :
    (∃ reported, runFaulty (check look error :: rest) fault database = (some reported, database)) ∨
      runFaulty (check look error :: rest) fault database =
        runFaulty rest (nextFault fault) database := by
  rw [runFaulty]
  split
  next reported _ => exact .inl ⟨reported, rfl⟩
  next =>
    cases found : look database with
    | none =>
      have ran : (check look error).run database = .ok database := by simp only [check, found]
      rw [ran]
      exact .inr rfl
    | some reported =>
      have ran : (check look error).run database = .error reported := by simp only [check, found]
      rw [ran]
      exact .inl ⟨reported, rfl⟩

theorem notifyJoin_clean (uid gid : Int) (requestMessage time : String) :
    CleanFrom SameRelations database
      (runFaulty (notifyJoin uid gid requestMessage time) fault database) := by
  rcases runFaulty_check fault database _ _ _ with ⟨reported, ended⟩ | passed
  · rw [notifyJoin, ended]
    exact fun _ => .refl database
  · rw [notifyJoin, passed, insertGroupApply, writeGroups, tryWrite_eq]
    exact cleanFrom_single_writing.mpr (.inl (.refl database))

theorem updateGroupApply_shows_iff {apply : GroupJoin.GroupApply} (short : apply.message = "") :
    (∃ next, ((database.groups.updateGroupApply apply).map fun groups =>
      { database with groups }) = some next ∧ ¬ SameRelations database next) ↔
      0 ≤ apply.handler ∧
        ∃ row ∈ database.groups.groupApplys,
          (row.requestor = apply.requestor ∧ row.gid = apply.gid) ∧
          ¬ (row.handler = apply.handler ∧ row.status = apply.status ∧ row.type = apply.type ∧
            row.message = apply.message ∧ row.updateTime = apply.updateTime) := by
  have fits : apply.message.length ≤ GroupJoin.maxMessage := short ▸ Nat.zero_le _
  have same_iff : database.groups.groupApplys.map apply.reply = database.groups.groupApplys ↔
      ∀ row ∈ database.groups.groupApplys,
        row.requestor = apply.requestor ∧ row.gid = apply.gid →
        row.handler = apply.handler ∧ row.status = apply.status ∧ row.type = apply.type ∧
          row.message = apply.message ∧ row.updateTime = apply.updateTime := by
    refine Lists.map_ite_eq_self_iff.trans (forall₂_congr fun row _ => imp_congr_right fun _ => ?_)
    rw [GroupJoin.GroupApply.mk.injEq]
    constructor
    · grind
    · grind
  simp only [map_eq_some_iff, updateGroupApply_eq_some, fits, and_true]
  constructor
  · rintro ⟨_, ⟨_, ⟨written, rfl⟩, rfl⟩, changed⟩
    have differs := mt same_iff.mpr fun same => changed ⟨rfl, rfl, by rw [same]⟩
    push Not at differs
    obtain ⟨row, member, found, other⟩ := differs
    refine ⟨written.resolve_right fun absent => absent ⟨row, member, found⟩, row, member, found, ?_⟩
    grind
  rintro ⟨unsigned, row, member, found, other⟩
  refine ⟨_, ⟨_, ⟨.inl unsigned, rfl⟩, rfl⟩, fun same => ?_⟩
  have unchanged := congrArg groupApplys same.groups
  exact other (same_iff.mp unchanged row member found)

theorem replyJoin_clean_iff (uid requestorUid gid : Int) (time : String) (lookupFailed : Bool) :
    CleanFrom SameRelations database
        (runFaulty (replyJoin uid requestorUid gid time lookupFailed) fault database) ↔
      ¬ LeavesMembership uid requestorUid gid time lookupFailed fault database := by
  have first : runFaulty (replyJoin uid requestorUid gid time lookupFailed) fault database =
      if lookupFailed ∨ database.groups.hasGroup gid then
        runFaulty [updateGroupApply ⟨requestorUid, uid, gid, .add, .agree, "", time⟩,
          insertGroupMember ⟨gid, requestorUid, .member, time, 0⟩] (nextFault fault) database
      else (some .groupNotExists, database) := by
    rw [replyJoin, runFaulty]
    simp only [check, ite_self]
    by_cases known : lookupFailed ∨ database.groups.hasGroup gid
    · simp only [if_pos known]
    · simp only [if_neg known]
  rw [first, LeavesMembership]
  split
  next known =>
    refine (clean_two_iff (updateGroupApply_shows_iff rfl)).trans (not_congr ?_)
    rw [ne_eq, nextFault_eq_some_iff, nextFault_eq_some_iff, and_iff_right known, and_assoc]
    refine and_congr_right fun passing => and_congr_right fun unsigned =>
      and_congr_right fun changes => or_congr_right ?_
    have updated : database.groups.updateGroupApply
        ⟨requestorUid, uid, gid, .add, .agree, "", time⟩ = some _ :=
      updateGroupApply_eq_some.mpr ⟨.inl ⟨unsigned, Nat.zero_le _⟩, rfl⟩
    simp only [updated, map_some, bind_some, isSome_map]
    exact insertGroupMember_refused_iff rfl rfl
  next unknown => exact iff_of_true (fun _ => .refl database) fun half => unknown half.1

/-! ### The accepting reply -/

theorem hasApply_map_reply {toUid otherFrom otherTo : Nat} :
    HasApply (rows.map (call.reply fromUid toUid)) otherFrom otherTo ↔
      HasApply rows otherFrom otherTo := by
  have users (row : FriendApplyRow) : (call.reply fromUid toUid row).fromUid = row.fromUid ∧
      (call.reply fromUid toUid row).toUid = row.toUid := by
    unfold FriendCall.reply
    split <;> exact ⟨rfl, rfl⟩
  simp [HasApply, users]

theorem runFaulty_check_const (result : Option ErrorCode) :
    runFaulty [check (fun _ => result) none] fault database = (result, database) := by
  cases result <;> simp only [runFaulty, check, ite_self]

theorem runFaulty_checkStored (sessionId : Nat) :
    runFaulty [checkStored sessionId] fault database = (storedFailed sessionId, database) :=
  runFaulty_check_const (storedFailed sessionId)

/-- The end of an accepting reply reports no error when the updates succeed, which they do when
the message fits or they touch no row, and the id does not look like a failure. -/
theorem updateFriendApplyStatus_error_iff {sessionId : Nat} :
    (runFaulty (updateFriendApplyStatus call ++ [checkStored sessionId]) fault database).1 = none ↔
      ¬ (fault = some 0 ∨ fault = some 1 ∨
        (maxContent < call.content.length ∧
          (HasApply database.friendApplys call.uid call.toUid ∨
            HasApply database.friendApplys call.toUid call.uid)) ∨
        storedFailed sessionId ≠ none) := by
  change (runFaulty [tryWrite _, tryWrite _, checkStored sessionId] fault database).1 = none ↔ _
  rw [tryWrite_eq, tryWrite_eq]
  simp only [runFaulty_writing_eq_none, runFaulty_checkStored, ne_eq, nextFault_eq_some_iff,
    map_eq_some_iff, updateApplyRows_eq_some]
  constructor
  · rintro ⟨first, _, ⟨_, ⟨fits, rfl⟩, rfl⟩, second, _, ⟨_, ⟨mirrorFits, rfl⟩, rfl⟩, stored⟩
    rw [hasApply_map_reply] at mirrorFits
    rintro (failing | failing | ⟨long, has | has⟩ | wrong)
    · exact first failing
    · exact second failing
    · exact fits ⟨long, has⟩
    · exact mirrorFits ⟨long, has⟩
    · exact wrong stored
  intro fine
  simp only [not_or, not_and, not_not] at fine
  obtain ⟨first, second, fits, stored⟩ := fine
  refine ⟨first, _, ⟨_, ⟨fun long => (fits long.1).1 long.2, rfl⟩, rfl⟩, second, _,
    ⟨_, ⟨fun long => (fits long.1).2 (hasApply_map_reply.mp long.2), rfl⟩, rfl⟩, stored⟩

/-- What is reported once the first row of a friendship is written. -/
theorem insertFriend_error_iff (call : FriendCall) {sessionId : Nat} :
    (runFaulty (insertFriend ⟨call.toUid, call.uid, sessionId⟩ ::
        (updateFriendApplyStatus call ++ [checkStored sessionId])) (nextFault fault)
        { database with friends := database.friends ++ [⟨call.uid, call.toUid, sessionId⟩] }).1 =
          none ↔
      ¬ (fault = some 1 ∨ fault = some 2 ∨ fault = some 3 ∨ call.uid = call.toUid ∨
        HasFriend database.friends call.toUid call.uid ∨
        (maxContent < call.content.length ∧
          (HasApply database.friendApplys call.uid call.toUid ∨
            HasApply database.friendApplys call.toUid call.uid)) ∨
        storedFailed sessionId ≠ none) := by
  have mirror : HasFriend (database.friends ++ [⟨call.uid, call.toUid, sessionId⟩]) call.toUid
      call.uid ↔ call.uid = call.toUid ∨ HasFriend database.friends call.toUid call.uid := by
    rw [hasFriend_concat, or_comm]
    exact or_congr_left ⟨And.left, fun same => ⟨same, same.symm⟩⟩
  rw [insertFriend, tryWrite_eq, runFaulty_writing_eq_none]
  simp only [map_eq_some_iff, insertFriendRow_eq_some, mirror, ne_eq,
    nextFault_eq_some_iff]
  constructor
  · rintro ⟨second, _, ⟨_, ⟨single, rfl⟩, rfl⟩, done⟩
    rw [updateFriendApplyStatus_error_iff, nextFault_eq_some_iff, nextFault_eq_some_iff,
      nextFault_eq_some_iff, nextFault_eq_some_iff] at done
    rintro (failing | failing | failing | same | taken | long | stored)
    · exact second failing
    · exact done (.inl failing)
    · exact done (.inr (.inl failing))
    · exact single (.inl same)
    · exact single (.inr taken)
    · exact done (.inr (.inr (.inl long)))
    · exact done (.inr (.inr (.inr stored)))
  intro fine
  simp only [not_or] at fine
  obtain ⟨second, third, fourth, different, unknown, fits, stored⟩ := fine
  refine ⟨second, _, ⟨_, ⟨not_or.mpr ⟨different, unknown⟩, rfl⟩, rfl⟩, ?_⟩
  rw [updateFriendApplyStatus_error_iff, nextFault_eq_some_iff, nextFault_eq_some_iff,
    nextFault_eq_some_iff, nextFault_eq_some_iff]
  rintro (failing | failing | long | wrong)
  · exact third failing
  · exact fourth failing
  · exact fits long
  · exact stored wrong

theorem length_friends_le {sessionId : Nat} (row : FriendRow) :
    database.friends.length ≤ (runFaulty (insertFriend row ::
      (updateFriendApplyStatus call ++ [checkStored sessionId])) fault
        database).2.friends.length := by
  refine le_runFaulty (fun database : Database => database.friends.length) ?_ fault database
  intro statement member
  simp only [updateFriendApplyStatus, cons_append, nil_append, mem_cons,
    not_mem_nil, or_false] at member
  rcases member with rfl | rfl | rfl | rfl
  · intro database next ran
    obtain ⟨rows, inserted, rfl⟩ := map_eq_some_iff.mp (tryWrite_eq_ok.mp ran)
    rw [(insertFriendRow_eq_some.mp inserted).2]
    exact (sublist_append_left _ _).length_le
  · intro database next ran
    obtain ⟨rows, _, rfl⟩ := map_eq_some_iff.mp (tryWrite_eq_ok.mp ran)
    exact le_refl _
  · intro database next ran
    obtain ⟨rows, _, rfl⟩ := map_eq_some_iff.mp (tryWrite_eq_ok.mp ran)
    exact le_refl _
  · intro database next ran
    rw [check_eq_ok ran]

theorem accept_clean_iff (uid toUid : Int) (replyMessage time : String) (sessionId : Nat) :
    CleanFrom SameRelations database
        (runFaulty (replyAddFriend uid toUid true replyMessage time sessionId) fault database) ↔
      ¬ LeavesFriendship (sizeT uid) (sizeT toUid) replyMessage sessionId fault database := by
  have statements : replyAddFriend uid toUid true replyMessage time sessionId =
      insertFriend ⟨sizeT uid, sizeT toUid, sessionId⟩ ::
        insertFriend ⟨sizeT toUid, sizeT uid, sessionId⟩ ::
          (updateFriendApplyStatus (replyCall uid toUid true replyMessage time) ++
            [checkStored sessionId]) := rfl
  rw [statements, insertFriend, tryWrite_eq, cleanFrom_writing_iff (.refl database),
    LeavesFriendship, not_and, not_and]
  refine imp_congr_right fun _ => ?_
  simp only [map_eq_some_iff, insertFriendRow_eq_some]
  -- behind the first row an error is never clean, so the rest has to report none
  have shows : ∀ fault, ¬ SameRelations database (runFaulty
      (insertFriend ⟨sizeT toUid, sizeT uid, sessionId⟩ ::
        (updateFriendApplyStatus (replyCall uid toUid true replyMessage time) ++
          [checkStored sessionId])) fault
      { database with
        friends := database.friends ++ [⟨sizeT uid, sizeT toUid, sessionId⟩] }).2 := by
    intro fault
    refine not_sameRelations_of_length (lt_of_lt_of_le ?_ (length_friends_le _))
    rw [length_append]
    exact Nat.lt_succ_self _
  constructor
  · intro clean free
    have reported := clean _ ⟨_, ⟨free, rfl⟩, rfl⟩
    rw [cleanFrom_iff_of_ne (shows _)] at reported
    exact (insertFriend_error_iff (replyCall uid toUid true replyMessage time)).mp reported
  rintro whole _ ⟨_, ⟨free, rfl⟩, rfl⟩
  rw [cleanFrom_iff_of_ne (shows _)]
  exact (insertFriend_error_iff (replyCall uid toUid true replyMessage time)).mpr (whole free)

end Services

/-- An error of one of the services means that nothing has changed, unless the packet, the tables
and the failing statement are such that a part is left. -/
theorem relationship_error_clean_iff (actorUid : Int) (draw : Draws) (fault : Option Nat)
    (database : Database) (command : Command) (relationship : command.isRelationship) :
    ErrorIsClean actorUid draw fault database command ↔
      ¬ LeavesHalf actorUid draw fault database command := by
  cases command with
  | notifyAddFriend toUid requestMessage =>
    exact notifyAddFriend_clean_iff actorUid toUid requestMessage
  | replyAddFriend toUid accept replyMessage =>
    cases accept with
    | true => exact accept_clean_iff actorUid toUid replyMessage draw.time.text draw.sessionId
    | false => exact refuse_clean_iff actorUid toUid replyMessage draw.time.text draw.sessionId
  | create groupName => exact create_clean_iff actorUid groupName draw.time.text draw.gid _
  | notifyJoin gid requestMessage =>
    exact iff_of_true (notifyJoin_clean actorUid gid requestMessage draw.time.text) id
  | replyJoin requestorUid gid accept =>
    exact replyJoin_clean_iff actorUid requestorUid gid draw.time.text draw.lookupFailed
  | _ => cases relationship

def firstDraw : Draws where
  time := (default : Draws).time
  gid := some ⟨1, 0, 1, Nat.zero_lt_one⟩
  sessionKey := some ⟨1, 0, 2, Nat.zero_lt_two⟩

/-- The `INSERT` of a first application fails. -/
theorem relationship_error_clean_at_once :
    (runFaulty ((Command.notifyAddFriend 2 "hello").program 1 firstDraw) (some 0) {}).1 =
        some .mysqlFailed ∧
      ErrorIsClean 1 firstDraw (some 0) {} (.notifyAddFriend 2 "hello") :=
  ⟨rfl, (relationship_error_clean_iff 1 firstDraw (some 0) {} (.notifyAddFriend 2 "hello")
    rfl).mpr fun half => half.1 rfl⟩

/-- The second `INSERT` fails: of an application one of the two rows is left, of a new group the
group without a master. -/
theorem half_written_behind_error :
    ((runFaulty ((Command.notifyAddFriend 2 "hello").program 1 firstDraw) (some 1) {}).1 =
        some .mysqlFailed ∧
      (runFaulty ((Command.notifyAddFriend 2 "hello").program 1 firstDraw) (some 1)
        {}).2.friendApplys.map (fun row => (row.fromUid, row.toUid)) = [(1, 2)]) ∧
    (runFaulty ((Command.create "g").program 1 firstDraw) (some 1) {}).1 = some .mysqlFailed ∧
      (runFaulty ((Command.create "g").program 1 firstDraw) (some 1)
        {}).2.groups.groupInfo.map (fun group => group.name) = ["g"] ∧
      (runFaulty ((Command.create "g").program 1 firstDraw) (some 1) {}).2.groups.groupMembers =
        [] := by
  decide +kernel

/-! ### The session key of a friendship -/

structure FriendReplyPush where
  fromUid : Int
  toUid : Int
  sessionKey : Int
  accept : Bool
  replyMessage : String
deriving DecidableEq, Repr

open FriendReplyPush

def FriendReplyPush.ofResult (push : FriendReplyPush) : Option ErrorCode → Option FriendReplyPush
  | some _ => none
  | none => some push

def replyAddFriendPush (uid toUid : Int) (accept : Bool) (replyMessage time : String)
    (sessionId : Nat) (fault : Option Nat) (database : Database) :
    (Option ErrorCode × Database) × Option FriendReplyPush :=
  let result :=
    runFaulty (replyAddFriend uid toUid accept replyMessage time sessionId) fault database
  let sessionKey := if accept then storedReply sessionId else 0
  (result, ofResult ⟨uid, toUid, sessionKey, accept, replyMessage⟩ result.1)

def replyStatements (uid toUid : Int) (replyMessage time : String) (sessionId : Nat) :
    List CommandStatement :=
  [insertFriend ⟨sizeT uid, sizeT toUid, sessionId⟩,
      insertFriend ⟨sizeT toUid, sizeT uid, sessionId⟩] ++
    updateFriendApplyStatus (replyCall uid toUid true replyMessage time)

/-- The reply is reported as a success, both friends have a row, and what the other user is sent
is the id in both. -/
structure KeyAgrees (uid toUid : Int)
    (outcome : (Option ErrorCode × Database) × Option FriendReplyPush) : Prop where
  succeeds : outcome.1.1 = none
  stored : HasFriend outcome.1.2.friends (sizeT uid) (sizeT toUid) ∧
    HasFriend outcome.1.2.friends (sizeT toUid) (sizeT uid)
  agrees : ∃ push, outcome.2 = some push ∧ ∀ row ∈ outcome.1.2.friends,
    (row.uidA = sizeT uid ∧ row.uidB = sizeT toUid ∨
      row.uidA = sizeT toUid ∧ row.uidB = sizeT uid) → push.sessionKey = row.sessionId

theorem bmod_eq_self_iff {half : Nat} (positive : 0 < half) (value : Nat) :
    Int.bmod value (half * 2) = value ↔ value < half := by
  constructor
  · intro same
    have small : Int.bmod value (half * 2) < _ := Int.bmod_lt (Nat.mul_pos positive Nat.two_pos)
    omega
  · intro small
    exact Int.bmod_eq_of_le (by omega) (by omega)

theorem storedReply_eq_self_iff (sessionId : Nat) :
    storedReply sessionId = sessionId ↔ sessionId < 2 ^ 31 := by
  unfold storedReply
  exact bmod_eq_self_iff (Nat.two_pow_pos 31) sessionId

theorem ite_eq_none_iff_ne {Error : Type} {result : Int} {error : Error} :
    (if result = -1 then some error else none) = none ↔ result ≠ -1 := by
  split
  next failed => exact iff_of_false (fun wrong => by cases wrong) fun fine => fine failed
  next fine => exact iff_of_true rfl fine

theorem storedFailed_eq_none_iff (sessionId : Nat) :
    storedFailed sessionId = none ↔ storedReply sessionId ≠ -1 := by
  unfold storedFailed
  exact ite_eq_none_iff_ne

section Reply

variable {uid toUid : Int} {replyMessage time : String} {sessionId : Nat} {fault : Option Nat}
  {database next : Database}

section

variable
  (stored : runFaulty (replyStatements uid toUid replyMessage time sessionId) fault database =
  (none, next))
include stored

theorem replyStatements_friends :
    next.friends = database.friends ++ [⟨sizeT uid, sizeT toUid, sessionId⟩,
        ⟨sizeT toUid, sizeT uid, sessionId⟩] ∧
      ¬ HasFriend database.friends (sizeT uid) (sizeT toUid) ∧
      ¬ HasFriend database.friends (sizeT toUid) (sizeT uid) := by
  have statements : replyStatements uid toUid replyMessage time sessionId =
      [tryWrite _, tryWrite _, tryWrite _, tryWrite _] := rfl
  rw [statements] at stored
  simp only [tryWrite_eq, runFaulty_writing_eq_ok, map_eq_some_iff] at stored
  obtain ⟨-, _, ⟨_, inserted, rfl⟩, -, _, ⟨_, mirrored, rfl⟩, -, _, ⟨_, -, rfl⟩, -, _, ⟨_, -, rfl⟩,
    ended⟩ := stored
  obtain ⟨free, rfl⟩ := insertFriendRow_eq_some.mp inserted
  obtain ⟨mirrorFree, rfl⟩ := insertFriendRow_eq_some.mp mirrored
  cases ended
  exact ⟨append_assoc _ _ _, free, fun known => mirrorFree (hasFriend_concat.mpr (.inl known))⟩

theorem replyAddFriendPush_of_stored :
    replyAddFriendPush uid toUid true replyMessage time sessionId fault database =
      ((storedFailed sessionId, next),
        ofResult ⟨uid, toUid, storedReply sessionId, true, replyMessage⟩
          (storedFailed sessionId)) := by
  obtain ⟨later, followed⟩ := runFaulty_append_of_none [checkStored sessionId] stored
  have whole : runFaulty (replyAddFriend uid toUid true replyMessage time sessionId) fault
      database = (storedFailed sessionId, next) :=
    followed.trans (runFaulty_checkStored sessionId)
  rw [replyAddFriendPush, whole, if_pos rfl]

/-- Once the statements have succeeded, the key agrees exactly when the id is kept by the cut. -/
theorem keyAgrees_iff_of_stored : KeyAgrees uid toUid
        (replyAddFriendPush uid toUid true replyMessage time sessionId fault database) ↔
      sessionId < 2 ^ 31 := by
  obtain ⟨friends, free, mirrorFree⟩ := replyStatements_friends stored
  rw [replyAddFriendPush_of_stored stored, ← storedReply_eq_self_iff]
  constructor
  · rintro ⟨succeeds, -, push, pushed, agrees⟩
    change storedFailed sessionId = none at succeeds
    rw [succeeds, ofResult, some_inj] at pushed
    have same := agrees ⟨sizeT uid, sizeT toUid, sessionId⟩
      (by rw [friends]; exact mem_append_right _ mem_cons_self) (.inl ⟨rfl, rfl⟩)
    rw [← pushed] at same
    dsimp only at same
    exact same
  intro kept
  have succeeds : storedFailed sessionId = none := by
    rw [storedFailed_eq_none_iff]
    omega
  refine ⟨succeeds, ⟨?_, ?_⟩, ⟨uid, toUid, storedReply sessionId, true, replyMessage⟩, ?_, ?_⟩
  · exact ⟨⟨sizeT uid, sizeT toUid, sessionId⟩, by simp [friends], rfl, rfl⟩
  · exact ⟨⟨sizeT toUid, sizeT uid, sessionId⟩, by simp [friends], rfl, rfl⟩
  · rw [succeeds, ofResult]
  intro row member pair
  rw [friends, mem_append, mem_cons, mem_singleton] at member
  rcases member with old | rfl | rfl
  · rcases pair with own | mirrored
    · exact absurd ⟨row, old, own⟩ free
    · exact absurd ⟨row, old, mirrored⟩ mirrorFree
  · dsimp only
    exact kept
  · dsimp only
    exact kept

end

end Reply

/-- For every accepting reply whose statements succeed: the key that is pushed is the one in both
rows, and the reply is reported as a success, exactly when the id was drawn in the first 512
milliseconds behind the epoch. -/
theorem session_key_agrees_iff (draw : Option IdDraw) (fits : ∀ parts ∈ draw, parts.Fits)
    (uid toUid : Int) (replyMessage time : String) (fault : Option Nat) (database next : Database)
    (stored : runFaulty (replyStatements uid toUid replyMessage time (sizeT (generateId draw)))
      fault database = (none, next)) :
    KeyAgrees uid toUid (replyAddFriendPush uid toUid true replyMessage time
        (sizeT (generateId draw)) fault database) ↔
      ∃ parts, draw = some parts ∧ parts.timestamp < 2 ^ 9 := by
  rw [keyAgrees_iff_of_stored stored]
  cases draw with
  | none =>
    refine iff_of_false (by decide +kernel) ?_
    rintro ⟨_, wrong, _⟩
    cases wrong
  | some parts =>
    have partsFit := fits parts rfl
    have bounded := partsFit.generateId_lt
    have machine := partsFit.machineId
    have counter := partsFit.seq
    rw [partsFit.generateId_eq] at bounded ⊢
    rw [sizeT]
    constructor
    · intro small
      exact ⟨parts, rfl, by omega⟩
    · rintro ⟨_, ⟨⟩, early⟩
      omega

def acceptedWith (draw : IdDraw) : (Option ErrorCode × Database) × Option FriendReplyPush :=
  replyAddFriendPush 1 2 true "hello" "10:00" (sizeT (generateId (some draw))) none {}

theorem session_key_agrees_early :
    KeyAgrees 1 2 (acceptedWith ⟨511, 1, 1, by decide⟩) := by
  have fits : ∀ parts ∈ some (⟨511, 1, 1, by decide⟩ : IdDraw), parts.Fits := by
    rintro _ ⟨⟩
    exact ⟨by decide, by decide, by decide⟩
  have stored : runFaulty (replyStatements 1 2 "hello" "10:00"
      (sizeT (generateId (some ⟨511, 1, 1, by decide⟩)))) none {} = (none, _) := rfl
  exact (session_key_agrees_iff _ fits 1 2 "hello" "10:00" none {} _ stored).mpr
    ⟨_, rfl, by decide⟩

/-- An id of the year 2026 is pushed as another number, and an id whose lower half is all ones is
reported as a failure although both rows are stored. -/
theorem session_key_cut :
    ((acceptedWith ⟨94694400000, 1, 1, by decide⟩).1.1 = none ∧
      (acceptedWith ⟨94694400000, 1, 1, by decide⟩).1.2.friends =
        [⟨1, 2, 397177100697604097⟩, ⟨2, 1, 397177100697604097⟩] ∧
      (acceptedWith ⟨94694400000, 1, 1, by decide⟩).2.map (fun push => push.sessionKey) =
        some 4097) ∧
    (acceptedWith ⟨1023, 1023, 4095, by decide⟩).1.1 = some .mysqlFailed ∧
      (acceptedWith ⟨1023, 1023, 4095, by decide⟩).1.2.friends =
        [⟨1, 2, 4294967295⟩, ⟨2, 1, 4294967295⟩] := by
  decide +kernel

end Wimi.Server
