/-
This file models how a user comes into a group: `Create`, `NotifyJoin` and
`ReplyJoin` of the group service and the statements they send to the tables
`groupInfo`, `groupMembers` and `groupApplys`.

Every statement commits on its own and may fail, which ends the call and leaves what
the call has done. A reply writes the status `Agree` and inserts the member before it
looks at `accept`, and it reads neither the role of its sender nor the application.
The system therefore remembers who created each group and, with every reply that
arrived, the tables as they were at that moment; a membership is right when it goes
back to one of the two. The property is proved of the runs in which the replies
themselves keep to what the service does not check.
-/

import Wimi.Server.Friends
import Wimi.Server.GroupHistory

namespace Wimi.Server.GroupJoin

open Function List Option Transition

/-! ### Tables -/

inductive Role where
  | member
  | manager
  | master
deriving DecidableEq, Repr

inductive ApplyType where
  | add
  | delete
  | promote
  | demote
  | invite
  | kick
deriving DecidableEq, Repr

structure GroupManager where
  gid : Int
  sessionKey : Int
  name : String
  createTime : String
deriving DecidableEq, Repr

structure GroupMember where
  gid : Int
  uid : Int
  role : Role
  joinTime : String
  speech : Nat
deriving DecidableEq, Repr

structure GroupApply where
  requestor : Int
  handler : Int
  gid : Int
  type : ApplyType
  status : ApplyStatus
  message : String
  updateTime : String
deriving DecidableEq, Repr

/-- A row after the `UPDATE` with the values of an application. -/
def GroupApply.reply (apply row : GroupApply) : GroupApply :=
  if row.requestor = apply.requestor ∧ row.gid = apply.gid then
    { row with
      handler := apply.handler, status := apply.status, type := apply.type,
      message := apply.message, updateTime := apply.updateTime }
  else row

structure Tables where
  groupInfo : List GroupManager := []
  groupMembers : List GroupMember := []
  groupApplys : List GroupApply := []
deriving DecidableEq, Repr

def maxName : Nat := 128

def maxMessage : Nat := 512

namespace Tables

variable (tables : Tables)

def insertGroup (group : GroupManager) : Option Tables :=
  if 0 ≤ group.gid ∧ 0 ≤ group.sessionKey ∧ group.name.length ≤ maxName ∧
      ∀ other ∈ tables.groupInfo, other.gid ≠ group.gid ∧ other.sessionKey ≠ group.sessionKey then
    some { tables with groupInfo := tables.groupInfo ++ [group] }
  else none

def insertGroupMember (member : GroupMember) : Option Tables :=
  if 0 ≤ member.gid ∧ 0 ≤ member.uid ∧
      ∀ other ∈ tables.groupMembers, ¬ (other.gid = member.gid ∧ other.uid = member.uid) then
    some { tables with groupMembers := tables.groupMembers ++ [member] }
  else none

def hasGroup (gid : Int) : Bool := tables.groupInfo.any fun group => group.gid = gid

def insertGroupApply (apply : GroupApply) : Option Tables :=
  if 0 ≤ apply.requestor ∧ 0 ≤ apply.handler ∧ 0 ≤ apply.gid ∧
      apply.message.length ≤ maxMessage ∧
      ∀ other ∈ tables.groupApplys,
        ¬ (other.requestor = apply.requestor ∧ other.gid = apply.gid) then
    some { tables with groupApplys := tables.groupApplys ++ [apply] }
  else none

/-- `UPDATE groupApplys SET handler, status, type, message, updateTime`; a row is only refused
when there is one. -/
def updateGroupApply (apply : GroupApply) : Option Tables :=
  if (0 ≤ apply.handler ∧ apply.message.length ≤ maxMessage) ∨
      ∀ row ∈ tables.groupApplys, ¬ (row.requestor = apply.requestor ∧ row.gid = apply.gid) then
    some { tables with groupApplys := tables.groupApplys.map apply.reply }
  else none

end Tables

/-! ### Calls -/

inductive Statement where
  | insertGroup
  | insertMaster
  | hasGroupToJoin
  | insertGroupApply
  | hasGroupToReply
  | updateGroupApply
  | insertGroupMember
deriving DecidableEq, Repr

inductive Phase where
  | pending (statement : Statement)
  | finished (error : ErrorCode) (message : String)
deriving DecidableEq, Repr

structure Call where
  uid : Int
  gid : Int
  sessionKey : Int := 0
  text : String := ""
  requestorUid : Int := 0
  accept : Bool := false
  createTime : String
  phase : Phase
deriving DecidableEq, Repr

structure Issued where
  managerUid : Int
  requestorUid : Int
  gid : Int
  accept : Bool
  tables : Tables
deriving DecidableEq, Repr

structure System where
  tables : Tables := {}
  calls : Nat → Option Call := fun _ => none
  created : List (Int × Int) := []
  issued : List Issued := []

def failedMessage : String := "数据库操作失败"

def mysqlFailed : Phase := .finished .mysqlFailed failedMessage

def groupNotExists : Phase := .finished .groupNotExists "群组不存在"

def replied (accept : Bool) : Phase :=
  .finished .success (if accept then "同意加入群组" else "拒绝该用户加入群组请求")

namespace System

variable (system : System)

def setPhase (index : Nat) (call : Call) (phase : Phase) : System :=
  { system with calls := update system.calls index (some { call with phase }) }

def proceed (index : Nat) (call : Call) (result : Option Tables) (phase : Phase) : System :=
  match result with
  | none => system.setPhase index call mysqlFailed
  | some tables => { system with tables }.setPhase index call phase

def execute (index : Nat) (call : Call) (failed : Bool) : Statement → System
  | .insertGroup =>
    match (if failed then none else
      system.tables.insertGroup ⟨call.gid, call.sessionKey, call.text, call.createTime⟩) with
    | none => system.setPhase index call mysqlFailed
    | some tables =>
      { system with
        tables, created := system.created ++ [(call.gid, call.uid)] }.setPhase index call
          (.pending .insertMaster)
  | .insertMaster =>
    system.proceed index call
      (if failed then none else
        system.tables.insertGroupMember ⟨call.gid, call.uid, .master, call.createTime, 0⟩)
      (.finished .success "")
  | .hasGroupToJoin =>
    if failed then system.setPhase index call mysqlFailed
    else if system.tables.hasGroup call.gid then
      system.setPhase index call (.pending .insertGroupApply)
    else system.setPhase index call groupNotExists
  | .insertGroupApply =>
    system.proceed index call
      (if failed then none else
        system.tables.insertGroupApply
          ⟨call.uid, 0, call.gid, .add, .wait, call.text, call.createTime⟩)
      (.finished .success "通知群成员成功")
  | .hasGroupToReply =>
    if failed ∨ system.tables.hasGroup call.gid then
      system.setPhase index call (.pending .updateGroupApply)
    else system.setPhase index call groupNotExists
  | .updateGroupApply =>
    system.proceed index call
      (if failed then none else
        system.tables.updateGroupApply
          ⟨call.requestorUid, call.uid, call.gid, .add, .agree, "", call.createTime⟩)
      (.pending .insertGroupMember)
  | .insertGroupMember =>
    system.proceed index call
      (if failed then none else
        system.tables.insertGroupMember ⟨call.gid, call.requestorUid, .member, call.createTime, 0⟩)
      (replied call.accept)

end System

inductive Action where
  | create (index : Nat) (uid : Int) (groupName : String) (gid sessionKey : Option IdDraw)
      (time : String)
  | notifyJoin (index : Nat) (uid gid : Int) (requestMessage time : String)
  | replyJoin (index : Nat) (uid requestorUid gid : Int) (accept : Bool) (time : String)
  | statement (index : Nat) (failed : Bool)
deriving DecidableEq, Repr

def step (system : System) : Action → Option System
  | .create index uid groupName gid sessionKey time =>
    if system.calls index = none then
      some { system with
        calls := update system.calls index (some
          { uid, gid := generateId gid, sessionKey := generateId sessionKey,
            text := groupName, createTime := time, phase := .pending .insertGroup }) }
    else none
  | .notifyJoin index uid gid requestMessage time =>
    if system.calls index = none then
      some { system with
        calls := update system.calls index (some
          { uid, gid, text := requestMessage, createTime := time,
            phase := .pending .hasGroupToJoin }) }
    else none
  | .replyJoin index uid requestorUid gid accept time =>
    if system.calls index = none then
      some { system with
        calls := update system.calls index (some
          { uid, gid, requestorUid, accept,
            createTime := time, phase := .pending .hasGroupToReply })
        issued := system.issued ++ [⟨uid, requestorUid, gid, accept, system.tables⟩] }
    else none
  | .statement index failed =>
    match system.calls index with
    | none => none
    | some call =>
      match call.phase with
      | .pending statement => some (system.execute index call failed statement)
      | .finished _ _ => none

/-! ### What a step does -/

def Replying (call : Call) : Prop :=
  call.phase = .pending .hasGroupToReply ∨ call.phase = .pending .updateGroupApply ∨
    call.phase = .pending .insertGroupMember

instance (call : Call) : Decidable (Replying call) := inferInstanceAs (Decidable (_ ∨ _))

def Mastering (call : Call) : Prop := call.phase = .pending .insertMaster

def IsMember (tables : Tables) (uid gid : Int) : Prop :=
  ∃ member ∈ tables.groupMembers, member.gid = gid ∧ member.uid = uid

def Applied (tables : Tables) (requestorUid gid : Int) : Prop :=
  ∃ row ∈ tables.groupApplys, row.requestor = requestorUid ∧ row.gid = gid

variable {apply : GroupApply} {failed : Bool}

namespace Tables

variable {tables after : Tables}

theorem insertGroup_eq_some {group : GroupManager} :
    tables.insertGroup group = some after ↔
      (0 ≤ group.gid ∧ 0 ≤ group.sessionKey ∧ group.name.length ≤ maxName ∧
        ∀ other ∈ tables.groupInfo, other.gid ≠ group.gid ∧ other.sessionKey ≠ group.sessionKey) ∧
      after = { tables with groupInfo := tables.groupInfo ++ [group] } := by
  rw [insertGroup, ite_none_right_eq_some, some.injEq, eq_comm (a := after)]

theorem insertGroupMember_eq_some {member : GroupMember} :
    tables.insertGroupMember member = some after ↔
      (0 ≤ member.gid ∧ 0 ≤ member.uid ∧ ¬ IsMember tables member.uid member.gid) ∧
      after = { tables with groupMembers := tables.groupMembers ++ [member] } := by
  simp only [insertGroupMember, ite_none_right_eq_some, some.injEq, eq_comm (a := after), IsMember,
    not_exists, not_and]

theorem insertGroupApply_eq_some :
    tables.insertGroupApply apply = some after ↔
      (0 ≤ apply.requestor ∧ 0 ≤ apply.handler ∧ 0 ≤ apply.gid ∧
        apply.message.length ≤ maxMessage ∧ ¬ Applied tables apply.requestor apply.gid) ∧
      after = { tables with groupApplys := tables.groupApplys ++ [apply] } := by
  simp only [insertGroupApply, ite_none_right_eq_some, some.injEq, eq_comm (a := after), Applied,
    not_exists, not_and]

theorem updateGroupApply_eq_some :
    tables.updateGroupApply apply = some after ↔
      ((0 ≤ apply.handler ∧ apply.message.length ≤ maxMessage) ∨
        ¬ Applied tables apply.requestor apply.gid) ∧
      after = { tables with groupApplys := tables.groupApplys.map apply.reply } := by
  simp only [updateGroupApply, ite_none_right_eq_some, some.injEq, eq_comm (a := after), Applied,
    not_exists, not_and]

theorem map_reply_of_absent (absent : ¬ Applied tables apply.requestor apply.gid) :
    tables.groupApplys.map apply.reply = tables.groupApplys :=
  (map_congr_left fun row member => if_neg fun same => absent ⟨row, member, same⟩).trans (map_id _)

end Tables

/-! ### Membership is authorised -/

def Manages (tables : Tables) (uid gid : Int) : Prop :=
  ∃ member ∈ tables.groupMembers, member.gid = gid ∧ member.uid = uid ∧
    (member.role = .manager ∨ member.role = .master)

def Waits (tables : Tables) (requestorUid gid : Int) : Prop :=
  ∃ row ∈ tables.groupApplys, row.requestor = requestorUid ∧ row.gid = gid ∧ row.status = .wait

instance (tables : Tables) (uid gid : Int) : Decidable (Manages tables uid gid) :=
  inferInstanceAs (Decidable (∃ member ∈ tables.groupMembers, _))

instance (tables : Tables) (requestorUid gid : Int) : Decidable (Waits tables requestorUid gid) :=
  inferInstanceAs (Decidable (∃ row ∈ tables.groupApplys, _))

instance (tables : Tables) (uid gid : Int) : Decidable (IsMember tables uid gid) :=
  inferInstanceAs (Decidable (∃ member ∈ tables.groupMembers, _))

instance (tables : Tables) (requestorUid gid : Int) :
    Decidable (Applied tables requestorUid gid) :=
  inferInstanceAs (Decidable (∃ row ∈ tables.groupApplys, _))

/-- An accepting reply comes from a manager of the group while the application waits; the
statements of a refusing one find no application to overwrite, and a member where they would
insert one. -/
def Sanctioned (system : System) : Action → Prop
  | .replyJoin _ uid requestorUid gid accept _ => accept = true →
      Manages system.tables uid gid ∧ Waits system.tables requestorUid gid
  | .statement index _ => ∀ call, system.calls index = some call → Replying call →
      call.accept = false → ¬ Applied system.tables call.requestorUid call.gid ∧
        (call.phase = .pending .insertGroupMember →
          IsMember system.tables call.requestorUid call.gid)
  | _ => True

instance (system : System) : ∀ action, Decidable (Sanctioned system action)
  | .replyJoin _ _ _ _ _ _ => inferInstanceAs (Decidable (_ → _))
  | .statement index _ => inferInstanceAs (Decidable (∀ call ∈ system.calls index, _))
  | .create _ _ _ _ _ _ => isTrue trivial
  | .notifyJoin _ _ _ _ _ => isTrue trivial

def Admits (reply : Issued) (uid gid : Int) : Prop :=
  reply.accept = true ∧ reply.requestorUid = uid ∧ reply.gid = gid ∧
    Manages reply.tables reply.managerUid gid ∧ Waits reply.tables uid gid

def Backed (issued : List Issued) (call : Call) : Prop :=
  call.accept = true → ∃ reply ∈ issued, Admits reply call.requestorUid call.gid

structure Authorized (system : System) : Prop where
  members : ∀ member ∈ system.tables.groupMembers, (member.gid, member.uid) ∈ system.created ∨
    ∃ reply ∈ system.issued, Admits reply member.uid member.gid
  replying : ∀ index call, system.calls index = some call → Replying call →
    Backed system.issued call
  mastering : ∀ index call, system.calls index = some call → Mastering call →
    (call.gid, call.uid) ∈ system.created

namespace Authorized

variable {system : System} {index : Nat} {call : Call}

theorem start : Authorized {} where
  members := forall_mem_nil _
  replying _ _ present := by cases present
  mastering _ _ present := by cases present

theorem update (sound : Authorized system) {next : System}
    (calls : next.calls = update system.calls index (some call))
    (created : system.created ⊆ next.created) (issued : system.issued ⊆ next.issued)
    (members : ∀ member ∈ next.tables.groupMembers, member ∈ system.tables.groupMembers ∨
      (member.gid, member.uid) ∈ next.created ∨
        ∃ reply ∈ next.issued, Admits reply member.uid member.gid)
    (replying : Replying call → Backed next.issued call)
    (mastering : Mastering call → (call.gid, call.uid) ∈ next.created) : Authorized next where
  members member isMember := by
    rcases members member isMember with old | new
    · rcases sound.members member old with creator | ⟨reply, sent, admits⟩
      · exact .inl (created creator)
      · exact .inr ⟨reply, issued sent, admits⟩
    · exact new
  replying := by
    rw [calls]
    refine forall_update (fun other found earlier isReplying accepts => ?_) replying
    obtain ⟨reply, sent, admits⟩ := sound.replying other found earlier isReplying accepts
    exact ⟨reply, issued sent, admits⟩
  mastering := by
    rw [calls]
    exact forall_update (fun other found earlier isMastering =>
      created (sound.mastering other found earlier isMastering)) mastering

theorem insertMember (sound : Authorized system) {member : GroupMember} {tables : Tables}
    (inserted : system.tables.insertGroupMember member = some tables)
    (entitled : (member.gid, member.uid) ∈ system.created ∨
      ∃ reply ∈ system.issued, Admits reply member.uid member.gid)
    (error : ErrorCode) (message : String) :
    Authorized ({ system with tables }.setPhase index call (.finished error message)) := by
  obtain ⟨_, rfl⟩ := Tables.insertGroupMember_eq_some.mp inserted
  refine sound.update rfl (fun _ => id) (fun _ => id) (fun other isMember => ?_)
    (by simp [Replying]) (by simp [Mastering])
  rcases mem_append.mp isMember with old | new
  · exact .inl old
  · exact .inr (mem_singleton.mp new ▸ entitled)

section

variable (sound : Authorized system) (present : system.calls index = some call)
include sound present

/-- A statement that inserts no member brings the call to its next phase. -/
theorem pass {tables : Tables} {phase : Phase}
    (members : tables.groupMembers = system.tables.groupMembers)
    (replying : Replying { call with phase } → Replying call)
    (mastering : ¬ Mastering { call with phase }) :
    Authorized ({ system with tables }.setPhase index call phase) :=
  sound.update rfl (fun _ => id) (fun _ => id) (fun _ isMember => .inl (members ▸ isMember))
    (fun still => sound.replying index call present (replying still))
    fun wrong => absurd wrong mastering

theorem finish (error : ErrorCode) (message : String) :
    Authorized (system.setPhase index call (.finished error message)) :=
  sound.pass present rfl (by simp [Replying]) (by simp [Mastering])

theorem execute {statement : Statement} (was : call.phase = .pending statement)
    (sanctioned : Sanctioned system (.statement index failed)) :
    Authorized (system.execute index call failed statement) := by
  cases statement with
  | insertGroup =>
    simp only [System.execute]
    split
    · exact sound.finish present _ _
    rename_i tables succeeded
    obtain ⟨_, rfl⟩ := Tables.insertGroup_eq_some.mp (ite_none_left_eq_some.mp succeeded).2
    exact sound.update rfl (fun _ => mem_append_left _) (fun _ => id) (fun _ => .inl)
      (by simp [Replying]) fun _ => mem_concat_self
  | insertMaster =>
    simp only [System.execute, System.proceed]
    split
    · exact sound.finish present _ _
    rename_i tables succeeded
    exact sound.insertMember (ite_none_left_eq_some.mp succeeded).2
      (.inl (sound.mastering index call present was)) _ _
  | hasGroupToJoin =>
    simp only [System.execute]
    split_ifs
    · exact sound.finish present _ _
    · exact sound.pass present rfl (by simp [Replying]) (by simp [Mastering])
    · exact sound.finish present _ _
  | insertGroupApply =>
    simp only [System.execute, System.proceed]
    split
    · exact sound.finish present _ _
    rename_i tables succeeded
    obtain ⟨_, rfl⟩ := Tables.insertGroupApply_eq_some.mp (ite_none_left_eq_some.mp succeeded).2
    exact sound.pass present rfl (by simp [Replying]) (by simp [Mastering])
  | hasGroupToReply =>
    simp only [System.execute]
    split_ifs
    · exact sound.pass present rfl (fun _ => .inl was) (by simp [Mastering])
    · exact sound.finish present _ _
  | updateGroupApply =>
    simp only [System.execute, System.proceed]
    split
    · exact sound.finish present _ _
    rename_i tables succeeded
    obtain ⟨_, rfl⟩ := Tables.updateGroupApply_eq_some.mp (ite_none_left_eq_some.mp succeeded).2
    exact sound.pass present rfl (fun _ => .inr (.inl was)) (by simp [Mastering])
  | insertGroupMember =>
    simp only [System.execute, System.proceed]
    split
    · exact sound.finish present _ _
    rename_i tables succeeded
    have inserted := (ite_none_left_eq_some.mp succeeded).2
    have replying : Replying call := .inr (.inr was)
    have accepts : call.accept = true := by
      by_contra refuses
      obtain ⟨_, already⟩ := sanctioned call present replying (Bool.eq_false_of_not_eq_true refuses)
      exact (Tables.insertGroupMember_eq_some.mp inserted).1.2.2 (already was)
    exact sound.insertMember inserted
      (.inr (sound.replying index call present replying accepts)) _ _

end

theorem step {next : System} (action : Action) (sound : Authorized system)
    (sanctioned : Sanctioned system action) (taken : step system action = some next) :
    Authorized next := by
  cases action with
  | create | notifyJoin =>
    obtain ⟨_, rfl⟩ := ite_some_none_eq_some.mp taken
    exact sound.update rfl (fun _ => id) (fun _ => id) (fun _ => .inl) (by simp [Replying])
      (by simp [Mastering])
  | replyJoin index uid requestorUid gid accept time =>
    obtain ⟨_, rfl⟩ := ite_some_none_eq_some.mp taken
    refine sound.update rfl (fun _ => id) (fun _ => mem_append_left _) (fun _ => .inl)
      (fun _ accepts => ?_) (by simp [Mastering])
    obtain ⟨manages, waits⟩ := sanctioned accepts
    exact ⟨_, mem_concat_self, accepts, rfl, rfl, manages, waits⟩
  | statement index failed =>
    simp only [GroupJoin.step] at taken
    split at taken
    · cases taken
    rename_i call present
    split at taken
    · exact some.inj taken ▸ sound.execute present ‹_› sanctioned
    · cases taken

end Authorized

/-! ### A refusal changes nothing but the status -/

/-- A statement of a refusing reply leaves the members alone, and when it ends the call, the
application of the requestor is refused. -/
def RefusalKept (system : System) : Action → Prop
  | .statement index failed => ∀ call next, system.calls index = some call → Replying call →
      call.accept = false → step system (.statement index failed) = some next →
        next.tables.groupMembers = system.tables.groupMembers ∧
        ∀ error message, (next.calls index).map Call.phase = some (.finished error message) →
          ∀ row ∈ next.tables.groupApplys, row.requestor = call.requestorUid →
            row.gid = call.gid → row.status = .refuse
  | _ => True

theorem refusalKept_of_sanctioned (system : System) (action : Action)
    (sanctioned : Sanctioned system action) : RefusalKept system action := by
  cases action with
  | create | notifyJoin | replyJoin => trivial
  | statement index failed =>
    intro call next present replying refuses taken
    obtain ⟨absent, already⟩ := sanctioned call present replying refuses
    have kept : next.tables.groupMembers = system.tables.groupMembers ∧
        next.tables.groupApplys = system.tables.groupApplys := by
      rcases replying with was | was | was
      · simp only [step, present, was, System.execute] at taken
        split_ifs at taken <;> exact some.inj taken ▸ ⟨rfl, rfl⟩
      · simp only [step, present, was, System.execute, System.proceed] at taken
        split at taken
        · exact some.inj taken ▸ ⟨rfl, rfl⟩
        rename_i tables succeeded
        obtain ⟨_, rfl⟩ := Tables.updateGroupApply_eq_some.mp (ite_none_left_eq_some.mp succeeded).2
        exact some.inj taken ▸ ⟨rfl, Tables.map_reply_of_absent absent⟩
      · simp only [step, present, was, System.execute, System.proceed] at taken
        split at taken
        · exact some.inj taken ▸ ⟨rfl, rfl⟩
        rename_i tables succeeded
        have inserted := Tables.insertGroupMember_eq_some.mp (ite_none_left_eq_some.mp succeeded).2
        exact absurd (already was) inserted.1.2.2
    refine ⟨kept.1, fun _ _ _ row member sameRequestor sameGid => ?_⟩
    exact absurd ⟨row, kept.2 ▸ member, sameRequestor, sameGid⟩ absent

/-- From empty tables, when the replies are sanctioned, every member created the group or was
admitted by a manager of it while the member's application waited, and no refusal has an
effect on the members. -/
theorem group_membership_authorized {actions : List Action} {final : System}
    (sanctioned : Along step Sanctioned {} actions)
    (taken : run step {} actions = some final) :
    (∀ member ∈ final.tables.groupMembers, (member.gid, member.uid) ∈ final.created ∨
      ∃ reply ∈ final.issued, reply.accept = true ∧ reply.requestorUid = member.uid ∧
        reply.gid = member.gid ∧ Manages reply.tables reply.managerUid member.gid ∧
        Waits reply.tables member.uid member.gid) ∧
      Along step RefusalKept {} actions :=
  ⟨(run_invariant_along Authorized Sanctioned
      (fun _ action _ sound sanctioned taken => sound.step action sanctioned taken)
      Authorized.start sanctioned taken).members,
    sanctioned.imp refusalKept_of_sanctioned⟩

def after (actions : List Action) : System := (run step {} actions).getD {}

def createdAndApplied : List Action :=
  [.create 0 1 "group" (some ⟨0, 0, 100, by decide⟩) (some ⟨0, 0, 200, by decide⟩) "t",
    .statement 0 false, .statement 0 false, .notifyJoin 1 2 100 "hello" "t", .statement 1 false,
    .statement 1 false]

def acceptedByMaster : List Action :=
  createdAndApplied ++
    [.replyJoin 2 1 2 100 true "t", .statement 2 false, .statement 2 false, .statement 2 false,
      .replyJoin 3 1 1 100 false "t", .statement 3 false, .statement 3 false, .statement 3 false]

theorem group_membership_authorized_by_master :
    (after acceptedByMaster).tables.groupMembers =
        [⟨100, 1, .master, "t", 0⟩, ⟨100, 2, .member, "t", 0⟩] ∧
      (∀ member ∈ (after acceptedByMaster).tables.groupMembers,
        (member.gid, member.uid) ∈ (after acceptedByMaster).created ∨
          ∃ reply ∈ (after acceptedByMaster).issued, reply.accept = true ∧
            reply.requestorUid = member.uid ∧ reply.gid = member.gid ∧
            Manages reply.tables reply.managerUid member.gid ∧
            Waits reply.tables member.uid member.gid) ∧
      Along step RefusalKept {} acceptedByMaster := by
  have sanctioned : Along step Sanctioned {} acceptedByMaster := by decide +kernel
  exact ⟨by decide +kernel, group_membership_authorized sanctioned rfl⟩

/-- User 1 refuses user 2, who is a member afterwards with the application agreed to; user 3,
who is no member and has not applied, accepts itself. -/
theorem refused_and_stranger_join :
    let refused := after (createdAndApplied ++
      [.replyJoin 2 1 2 100 false "t", .statement 2 false, .statement 2 false, .statement 2 false])
    let stranger := after (createdAndApplied ++
      [.replyJoin 2 3 3 100 true "t", .statement 2 false, .statement 2 false, .statement 2 false])
    refused.tables.groupMembers = [⟨100, 1, .master, "t", 0⟩, ⟨100, 2, .member, "t", 0⟩] ∧
      refused.tables.groupApplys = [⟨2, 1, 100, .add, .agree, "", "t"⟩] ∧
      refused.created = [(100, 1)] ∧ (∀ reply ∈ refused.issued, reply.accept = false) ∧
      stranger.tables.groupMembers = [⟨100, 1, .master, "t", 0⟩, ⟨100, 3, .member, "t", 0⟩] ∧
      stranger.created = [(100, 1)] ∧
      ∀ reply ∈ stranger.issued, ¬ Manages reply.tables reply.managerUid 100 ∧
        ¬ Waits reply.tables reply.requestorUid 100 := by
  decide +kernel

end Wimi.Server.GroupJoin
