/-
The calls of the friend and group services and the upload handler are modelled twice: as
calls that interleave statement by statement, and as the programs whose executions are sent
again. This file relates the two. What a call has still to do is the rest of its program,
the call arrives with the whole program, and each of its steps does what the first statement
of the rest does.
-/

import Wimi.Server.Commands
import Wimi.Server.FileService

namespace Wimi.Server

open Attempts (runAll)

/-- One execution of a statement, which fails with its fault if it has one. -/
def attempt (statement : CommandStatement) (failed : Bool) (database : Database) :
    Except ErrorCode Database :=
  match failed, statement.fault with
  | true, some error => .error error
  | _, _ => statement.run database

/-! ### Calls of the group service -/

namespace GroupJoin

/-- The statements a call has still to execute. `failed` is the lookup of a reply. -/
def Call.program (call : Call) (failed : Bool) : List CommandStatement :=
  let creates := [Server.insertGroup ⟨call.gid, call.sessionKey, call.text, call.createTime⟩,
    Server.insertGroupMember ⟨call.gid, call.uid, .master, call.createTime, 0⟩]
  let joins := Server.notifyJoin call.uid call.gid call.text call.createTime
  let replies := Server.replyJoin call.uid call.requestorUid call.gid call.createTime failed
  match call.phase with
  | .pending .insertGroup => creates
  | .pending .insertMaster => creates.drop 1
  | .pending .hasGroupToJoin => joins
  | .pending .insertGroupApply => joins.drop 1
  | .pending .hasGroupToReply => replies
  | .pending .updateGroupApply => replies.drop 1
  | .pending .insertGroupMember => replies.drop 2
  | .finished _ _ => []

/-- A call arrives with the program of its command. -/
theorem step_program {system next : System} {action : Action}
    (taken : step system action = some next) :
    match action with
    | .create index uid groupName gid sessionKey time => ∃ call, next.calls index = some call ∧
        ∀ failed, call.program failed = Server.create uid groupName time gid sessionKey
    | .notifyJoin index uid gid requestMessage time => ∃ call, next.calls index = some call ∧
        ∀ failed, call.program failed = Server.notifyJoin uid gid requestMessage time
    | .replyJoin index uid requestorUid gid _ time => ∃ call, next.calls index = some call ∧
        ∀ failed, call.program failed = Server.replyJoin uid requestorUid gid time failed
    | .statement _ _ => True := by
  cases action with
  | create | notifyJoin | replyJoin =>
    obtain ⟨_, rfl⟩ := Option.ite_some_none_eq_some.mp taken
    exact ⟨_, Function.update_self .., fun _ => rfl⟩
  | statement => trivial

/-- The call has done what a statement did, and the rest of its program is left; or it has ended
with the error of the statement. -/
def Does (system : System) (index : Nat) (call : Call) (database : Database)
    (rest : List CommandStatement) (after : System) : Except ErrorCode Database → Prop
  | .ok written => ∃ created phase,
      after = { system with tables := written.groups, created }.setPhase index call phase ∧
        written = { database with groups := written.groups } ∧
        ∀ failed, ({ call with phase } : Call).program failed = rest
  | .error error => ∃ message,
      after = system.setPhase index call (.finished error message)

section

variable {system : System} {index : Nat} {call : Call} {database : Database}
  {rest : List CommandStatement}

theorem does_write (same : database.groups = system.tables) {failed : Bool}
    {write : Tables → Option Tables} {created : List (Int × Int)} {phase : Phase}
    (left : ∀ failed, ({ call with phase } : Call).program failed = rest) :
    Does system index call database rest
      (match if failed then none else write system.tables with
        | none => system.setPhase index call mysqlFailed
        | some tables => { system with tables, created }.setPhase index call phase)
      (attempt (writeGroups write) failed database) := by
  cases failed with
  | true => exact ⟨_, rfl⟩
  | false =>
    simp only [attempt, writeGroups, tryWrite, same, Bool.false_eq_true, if_false]
    cases write system.tables with
    | none => exact ⟨_, rfl⟩
    | some tables => exact ⟨created, phase, rfl, rfl, left⟩

/-- Each statement of a call is the first one of its program. -/
theorem execute_program {statement : Statement} (was : call.phase = .pending statement)
    (failed : Bool) (same : database.groups = system.tables) :
    ∃ first rest, call.program failed = first :: rest ∧
      Does system index call database rest (system.execute index call failed statement)
        (attempt first failed database) := by
  cases statement with
  | insertGroup => exact ⟨_, _, by rw [Call.program, was], does_write same fun _ => rfl⟩
  | insertMaster | insertGroupApply | updateGroupApply | insertGroupMember =>
    exact ⟨_, _, by rw [Call.program, was]; rfl, does_write same fun _ => rfl⟩
  | hasGroupToJoin =>
    refine ⟨_, _, by rw [Call.program, was]; rfl, ?_⟩
    cases failed with
    | true => exact ⟨_, rfl⟩
    | false =>
      simp only [attempt, check, System.execute, same, Bool.false_eq_true, if_false]
      split_ifs
      · exact ⟨system.created, .pending .insertGroupApply, by rw [same], rfl, fun _ => rfl⟩
      · exact ⟨_, rfl⟩
  | hasGroupToReply =>
    refine ⟨_, _, by rw [Call.program, was]; rfl, ?_⟩
    simp only [attempt, check, System.execute, same]
    split_ifs
    · exact ⟨system.created, .pending .updateGroupApply, by rw [same], rfl, fun _ => rfl⟩
    · exact ⟨_, rfl⟩

end

end GroupJoin

/-! ### Calls of the friend service -/

/-- The statements a call has still to execute. Every reply ends with the check of its result,
which that of a refusal passes. -/
def FriendCall.program (call : FriendCall) : List CommandStatement :=
  let row : FriendApplyRow :=
    { fromUid := call.uid, toUid := call.toUid, content := call.content, status := call.status,
      createTime := call.createTime, applicant := call.uid }
  let applies :=
    [insertFriendApply row,
      insertFriendApply { row with fromUid := row.toUid, toUid := row.fromUid }]
  let replies := storeReplyAddFriend
    { call with sessionId := 0, phase := .pending .updateFriendApplyStatus } call.sessionId
  match call.phase with
  | .pending .insertFriendApply => applies
  | .pending .insertFriendApplyMirror => applies.drop 1
  | .pending .insertFriend => replies
  | .pending .insertFriendMirror => replies.drop 1
  | .pending .updateFriendApplyStatus => replies.drop 2
  | .pending .updateFriendApplyStatusMirror => replies.drop 3
  | .finished _ => []

open FriendCall

theorem checkStored_zero (database : Database) :
    runAll [checkStored 0] database = .ok database := by
  have passes : storedFailed 0 = none := by
    unfold storedFailed storedReply
    decide
  simp only [runAll, checkStored, check, passes]

/-- A call arrives with the program of its command. -/
theorem friendStep_program {system next : FriendSystem} {action : FriendAction}
    (taken : friendStep system action = some next) :
    match action with
    | .notifyAddFriend index uid toUid requestMessage => ∃ call, next.calls index = some call ∧
        call.program = notifyAddFriend uid toUid requestMessage
    | .replyAddFriend index uid toUid accept replyMessage sessionId time =>
        ∃ call, next.calls index = some call ∧ call.program =
          replyAddFriend uid toUid accept replyMessage time sessionId ++
            if accept then [] else [checkStored 0]
    | .statement _ => True := by
  cases action with
  | notifyAddFriend =>
    obtain ⟨_, rfl⟩ := Option.ite_some_none_eq_some.mp taken
    exact ⟨_, Function.update_self .., rfl⟩
  | replyAddFriend index uid toUid accept =>
    obtain ⟨_, rfl⟩ := Option.ite_some_none_eq_some.mp taken
    cases accept with
    | true | false => exact ⟨_, Function.update_self .., rfl⟩
  | statement => trivial

/-- What is left of the program of a call that has come to this phase. The check at the end is
the one that the result is not -1. -/
def FriendCall.Left (call : FriendCall) (rest : List CommandStatement) : FriendPhase → Prop
  | .pending statement => { call with phase := .pending statement }.program = rest
  | .finished reply => rest = [] ∧ reply = 0 ∨
    rest = [checkStored call.sessionId] ∧ reply = storedReply call.sessionId

namespace FriendSystem

/-- The call has done what a statement did, and the rest is left; or it has ended with an error. -/
def Does (system : FriendSystem) (index : Nat) (call : FriendCall) (database : Database)
    (rest : List CommandStatement) (after : FriendSystem) : Except ErrorCode Database → Prop
  | .ok written => ∃ phase,
      after = setPhase { system with
        friends := written.friends, friendApplys := written.friendApplys } index call phase ∧
      written =
        { database with friends := written.friends, friendApplys := written.friendApplys } ∧
      call.Left rest phase
  | .error _ => after = system.setPhase index call (.finished (-1))

section

variable {system : FriendSystem} {index : Nat} {call : FriendCall} {database : Database}
  {rest : List CommandStatement} {phase : FriendPhase}
  (friends : database.friends = system.friends)
  (friendApplys : database.friendApplys = system.friendApplys)
include friends friendApplys

theorem does_writeApplys (write : List FriendApplyRow → Option (List FriendApplyRow))
    (left : call.Left rest phase) :
    system.Does index call database rest
      (system.proceed index call
        ((write system.friendApplys).map fun rows => { system with friendApplys := rows }) phase)
      ((tryWrite fun database => (write database.friendApplys).map fun rows =>
        { database with friendApplys := rows }).run database) := by
  simp only [tryWrite, friendApplys]
  cases write system.friendApplys with
  | none => rfl
  | some rows => exact ⟨phase, friends ▸ rfl, rfl, left⟩

theorem does_writeFriends (write : List FriendRow → Option (List FriendRow))
    (left : call.Left rest phase) :
    system.Does index call database rest
      (system.proceed index call
        ((write system.friends).map fun rows => { system with friends := rows }) phase)
      ((tryWrite fun database => (write database.friends).map fun rows =>
        { database with friends := rows }).run database) := by
  simp only [tryWrite, friends]
  cases write system.friends with
  | none => rfl
  | some rows => exact ⟨phase, friendApplys ▸ rfl, rfl, left⟩

/-- Each statement of a call is the first one of its program. -/
theorem execute_program {statement : FriendStatement} (was : call.phase = .pending statement) :
    ∃ first rest, call.program = first :: rest ∧
      system.Does index call database rest (system.execute index call statement)
        (first.run database) := by
  cases statement with
  | insertFriendApply =>
    exact ⟨_, _, by rw [program, was]; rfl,
      does_writeApplys friends friendApplys (insertApplyRow · _) rfl⟩
  | insertFriendApplyMirror =>
    exact ⟨_, _, by rw [program, was]; rfl,
      does_writeApplys friends friendApplys (insertApplyRow · _) (.inl ⟨rfl, rfl⟩)⟩
  | insertFriend | insertFriendMirror =>
    exact ⟨_, _, by rw [program, was]; rfl,
      does_writeFriends friends friendApplys (insertFriendRow · _) rfl⟩
  | updateFriendApplyStatus =>
    exact ⟨_, _, by rw [program, was]; rfl,
      does_writeApplys friends friendApplys (updateApplyRows · _ _ _) rfl⟩
  | updateFriendApplyStatusMirror =>
    exact ⟨_, _, by rw [program, was]; rfl,
      does_writeApplys friends friendApplys (updateApplyRows · _ _ _) (.inr ⟨rfl, rfl⟩)⟩

end

end FriendSystem

/-! ### Uploads -/

/-- The code of a reply; `InternalError` has none among the errors of a statement. -/
def FileService.ErrorCodes.errorCode : FileService.ErrorCodes → Option ErrorCode
  | .Success => some .success
  | .RPCFailed => some .rpcFailed
  | .RepeatMessage => some .repeatMessage
  | .FileTypeError => some .fileTypeError
  | .InternalError => none

theorem isFileType_ofList (text : List Char) :
    isFileType (.ofList text) = (FileService.fileType text).isSome := by
  have isText : String.ofList text = "TEXT" ↔ text = ['T', 'E', 'X', 'T'] := String.ofList_inj
  have isImage : String.ofList text = "IMAGE" ↔ text = ['I', 'M', 'A', 'G', 'E'] :=
    String.ofList_inj
  simp only [isFileType, FileService.fileType, isText, isImage]
  split_ifs <;> simp_all

/-- The handler reports the error of its program and leaves the file server alone, or it passes
the chunk on, which the file server appends under its name if it has one. -/
theorem upload_program (state : FileService.State) (request : FileService.TcpPacket)
    (data : String) (database : Database) :
    match runAll (upload request.uid (.ofList request.fileName) (.ofList request.fileType) data
      (FileService.getUserMsgId state.redis request.uid request.seq)) database with
    | .error error => ∀ result,
        (FileService.upload state request result).2.error.errorCode = some error ∧
          (FileService.upload state request result).1.fileServer = state.fileServer
    | .ok written => ∃ type, FileService.fileType request.fileType = some type ∧
        (∀ result, FileService.upload state request result =
          ({ state with
              fileServer := FileService.forwardUpload state.fileServer
                (FileService.rpcRequest request type) result },
            FileService.forwardReply request.seq result)) ∧
        written = if (File.Upload.write [] (FileService.rpcRequest request type)).isSome then
          database.append request.uid (.ofList request.fileName) data else database := by
  unfold upload FileService.upload
  cases FileService.getUserMsgId state.redis request.uid request.seq with
  | true => exact fun _ => ⟨rfl, rfl⟩
  | false =>
    rw [isFileType_ofList]
    cases FileService.fileType request.fileType with
    | none => exact fun _ => ⟨rfl, rfl⟩
    | some type =>
      refine ⟨type, rfl, fun _ => rfl, ?_⟩
      by_cases unnamed : request.fileName = []
      · simp [File.Upload.write, FileService.rpcRequest, unnamed]
      · simp [File.Upload.write, FileService.rpcRequest, unnamed]

end Wimi.Server
