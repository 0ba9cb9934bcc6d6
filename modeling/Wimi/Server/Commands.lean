/-
This file models the commands a Message node executes for a client as a whole: the
tables and files they work on, and each service as the list of its statements, with
what an execution draws and with the error it reports when a statement fails.

A statement commits on its own; only the accepting of a text is one transaction, with
the model of its own. A service that answers without touching the database has an
empty list or a refusal.
-/

import Wimi.Lib.Attempts
import Wimi.Server.Receipts
import Wimi.Server.GroupJoin

namespace Wimi.Server

open Attempts

/-! ### Database and draws -/

structure Database where
  friends : List FriendRow := []
  friendApplys : List FriendApplyRow := []
  groups : GroupJoin.Tables := {}
  conversations : List ConversationRow := []
  conversationMembers : List MemberRow := []
  messages : List MessageRow := []
  autoIncrement : Nat := 1
  files : Int → String → String := fun _ _ => ""

namespace Database

variable (database : Database)

def store : Store where
  friends := database.friends
  groupInfo := database.groups.groupInfo.map fun group => ⟨group.gid.toNat, group.sessionKey.toNat⟩
  groupMembers := database.groups.groupMembers.map fun member =>
    ⟨member.gid.toNat, member.uid.toNat, member.speech⟩
  conversations := database.conversations
  conversationMembers := database.conversationMembers
  messages := database.messages
  autoIncrement := database.autoIncrement

def withStore (store : Store) : Database :=
  { database with
    conversations := store.conversations
    conversationMembers := store.conversationMembers
    messages := store.messages
    autoIncrement := store.autoIncrement }

def append (uid : Int) (fileName data : String) : Database :=
  { database with
    files := fun owner name =>
      if owner = uid ∧ name = fileName then database.files owner name ++ data
      else database.files owner name }

end Database

structure Draws where
  time : DateTime
  gid : Option IdDraw := none
  sessionKey : Option IdDraw := none
  sessionId : Nat := 0
  lookupFailed : Bool := false
  hasUserMsgId : Bool := false

instance : Inhabited Draws := ⟨{ time := ⟨"0", by decide⟩ }⟩

/-! ### Statements -/

abbrev CommandStatement := Statement Database ErrorCode

def tryWrite (write : Database → Option Database) : CommandStatement where
  run database :=
    match write database with
    | none => .error .mysqlFailed
    | some next => .ok next
  fault := some .mysqlFailed

def insertFriendApply (row : FriendApplyRow) : CommandStatement :=
  tryWrite fun database =>
    (insertApplyRow database.friendApplys row).map fun rows =>
      { database with friendApplys := rows }

def updateFriendApply (fromUid toUid : Nat) (call : FriendCall) : CommandStatement :=
  tryWrite fun database =>
    (updateApplyRows database.friendApplys fromUid toUid call).map fun rows =>
      { database with friendApplys := rows }

def insertFriend (row : FriendRow) : CommandStatement :=
  tryWrite fun database =>
    (insertFriendRow database.friends row).map fun rows => { database with friends := rows }

def writeGroups (write : GroupJoin.Tables → Option GroupJoin.Tables) : CommandStatement :=
  tryWrite fun database =>
    (write database.groups).map fun groups => { database with groups }

def insertGroup (group : GroupJoin.GroupManager) : CommandStatement :=
  writeGroups (·.insertGroup group)

def insertGroupMember (member : GroupJoin.GroupMember) : CommandStatement :=
  writeGroups (·.insertGroupMember member)

def insertGroupApply (apply : GroupJoin.GroupApply) : CommandStatement :=
  writeGroups (·.insertGroupApply apply)

def updateGroupApply (apply : GroupJoin.GroupApply) : CommandStatement :=
  writeGroups (·.updateGroupApply apply)

def check (look : Database → Option ErrorCode) (fault : Option ErrorCode) : CommandStatement where
  run database :=
    match look database with
    | none => .ok database
    | some error => .error error
  fault := fault

theorem tryWrite_eq_ok {write : Database → Option Database} {database next : Database} :
    (tryWrite write).run database = .ok next ↔ write database = some next := by
  simp only [tryWrite]
  cases write database with
  | none | some => simp

theorem check_eq_ok {look : Database → Option ErrorCode} {fault : Option ErrorCode}
    {database next : Database} (passed : (check look fault).run database = .ok next) :
    next = database := by
  simp only [check] at passed
  split at passed
  · exact (Except.ok.inj passed).symm
  · cases passed

/-! ### Services -/

def notifyAddFriend (uid toUid : Int) (requestMessage : String) : List CommandStatement :=
  let row : FriendApplyRow :=
    { fromUid := sizeT uid, toUid := sizeT toUid, content := requestMessage, status := .wait,
      applicant := sizeT uid }
  [insertFriendApply row, insertFriendApply { row with fromUid := row.toUid, toUid := row.fromUid }]

/-- The end of an accepting reply: the id it returns may look like a failure. -/
@[irreducible] def storedFailed (sessionId : Nat) : Option ErrorCode :=
  if storedReply sessionId = -1 then some .mysqlFailed else none

def checkStored (sessionId : Nat) : CommandStatement :=
  check (fun _ => storedFailed sessionId) none

def replyCall (uid toUid : Int) (accept : Bool) (replyMessage time : String) : FriendCall where
  uid := sizeT uid
  toUid := sizeT toUid
  content := replyMessage
  status := if accept then .agree else .refuse
  createTime := time
  phase := .pending .updateFriendApplyStatus

def updateFriendApplyStatus (call : FriendCall) : List CommandStatement :=
  [updateFriendApply call.uid call.toUid call, updateFriendApply call.toUid call.uid call]

def storeReplyAddFriend (call : FriendCall) (sessionId : Nat) : List CommandStatement :=
  [insertFriend ⟨call.uid, call.toUid, sessionId⟩,
    insertFriend ⟨call.toUid, call.uid, sessionId⟩] ++
    updateFriendApplyStatus call ++ [checkStored sessionId]

/-- `ReplyAddFriend`, whose result is the session id cut to an `int`. -/
def replyAddFriend (uid toUid : Int) (accept : Bool) (replyMessage time : String)
    (sessionId : Nat) : List CommandStatement :=
  let call := replyCall uid toUid accept replyMessage time
  if accept then storeReplyAddFriend call sessionId else updateFriendApplyStatus call

def create (uid : Int) (groupName time : String) (gid sessionKey : Option IdDraw) :
    List CommandStatement :=
  [insertGroup ⟨generateId gid, generateId sessionKey, groupName, time⟩,
    insertGroupMember ⟨generateId gid, uid, .master, time, 0⟩]

def notifyJoin (uid gid : Int) (requestMessage time : String) : List CommandStatement :=
  [check (fun database => if database.groups.hasGroup gid then none else some .groupNotExists)
      (some .mysqlFailed),
    insertGroupApply ⟨uid, 0, gid, .add, .wait, requestMessage, time⟩]

/-- `GroupService::ReplyJoin`, which goes on when `hasGroup` fails and does not look at `accept`. -/
def replyJoin (uid requestorUid gid : Int) (time : String) (lookupFailed : Bool) :
    List CommandStatement :=
  [check (fun database =>
      if lookupFailed ∨ database.groups.hasGroup gid then none else some .groupNotExists) none,
    updateGroupApply ⟨requestorUid, uid, gid, .add, .agree, "", time⟩,
    insertGroupMember ⟨gid, requestorUid, .member, time, 0⟩]

def isFileType (fileType : String) : Bool := fileType = "TEXT" ∨ fileType = "IMAGE"

/-- The call of the file server, which ignores a chunk without a name. -/
def storeFile (uid : Int) (fileName data : String) : CommandStatement where
  run database := .ok (if fileName = "" then database else database.append uid fileName data)
  fault := some .rpcFailed

def upload (uid : Int) (fileName fileType data : String) (hasUserMsgId : Bool) :
    List CommandStatement :=
  [check (fun _ => if hasUserMsgId then some .repeatMessage else none) none,
    if isFileType fileType then storeFile uid fileName data
    else check (fun _ => some .fileTypeError) none]

def AckRequest.refusal (request : AckRequest) : Option ErrorCode :=
  if request.seq ≤ 0 then some .jsonParser
  else if request.legacyReceipt then none
  else
    match request.receiptType.getD .unspecified with
    | .unspecified => some .jsonParser
    | .unknown _ => some .jsonParser
    | _ => none

def storeReceipt (request : AckRequest) (time : DateTime) : CommandStatement where
  run database :=
    let result := ack database.store request time .completed
    if result.response.error = .success then .ok (database.withStore result.store)
    else .error result.response.error
  fault := some .mysqlFailed

def acknowledge (request : AckRequest) (time : DateTime) : List CommandStatement :=
  if request.receiptType = some .transport then [] else [storeReceipt request time]

def pullError (request : PullRequest) (database : Database) : Option ErrorCode :=
  let response := pullSessionMessages database.store request
  if response.error = .success then none else some response.error

def pullSession (request : PullRequest) : List CommandStatement :=
  [check (pullError request)
    (if request.conversationId.isSome then some .mysqlFailed else none)]

structure TextPacket where
  type : ConversationType
  receiver : Int
  data : String
  clientMessageId : Option String := none
  seq : Int := 0
deriving DecidableEq, Repr

def TextPacket.clientId (packet : TextPacket) : String :=
  match packet.clientMessageId with
  | some given => if given = "" then toString packet.seq else given
  | none => toString packet.seq

def TextPacket.acceptCommand (packet : TextPacket) (actorUid : Int) (time : String) :
    Option AcceptCommand :=
  if actorUid ≤ 0 ∨ packet.receiver ≤ 0 ∨ packet.data = "" ∨ packet.clientId = "" ∨
      (packet.clientMessageId = none ∧ packet.seq ≤ 0) then none
  else
    some
      { type := packet.type, senderId := actorUid.toNat, receiverId := packet.receiver.toNat,
        clientMessageId := packet.clientId, content := packet.data, sendDateTime := time }

/-- The commands. `pull` stands for the three that always answer with success, `noHandler` for
`ID_FILE_SEND_REQ`, whose handler is empty. -/
inductive Command where
  | send (packet : TextPacket)
  | notifyAddFriend (toUid : Int) (requestMessage : String)
  | replyAddFriend (toUid : Int) (accept : Bool) (replyMessage : String)
  | create (groupName : String)
  | notifyJoin (gid : Int) (requestMessage : String)
  | replyJoin (requestorUid gid : Int) (accept : Bool)
  | upload (seq : Int) (fileName fileType data : String)
  | ack (request : AckRequest)
  | pullSession (request : PullRequest)
  | pull
  | noHandler
  | unknown (serviceId : Nat)
deriving DecidableEq, Repr

def Command.program (actorUid : Int) (draw : Draws) : Command → List CommandStatement
  | .send _ => []
  | .notifyAddFriend toUid requestMessage => Server.notifyAddFriend actorUid toUid requestMessage
  | .replyAddFriend toUid accept replyMessage =>
    Server.replyAddFriend actorUid toUid accept replyMessage draw.time.text draw.sessionId
  | .create groupName =>
    Server.create actorUid groupName draw.time.text draw.gid draw.sessionKey
  | .notifyJoin gid requestMessage =>
    Server.notifyJoin actorUid gid requestMessage draw.time.text
  | .replyJoin requestorUid gid _ =>
    Server.replyJoin actorUid requestorUid gid draw.time.text draw.lookupFailed
  | .upload _ fileName fileType data =>
    Server.upload actorUid fileName fileType data draw.hasUserMsgId
  | .ack request => acknowledge { request with uid := actorUid } draw.time
  | .pullSession request => Server.pullSession { request with uid := actorUid }
  | .pull => []
  | .noHandler => []
  | .unknown _ => []

def Command.refusal (actorUid : Int) (command : Command) : Option ErrorCode :=
  if actorUid ≤ 0 then some .authenticationRequired
  else
    match command with
    | .ack request => request.refusal
    | .unknown _ => some .notFound
    | _ => none

def Command.service (command : Command) (actorUid : Int) : Service Database Draws ErrorCode where
  refusal := command.refusal actorUid
  program draw := command.program actorUid draw
  retryable := isRetryableError
  timeout := .deadlineExceeded

end Wimi.Server
