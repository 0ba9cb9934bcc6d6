/-
This file models the upload handler of the message server: it looks for the marker of the
message, and without one passes the chunk on to the file service.

The marker is read and its time to live is extended, but the handler does not write it, and
an upload that succeeded leaves no trace that a second one could meet. So the second one is
taken for a repetition exactly if the marker has come from elsewhere, and it is passed on
under the name it came with.
-/

import Wimi.File.Upload
import Wimi.Lib.Expiring

namespace Wimi.Server.FileService

open Option Transition File.Upload Paths

/-! ### The handler -/

structure TcpPacket where
  seq : Int
  uid : Nat
  data : List UInt8
  fileName : List Char
  fileType : List Char

inductive ErrorCodes
  | Success
  | RPCFailed
  | RepeatMessage
  | FileTypeError
  | InternalError
deriving DecidableEq

structure Reply where
  seq : Int
  error : ErrorCodes
  message : String := ""

/-- How the call of the file service ends. One that fails may have reached it. -/
inductive ForwardResult
  | ok
  | failed (reached : Bool) (errorMessage : String)
  | thrown (what : String)

structure State where
  /-- The markers of `im:userMsgId`, on a clock in milliseconds. -/
  redis : Expiring.Store (Nat × Int) Unit := {}
  fileServer : FileServiceImpl

def getUserMsgId (redis : Expiring.Store (Nat × Int) Unit) (userId : Nat) (msgId : Int) : Bool :=
  (redis.lookup (userId, msgId)).isSome

def setUserMsgId (redis : Expiring.Store (Nat × Int) Unit) (userId : Nat) (msgId : Int)
    (expired : Nat) : Expiring.Store (Nat × Int) Unit :=
  redis.put (userId, msgId) ⟨(), some (redis.now + 1000 * expired)⟩

def expireUserMsgId (redis : Expiring.Store (Nat × Int) Unit) (userId : Nat) (msgId : Int)
    (expired : Nat) : Expiring.Store (Nat × Int) Unit :=
  if getUserMsgId redis userId msgId then setUserMsgId redis userId msgId expired else redis

def fileType (text : List Char) : Option FileType :=
  if text = ['T', 'E', 'X', 'T'] then some .TEXT
  else if text = ['I', 'M', 'A', 'G', 'E'] then some .IMAGE
  else none

def rpcRequest (request : TcpPacket) (type : FileType) : UploadRequest :=
  ⟨request.uid, some ⟨request.seq, request.fileName, type, request.data⟩⟩

def forwardUpload (fileServer : FileServiceImpl) (request : UploadRequest) :
    ForwardResult → FileServiceImpl
  | .ok | .failed true _ => pushTask fileServer request
  | .failed false _ | .thrown _ => fileServer

def forwardReply (seq : Int) : ForwardResult → Reply
  | .ok => ⟨seq, .Success, ""⟩
  | .failed _ errorMessage => ⟨seq, .RPCFailed, "RPC 失败: " ++ errorMessage⟩
  | .thrown what => ⟨seq, .InternalError, "系统异常: " ++ what⟩

def upload (state : State) (request : TcpPacket) (result : ForwardResult) : State × Reply :=
  if getUserMsgId state.redis request.uid request.seq then
    ({ state with redis := expireUserMsgId state.redis request.uid request.seq 10 },
      ⟨request.seq, .RepeatMessage, "重复消息"⟩)
  else
    match fileType request.fileType with
    | none => (state, ⟨request.seq, .FileTypeError, "文件类型错误"⟩)
    | some type =>
      ({ state with fileServer := forwardUpload state.fileServer (rpcRequest request type) result },
        forwardReply request.seq result)

/-! ### The name of the file -/

/-- The chunk of an upload goes below the directory of its user exactly if its name stays
inside. -/
theorem upload_contained_iff (workingDirectory : List Part) (request : TcpPacket)
    (type : FileType) :
    (∀ target ∈ write workingDirectory (rpcRequest request type),
        userDirectory workingDirectory request.uid <+: target.1) ↔
      (request.fileName ≠ [] →
        StaysInside (userDirectory workingDirectory request.uid) (cString request.fileName)) := by
  by_cases empty : request.fileName = []
  · simp [write, rpcRequest, empty]
  · simp [write, rpcRequest, saveFilePath_inside_iff]

theorem dots_reach_other_user :
    (write [] (rpcRequest ⟨1, 7, [1], ['.', '.', '/', '8', '/', 'a'], []⟩ .TEXT)).map Prod.fst =
        some (saveFilePath [] 8 ['a']) ∧
      ¬ userDirectory [] 7 <+: saveFilePath [] 8 ['a'] ∧
      (write [] (rpcRequest ⟨1, 7, [1], ['/', 't', 'm', 'p', '/', 'a'], []⟩ .TEXT)).map
          Prod.fst = some [['t', 'm', 'p'], ['a']] := by
  decide

/-! ### Repeated uploads -/

inductive Action
  | upload (request : TcpPacket) (result : ForwardResult)
  /-- A worker of the file service runs a task. -/
  | work (worker : Nat)
  | elapse (duration : Nat)
  /-- Nothing in the servers makes this call. -/
  | setUserMsgId (userId : Nat) (msgId : Int) (expired : Nat)

def step (state : State) : Action → Option State
  | .upload request result => some (upload state request result).1
  | .work worker =>
    (File.Upload.step [] state.fileServer (.work worker)).map fun fileServer =>
      { state with fileServer }
  | .elapse duration => some { state with redis := state.redis.elapse duration }
  | .setUserMsgId userId msgId expired =>
    some { state with redis := setUserMsgId state.redis userId msgId expired }

variable {state next : State} {userId : Nat} {msgId : Int}

theorem getUserMsgId_set_other {redis : Expiring.Store (Nat × Int) Unit} {otherUser : Nat}
    {otherMsg : Int} (different : (userId, msgId) ≠ (otherUser, otherMsg)) (expired : Nat) :
    getUserMsgId (setUserMsgId redis otherUser otherMsg expired) userId msgId =
      getUserMsgId redis userId msgId := by
  rw [getUserMsgId, Expiring.Store.lookup, setUserMsgId, redis.entries_put, if_neg different]
  rfl

theorem getUserMsgId_of_elapse {redis : Expiring.Store (Nat × Int) Unit} {duration : Nat}
    (marked : getUserMsgId (redis.elapse duration) userId msgId = true) :
    getUserMsgId redis userId msgId = true := by
  obtain ⟨entry, found⟩ := isSome_iff_exists.mp marked
  obtain ⟨present, alive⟩ := Expiring.Store.lookup_eq_some.mp found
  have earlier := Expiring.Entry.aliveAt_of_le (Nat.le_add_right redis.now duration) alive
  exact isSome_iff_exists.mpr ⟨entry, Expiring.Store.lookup_eq_some.mpr ⟨present, earlier⟩⟩

theorem upload_redis (state : State) (request : TcpPacket) (result : ForwardResult) :
    (upload state request result).1.redis =
      expireUserMsgId state.redis request.uid request.seq 10 := by
  rw [upload]
  split_ifs with marked
  · rfl
  · rw [expireUserMsgId, if_neg marked]
    split <;> rfl

theorem step_unmarked {action : Action} (unmarked : getUserMsgId state.redis userId msgId = false)
    (unset : ∀ expired, action ≠ .setUserMsgId userId msgId expired)
    (taken : step state action = some next) :
    getUserMsgId next.redis userId msgId = false := by
  cases action with
  | upload request result =>
    obtain rfl := some.inj taken
    rw [upload_redis, expireUserMsgId]
    split_ifs with marked
    · refine (getUserMsgId_set_other (fun same => ?_) 10).trans unmarked
      cases same
      exact Bool.false_ne_true (unmarked.symm.trans marked)
    · exact unmarked
  | work worker =>
    obtain ⟨_, _, rfl⟩ := map_eq_some_iff.mp taken
    exact unmarked
  | elapse duration =>
    obtain rfl := some.inj taken
    exact Bool.eq_false_of_not_eq_true fun marked =>
      Bool.false_ne_true (unmarked.symm.trans (getUserMsgId_of_elapse marked))
  | setUserMsgId otherUser otherMsg expired =>
    obtain rfl := some.inj taken
    refine (getUserMsgId_set_other (fun same => ?_) expired).trans unmarked
    cases same
    exact unset expired rfl

theorem unmarked_of_success {request : TcpPacket} {result : ForwardResult}
    (succeeded : (upload state request result).2.error = .Success) :
    getUserMsgId (upload state request result).1.redis request.uid request.seq = false := by
  rw [upload_redis, expireUserMsgId]
  split_ifs with marked
  · rw [upload, if_pos marked] at succeeded
    cases succeeded
  · exact Bool.eq_false_of_not_eq_true marked

/-- A second upload is answered as a repetition and not passed on exactly if its marker is
there, and it is there only if it was set since the first one. -/
theorem second_upload_repeated_iff {first second : TcpPacket} {result again : ForwardResult}
    {actions : List Action} (same : second.uid = first.uid ∧ second.seq = first.seq)
    (succeeded : (upload state first result).2.error = .Success)
    (taken : run step (upload state first result).1 actions = some next) :
    ((upload next second again).2.error = .RepeatMessage ∧
        (upload next second again).1.fileServer = next.fileServer ↔
      getUserMsgId next.redis second.uid second.seq = true) ∧
    (getUserMsgId next.redis second.uid second.seq = true →
      ∃ expired, .setUserMsgId second.uid second.seq expired ∈ actions) := by
  constructor
  · rw [upload]
    split_ifs with marked
    · exact ⟨fun _ => marked, fun _ => ⟨rfl, rfl⟩⟩
    · refine ⟨fun repeated => ?_, fun found => absurd found marked⟩
      split at repeated
      · cases repeated.1
      · cases again <;> cases repeated.1
  · intro marked
    by_contra unset
    rw [same.1, same.2] at marked unset
    have others : ∀ action ∈ actions, ∀ expired,
        action ≠ .setUserMsgId first.uid first.seq expired := by
      rintro _ member expired rfl
      exact unset ⟨expired, member⟩
    have kept := run_invariant_along
      (fun state => getUserMsgId state.redis first.uid first.seq = false) _
      (fun _ _ _ => step_unmarked) (unmarked_of_success succeeded)
      (along_of_forall others) taken
    exact Bool.false_ne_true (kept.symm.trans marked)

def byteUpload : TcpPacket := ⟨1, 7, [1], ['a'], ['T', 'E', 'X', 'T']⟩

def stateAfter (actions : List Action) : State :=
  (run step { fileServer := { workerSize := 1 } } actions).getD
    { fileServer := { workerSize := 1 } }

theorem second_upload_repeated_iff_marked :
    (upload (stateAfter [.upload byteUpload .ok, .setUserMsgId 7 1 10, .elapse 9000])
      byteUpload .ok).2.error = .RepeatMessage :=
  ((second_upload_repeated_iff ⟨rfl, rfl⟩ rfl
    (rfl : run step _ [.setUserMsgId 7 1 10, .elapse 9000] = some _)).1.mpr
      (by decide)).1

/-- Both uploads succeed, one millisecond apart, and the byte is in the file twice. -/
theorem repeated_upload_appends :
    (upload (stateAfter [.upload byteUpload .ok, .elapse 1]) byteUpload .ok).2.error = .Success ∧
      (stateAfter [.upload byteUpload .ok, .elapse 1, .upload byteUpload .ok, .work 0,
        .work 0]).fileServer.files (saveFilePath [] 7 ['a']) = [1, 1] := by
  decide

end Wimi.Server.FileService
