/-
This file models the applications a client shows: the list of friend and group
applications in memory, the model behind the view, the table `requests`, and the
reply that `resolveRequest` sends for an entry.

The table is replaced as a whole in one transaction, under its primary key: two
entries with one id make the transaction fail, and the old rows stay.
-/

import Wimi.Lib.Decimal

namespace Wimi.Client

inductive RequestKind where
  | friend
  | group
deriving DecidableEq, Repr

inductive RequestStatus where
  | pending
  | accepting
  | declining
  | accepted
  | declined
deriving DecidableEq, Repr

structure RequestRecord where
  requestId : String
  displayName : String
  message : String
  avatarColor : String
  kind : RequestKind
  status : RequestStatus
deriving DecidableEq, Repr

inductive ReplySent where
  | friendRequest (userId : Int) (accept : Bool)
  | joinGroup (groupId userId : Int) (accept : Bool)
deriving DecidableEq, Repr

def toLongLong (text : List Char) : Option Int :=
  (Decimal.parseInt text).filter fun value => -2 ^ 63 ≤ value ∧ value < 2 ^ 63

theorem toLongLong_toString {value : Int} (lower : -2 ^ 63 ≤ value) (upper : value < 2 ^ 63) :
    toLongLong (toString value).toList = some value := by
  rw [toLongLong, Decimal.parseInt_toString, Option.filter_some, if_pos]
  exact decide_eq_true ⟨lower, upper⟩

/-- The snapshot, the model behind the view (which alone shows that a reply is on its way), the
table, and the entries whose reply is on its way, by request id. -/
structure RequestDesk where
  snapshot : List RequestRecord := []
  model : List RequestRecord := []
  table : List RequestRecord := []
  friendReplyRequests : String → Option Int := fun _ => none

/-- `ReplaceRequests`: the rows of the table afterwards, or `none` when the transaction is rolled
back on the primary key. -/
def replaceRequests (requests : List RequestRecord) : Option (List RequestRecord) :=
  if (requests.map RequestRecord.requestId).Nodup then some requests else none

namespace RequestDesk

variable (desk : RequestDesk)

/-- The list is shown and written; whether it could be written is not looked at. `written` is
false when the database does not take the transaction for another reason. -/
def setRequests (requests : List RequestRecord) (written : Bool) : RequestDesk :=
  { desk with
    snapshot := requests
    model := requests
    table := if written then (replaceRequests requests).getD desk.table else desk.table }

def setStatus (index : Nat) (status : RequestStatus) : RequestDesk :=
  { desk with model := desk.model.modify index fun record => { record with status } }

def replyFor (record : RequestRecord) (accepted : Bool) : Option ReplySent :=
  match record.kind with
  | .group =>
    match record.requestId.toList.splitOn ':' with
    | [_, group, user] =>
      match toLongLong group, toLongLong user with
      | some groupId, some userId => some (.joinGroup groupId userId accepted)
      | _, _ => none
    | _ => none
  | .friend =>
    match toLongLong record.requestId.toList with
    | some userId => if userId ≤ 0 then none else some (.friendRequest userId accepted)
    | none => none

def resolveRequest (index : Nat) (accepted : Bool) (requestId : String) :
    RequestDesk × Option ReplySent :=
  match desk.model[index]? with
  | none => (desk, none)
  | some record =>
    if record.status ≠ .pending then (desk, none)
    else
      match replyFor record accepted with
      | none => (desk, none)
      | some reply =>
        ({ desk with
            friendReplyRequests := Function.update desk.friendReplyRequests requestId
              (some (if accepted then (index : Int) + 1 else -((index : Int) + 1))) }.setStatus
            index (if accepted then .accepting else .declining), some reply)

end RequestDesk

end Wimi.Client
