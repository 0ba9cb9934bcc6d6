/-
This file has the constants the services share: the error codes of the modelled
paths under the numbers that go over the wire, and the service ids.
-/

import Mathlib

namespace Wimi

inductive ErrorCode where
  | success
  | jsonParser
  | rpcFailed
  | userNotFriend
  | notFound
  | repeatMessage
  | mysqlFailed
  | fileTypeError
  | groupNotExists
  | groupNotifyFailed
  | authenticationRequired
  | messageOwnershipInvalid
  | deadlineExceeded
  | resourceExhausted
  | dependencyUnavailable
  | idempotencyConflict
deriving DecidableEq, Repr

def ErrorCode.code : ErrorCode → Int
  | .success => 0
  | .jsonParser => 1000
  | .rpcFailed => 1001
  | .userNotFriend => 1012
  | .notFound => 1015
  | .repeatMessage => 1016
  | .mysqlFailed => 1017
  | .fileTypeError => 1018
  | .groupNotExists => 1021
  | .groupNotifyFailed => 1022
  | .authenticationRequired => 1024
  | .messageOwnershipInvalid => 1025
  | .deadlineExceeded => 1026
  | .resourceExhausted => 1027
  | .dependencyUnavailable => 1028
  | .idempotencyConflict => 1029

def isRetryableError : ErrorCode → Bool
  | .rpcFailed => true
  | .mysqlFailed => true
  | .deadlineExceeded => true
  | .resourceExhausted => true
  | .dependencyUnavailable => true
  | _ => false

/-- `isRetryableError` of an arbitrary number: `RPCFailed`, `MysqlFailed`, `InternalError`,
`DeadlineExceeded`, `ResourceExhausted` and `DependencyUnavailable`. -/
def isRetryableCode (code : Int) : Bool :=
  code = 1001 ∨ code = 1017 ∨ code = 1019 ∨ code = 1026 ∨ code = 1027 ∨ code = 1028

theorem isRetryableCode_code (error : ErrorCode) :
    isRetryableCode error.code = isRetryableError error := by
  cases error <;> rfl

namespace ServiceId

def pullFriendListReq : UInt32 := 1001

def pullFriendApplyListReq : UInt32 := 1003

def pullSessionMessageListReq : UInt32 := 1005

def pullMessageListReq : UInt32 := 1007

def textSendReq : UInt32 := 1027

def ack : UInt32 := 1033

def groupTextSendReq : UInt32 := 1043

end ServiceId

def getServiceResponseId (serviceId : UInt32) : UInt32 := serviceId + 1

end Wimi
