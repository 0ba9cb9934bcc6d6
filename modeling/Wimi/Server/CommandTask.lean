/-
This file models the task that `HandleCommand` posts to the worker pool: the
deadline of the command once more, the lease check, and the business handler.

The task turns what is left of the deadline into a `RequestContext` on the steady
clock and asks the context whether it has expired. The three readings of the clocks
are inputs. What the handlers do to the database is a parameter; the outcome of a
task says which handler was called, so that "no handler is run" is a statement
about the outcome.
-/

import Wimi.Server.GatewayStream

namespace Wimi.Server

open Gateway (CommandEnvelope CommandResult)

/-! ### The context of a request -/

/-- `Deadline::max()`: the last reading of the steady clock, in nanoseconds. -/
def deadlineMax : Int := 2 ^ 63 - 1

/-- The deadline that `RequestContext::WithTimeout` sets at a reading of the steady clock. A
timeout below one millisecond counts as one millisecond. -/
def withTimeout (steadyNow : Int) (timeoutMs : Int) : Int :=
  steadyNow + max timeoutMs 1 * 1000000

def expired (deadline steadyNow : Int) : Bool :=
  deadline ≠ deadlineMax ∧ deadline ≤ steadyNow

structure ClockReadings where
  startUnixMs : Int
  steadyMade : Int
  steadyAsked : Int
  monotone : steadyMade ≤ steadyAsked
  running : steadyAsked < deadlineMax

/-! ### The task -/

/-- The business layer: packets and their codec, and the handlers with their effect on the
database. -/
structure Business (Packet Database : Type) where
  parseTcpPacket : String → Option Packet
  setUid : Packet → Int → Packet
  serializeTcpPacket : Packet → String
  tcpPacketError : Packet → Int
  retryable : Packet → Bool
  acceptText : Packet → Database → Database × Packet
  acceptGroupText : Packet → Database → Database × Packet
  executeGatewayCommand : UInt32 → Int → Packet → Database → Database × Packet

inductive BusinessCall (Packet : Type) where
  | acceptText (packet : Packet)
  | acceptGroupText (packet : Packet)
  | executeGatewayCommand (serviceId : UInt32) (actorUid : Int) (packet : Packet)
deriving DecidableEq, Repr

structure TaskOutcome (Packet Database : Type) where
  database : Database
  call : Option (BusinessCall Packet)
  result : CommandResult

section

variable {Packet Database : Type} (business : Business Packet Database)

def handlerResult (command : CommandEnvelope) (response : Packet) (retryable : Bool) :
    CommandResult where
  requestId := command.requestId
  responseServiceId := getServiceResponseId command.serviceId
  error := business.tcpPacketError response
  retryable := retryable
  packet := .serialized (business.serializeTcpPacket response)

def dispatch (command : CommandEnvelope) (packet : Packet) (database : Database) :
    TaskOutcome Packet Database :=
  if command.serviceId = ServiceId.textSendReq then
    let (after, response) := business.acceptText packet database
    { database := after
      call := some (.acceptText packet)
      result := handlerResult business command response (business.retryable response) }
  else if command.serviceId = ServiceId.groupTextSendReq then
    let (after, response) := business.acceptGroupText packet database
    { database := after
      call := some (.acceptGroupText packet)
      result := handlerResult business command response (business.retryable response) }
  else
    let (after, response) :=
      business.executeGatewayCommand command.serviceId command.actorUid packet database
    { database := after
      call := some (.executeGatewayCommand command.serviceId command.actorUid packet)
      result := handlerResult business command response
        (isRetryableCode (business.tcpPacketError response)) }

def refuse (command : CommandEnvelope) (error : ErrorCode) (message : String)
    (database : Database) : TaskOutcome Packet Database where
  database := database
  call := none
  result := errorResult command error (isRetryableError error) message

def expiredMessage : String := "command expired while waiting for a message worker"

/-- The task of `HandleCommand` with the lease that Redis holds for the actor. -/
def runTask (task : CommandTask) (clock : ClockReadings) (actorLease : SessionLease)
    (database : Database) : TaskOutcome Packet Database :=
  let command := task.command
  let remaining := command.deadlineUnixMs - clock.startUnixMs
  let deadline := withTimeout clock.steadyMade remaining
  if expired deadline clock.steadyAsked then
    refuse command .deadlineExceeded expiredMessage database
  else if leaseCurrent actorLease
      { originGatewayId := task.originGatewayId
        originInstanceId := task.originInstanceId
        connectionId := command.connectionId
        connectionGeneration := command.connectionGeneration } = false then
    refuse command .authenticationRequired "connection generation is no longer current" database
  else
    match business.parseTcpPacket command.packet with
    | none => refuse command .jsonParser "" database
    | some packet =>
      dispatch business command (business.setUid packet command.actorUid) database

/-! ### The deadline -/

theorem expired_of_late {command : CommandEnvelope} {clock : ClockReadings}
    (late : command.deadlineUnixMs ≤ clock.startUnixMs) :
    expired (withTimeout clock.steadyMade (command.deadlineUnixMs - clock.startUnixMs))
        clock.steadyAsked = true ↔
      clock.steadyMade + 1000000 ≤ clock.steadyAsked := by
  have running := clock.running
  rw [expired, withTimeout, decide_eq_true_eq]
  omega

theorem dispatch_call (command : CommandEnvelope) (packet : Packet) (database : Database) :
    (dispatch business command packet database).call ≠ none := by
  unfold dispatch
  split_ifs <;> nofun

/-- A task that starts at or after its deadline is refused as expired exactly if a millisecond
passes between the making of its context and the question. -/
theorem late_task_refused_iff (task : CommandTask) (clock : ClockReadings)
    (actorLease : SessionLease) (database : Database)
    (late : task.command.deadlineUnixMs ≤ clock.startUnixMs) :
    ((runTask business task clock actorLease database).call = none ∧
        (runTask business task clock actorLease database).database = database ∧
        (runTask business task clock actorLease database).result =
          errorResult task.command .deadlineExceeded true expiredMessage) ↔
      clock.steadyMade + 1000000 ≤ clock.steadyAsked := by
  rw [← expired_of_late late]
  unfold runTask
  dsimp only
  split_ifs with passed stale
  · exact ⟨fun _ => passed, fun _ => ⟨rfl, rfl, rfl⟩⟩
  · refine ⟨fun refused => ?_, fun passed' => absurd passed' passed⟩
    have error : ErrorCode.authenticationRequired.code = ErrorCode.deadlineExceeded.code :=
      congrArg CommandResult.error refused.2.2
    exact absurd error (by decide)
  · refine ⟨fun refused => ?_, fun passed' => absurd passed' passed⟩
    split at refused
    · have error : ErrorCode.jsonParser.code = ErrorCode.deadlineExceeded.code :=
        congrArg CommandResult.error refused.2.2
      exact absurd error (by decide)
    · exact absurd refused.1 (dispatch_call business _ _ _)

end

def recordingBusiness : Business String (List String) where
  parseTcpPacket bytes := some bytes
  setUid packet uid := toString uid ++ packet
  serializeTcpPacket packet := packet
  tcpPacketError _ := 0
  retryable _ := false
  acceptText packet database := (database ++ [packet], "ok")
  acceptGroupText packet database := (database ++ [packet], "ok")
  executeGatewayCommand _ _ packet database := (database ++ [packet], "ok")

def sampleTask : CommandTask := ⟨"g", "i", 0, sampleCommand⟩

def slowWorker : ClockReadings := ⟨5000, 0, 2000000, by decide, by decide⟩

def promptWorker : ClockReadings := ⟨5000, 0, 1000, by decide, by decide⟩

theorem late_task_refused_slow :
    sampleTask.command.deadlineUnixMs ≤ slowWorker.startUnixMs ∧
      (runTask recordingBusiness sampleTask slowWorker ⟨"g", "i", "c", 1⟩ []).call = none :=
  ⟨by decide, ((late_task_refused_iff recordingBusiness sampleTask slowWorker ⟨"g", "i", "c", 1⟩ []
    (by decide)).mpr (by decide)).1⟩

/-- The command was read in time and its deadline passed four seconds before the worker started;
the handler runs and writes to the database. -/
theorem late_task_runs_handler :
    (streamsAfter true [.connect "g", .readRegister 0 { gatewayId := "g", instanceId := "i" },
        .readCommand 0 sampleCommand 0 true]).tasks = [sampleTask] ∧
      sampleTask.command.deadlineUnixMs + 4000 ≤ promptWorker.startUnixMs ∧
      (runTask recordingBusiness sampleTask promptWorker ⟨"g", "i", "c", 1⟩ []).call =
        some (.acceptText "1p") ∧
      (runTask recordingBusiness sampleTask promptWorker ⟨"g", "i", "c", 1⟩ []).database =
        ["1p"] := by
  decide +kernel

end Wimi.Server
