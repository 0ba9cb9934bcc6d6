/-
This file models when `ConnectionGatewayClient` opens its socket again.

The client wants its connection open from a call of `Open` until it is closed, the
credentials have expired, or the gateway refuses the login or confirms the end. As long
as it does, a socket without a connection has to be on its way back: the reconnect timer
runs. Only the slot of `disconnected` starts that timer, and a socket that never got its
connection does not emit this signal. So the first attempt that fails is the last one,
and the growing delays between attempts are never used.

A read may bring several frames, and the loop over them does not stop when a frame has
ended the connection. A frame behind it that makes the client give up then leaves the
reconnect timer running.

The events are those of the socket, the timers and the application. What the slots of
the client's own signals do is not part of the file: none of them opens or closes it.
-/

import Mathlib
import Wimi.Lib.Transition

namespace Wimi.Client.Reconnect

open List Option Transition

/-! ### The client -/

inductive ClientState where
  | disconnected
  | connecting
  | authenticating
  | ready
  | reconnecting
  | closing
deriving DecidableEq, Repr

/-- The states of the socket, without the difference between looking a host up and connecting
to it. -/
inductive SocketState where
  | unconnected
  | connecting
  | connected
  | closing
deriving DecidableEq, Repr

def SocketState.Established (socket : SocketState) : Prop :=
  socket = .connected ∨ socket = .closing

instance (socket : SocketState) : Decidable socket.Established :=
  inferInstanceAs (Decidable (_ ∨ _))

/-- The socket with its wish to close once it is connected, the timer of the next attempt with
its interval, and how many timers of `Close` are still to run out. -/
structure GatewayClient where
  state : ClientState := .disconnected
  desiredOpen : Bool := false
  socket : SocketState := .unconnected
  pendingClose : Bool := false
  reconnectTimer : Option Nat := none
  reconnectAttempt : Nat := 0
  tokenExpiresAt : Int := 0
  closeTimers : Nat := 0
deriving DecidableEq, Repr

structure Moment where
  milliseconds : Int
  random : Nat := 0
deriving DecidableEq, Repr

/-- A frame with the error code of its packet, if the packet can be parsed. A socket that is told
to disconnect does so at once when everything has been written. -/
structure Frame where
  serviceId : UInt32
  packet : Option Int
  flushed : Bool := false
deriving DecidableEq, Repr

def reconnectBaseMilliseconds : Nat := 200

def reconnectMaximumMilliseconds : Nat := 10000

def reconnectBase (attempt : Nat) : Nat :=
  min reconnectMaximumMilliseconds (reconnectBaseMilliseconds * 2 ^ min attempt 6)

def reconnectDelay (attempt random : Nat) : Nat :=
  min reconnectMaximumMilliseconds
    (reconnectBase attempt + random % (reconnectBase attempt / 4 + 1))

namespace GatewayClient

def Expired (client : GatewayClient) (moment : Moment) : Prop :=
  0 < client.tokenExpiresAt ∧ client.tokenExpiresAt ≤ moment.milliseconds

instance (client : GatewayClient) (moment : Moment) : Decidable (client.Expired moment) :=
  inferInstanceAs (Decidable (_ ∧ _))

def scheduleReconnect (client : GatewayClient) (moment : Moment) : GatewayClient :=
  if client.Expired moment then { client with desiredOpen := false, state := .disconnected }
  else
    { client with
      state := .reconnecting
      reconnectAttempt := client.reconnectAttempt + 1
      reconnectTimer := some (reconnectDelay client.reconnectAttempt moment.random) }

def disconnected (client : GatewayClient) (moment : Moment) : GatewayClient :=
  let lost := { client with socket := .unconnected }
  if lost.desiredOpen ∧ lost.state ≠ .closing then lost.scheduleReconnect moment
  else { lost with state := .disconnected }

/-- `QAbstractSocket::abort`: only a socket that had its connection emits `disconnected`. -/
def abort (client : GatewayClient) (moment : Moment) : GatewayClient :=
  match client.socket with
  | .unconnected => client
  | .connecting => { client with socket := .unconnected }
  | .connected | .closing => client.disconnected moment

def disconnectFromHost (client : GatewayClient) (flushed : Bool) (moment : Moment) :
    GatewayClient :=
  match client.socket with
  | .unconnected => client
  | .connecting => { client with pendingClose := true }
  | .connected | .closing =>
    if flushed then client.disconnected moment else { client with socket := .closing }

/-- `QAbstractSocket::connectToHost`, which refuses a socket that is in use. -/
def connectToHost (client : GatewayClient) : GatewayClient :=
  if client.socket = .unconnected then
    { client with socket := .connecting, pendingClose := false }
  else client

def startSocket (client : GatewayClient) : GatewayClient :=
  if client.desiredOpen then
    { client with
      state := if client.reconnectAttempt = 0 then .connecting else .reconnecting }.connectToHost
  else client

def openSession (client : GatewayClient) (tokenExpiresInSeconds : Int) (moment : Moment) :
    GatewayClient :=
  { { client with desiredOpen := false }.abort moment with
    tokenExpiresAt := moment.milliseconds + max 0 tokenExpiresInSeconds * 1000
    reconnectAttempt := 0
    reconnectTimer := none
    desiredOpen := true }.startSocket

def close (client : GatewayClient) : GatewayClient :=
  let stopped := { client with desiredOpen := false, reconnectTimer := none }
  if stopped.socket = .unconnected then { stopped with state := .disconnected }
  else { stopped with state := .closing, closeTimers := stopped.closeTimers + 1 }

/-- The slot of `connected`; a socket that was told to disconnect before does so behind it. -/
def connected (client : GatewayClient) (flushed : Bool) (moment : Moment) : GatewayClient :=
  let established :=
    { client with socket := .connected, reconnectAttempt := 0, state := .authenticating }
  if established.pendingClose then
    { established with pendingClose := false }.disconnectFromHost flushed moment
  else established

def handleLoginResponse (client : GatewayClient) (frame : Frame) (moment : Moment) :
    GatewayClient :=
  match frame.packet with
  | none => { client with desiredOpen := false }.abort moment
  | some errorCode =>
    if errorCode = 0 then { client with state := .ready }
    else { client with desiredOpen := false }.disconnectFromHost frame.flushed moment

/-- `ConnectionGatewayClient::HandleFrame`: login, ping and quit come before the packet is
parsed. -/
def handleFrame (moment : Moment) (client : GatewayClient) (frame : Frame) : GatewayClient :=
  if frame.serviceId = 1014 then client.handleLoginResponse frame moment
  else if frame.serviceId = 1012 then client
  else if frame.serviceId = 1016 then
    { client with desiredOpen := false }.disconnectFromHost frame.flushed moment
  else
    match frame.packet with
    | none => client.abort moment
    | some _ => client

end GatewayClient

open GatewayClient

inductive Event where
  | openSession (tokenExpiresInSeconds : Int) (moment : Moment)
  | close
  | connected (flushed : Bool) (moment : Moment)
  | connectFailed
  | disconnected (moment : Moment)
  | readyRead (frames : List Frame) (moment : Moment)
  | codecError (moment : Moment)
  | reconnectTimeout
  | closeTimeout (flushed : Bool) (moment : Moment)
deriving DecidableEq, Repr

/-- `connectFailed` is `errorOccurred` for a socket without a connection; its slot changes
nothing of the client. -/
def step (client : GatewayClient) (event : Event) : Option GatewayClient :=
  match event with
  | .openSession tokenExpiresInSeconds moment =>
    some (client.openSession tokenExpiresInSeconds moment)
  | .close => some client.close
  | .connected flushed moment =>
    if client.socket = .connecting then some (client.connected flushed moment) else none
  | .connectFailed =>
    if client.socket = .connecting then some { client with socket := .unconnected } else none
  | .disconnected moment =>
    if client.socket.Established then some (client.disconnected moment) else none
  | .readyRead frames moment =>
    if client.socket.Established then
      some (frames.foldl (handleFrame moment) client)
    else none
  | .codecError moment =>
    if client.socket.Established then some (client.abort moment) else none
  | .reconnectTimeout =>
    if client.reconnectTimer.isSome then some { client with reconnectTimer := none }.startSocket
    else none
  | .closeTimeout flushed moment =>
    if 0 < client.closeTimers then
      let elapsed := { client with closeTimers := client.closeTimers - 1 }
      some (if elapsed.state = .closing then elapsed.disconnectFromHost flushed moment else elapsed)
    else none

/-! ### A client on its way back -/

/-- A client that wants its connection and has none waits for the reconnect timer, and the timer
does not run for a client that does not want it. -/
structure Steady (client : GatewayClient) : Prop where
  returns : client.socket = .unconnected → client.desiredOpen → client.reconnectTimer.isSome
  quiet : client.desiredOpen = false → client.reconnectTimer = none

def Frame.GivesUp (frame : Frame) : Prop :=
  frame.serviceId = 1014 ∧ frame.packet ≠ some 0 ∨ frame.serviceId = 1016

instance (frame : Frame) : Decidable frame.GivesUp :=
  inferInstanceAs (Decidable (_ ∨ _))

def Frame.Unreadable (frame : Frame) : Prop :=
  frame.serviceId ≠ 1014 ∧ frame.serviceId ≠ 1012 ∧ frame.serviceId ≠ 1016 ∧ frame.packet = none

instance (frame : Frame) : Decidable frame.Unreadable :=
  inferInstanceAs (Decidable (_ ∧ _))

/-- When the client gives up within these frames, all frames before that can be read. -/
def ReadableFirst (frames : List Frame) : Prop :=
  (∃ frame ∈ frames, frame.GivesUp) →
    ∀ frame ∈ frames.takeWhile fun frame => ¬ frame.GivesUp, ¬ frame.Unreadable

instance (frames : List Frame) : Decidable (ReadableFirst frames) :=
  inferInstanceAs (Decidable (_ → _))

/-- No attempt to connect fails for a client that wants its connection, and a read that ends such
a connection by a packet that cannot be parsed does not also let the client give up behind it,
unless the token has expired. -/
def KeepsReturning (client : GatewayClient) : Event → Prop
  | .connectFailed => client.desiredOpen = false
  | .readyRead frames moment =>
    client.desiredOpen → ¬ client.Expired moment → ReadableFirst frames
  | _ => True

instance (client : GatewayClient) : (event : Event) → Decidable (KeepsReturning client event)
  | .connectFailed => inferInstanceAs (Decidable (client.desiredOpen = false))
  | .readyRead frames moment => inferInstanceAs
      (Decidable (client.desiredOpen → ¬ client.Expired moment → ReadableFirst frames))
  | .openSession _ _ | .close | .connected _ _ | .disconnected _ | .codecError _
  | .reconnectTimeout | .closeTimeout _ _ => inferInstanceAs (Decidable True)

/-! ### What every client keeps -/

structure Sound (client : GatewayClient) : Prop where
  wanted : client.desiredOpen → client.state ≠ .closing
  waiting : client.reconnectTimer.isSome → client.socket = .unconnected
  attempts : client.reconnectAttempt ≤ 1
  reset : client.socket.Established → client.reconnectAttempt = 0

section Functions

variable {client : GatewayClient} {moment : Moment} {flushed : Bool} {frame : Frame}

theorem not_established_unconnected : ¬ SocketState.unconnected.Established := by
  decide

theorem not_established_connecting : ¬ SocketState.connecting.Established := by
  decide

theorem reconnecting_ne_closing : ClientState.reconnecting ≠ .closing := by
  decide

theorem Sound.timer_none (sound : Sound client) (used : client.socket ≠ .unconnected) :
    client.reconnectTimer = none := by
  by_contra runs
  exact used (sound.waiting (ne_none_iff_isSome.mp runs))

theorem used_of_established (established : client.socket.Established) :
    client.socket ≠ .unconnected := fun unconnected =>
  not_established_unconnected (unconnected ▸ established)

theorem Sound.timer_none_of_established (sound : Sound client)
    (established : client.socket.Established) : client.reconnectTimer = none :=
  sound.timer_none (used_of_established established)

theorem Sound.setDesired (sound : Sound client) :
    Sound { client with desiredOpen := false } where
  wanted := fun wanted => absurd wanted Bool.false_ne_true
  waiting := sound.waiting
  attempts := sound.attempts
  reset := sound.reset

theorem disconnected_of_returns (wanted : client.desiredOpen) (state : client.state ≠ .closing)
    (valid : ¬ client.Expired moment) :
    client.disconnected moment =
      { client with
        socket := .unconnected
        state := .reconnecting
        reconnectAttempt := client.reconnectAttempt + 1
        reconnectTimer := some (reconnectDelay client.reconnectAttempt moment.random) } := by
  simp only [disconnected]
  rw [if_pos ⟨wanted, state⟩]
  exact if_neg valid

theorem disconnected_of_expired (wanted : client.desiredOpen) (state : client.state ≠ .closing)
    (expired : client.Expired moment) :
    client.disconnected moment =
      { client with socket := .unconnected, desiredOpen := false, state := .disconnected } := by
  simp only [disconnected]
  rw [if_pos ⟨wanted, state⟩]
  exact if_pos expired

theorem disconnected_of_unwanted (unwanted : client.desiredOpen = false) :
    client.disconnected moment =
      { client with socket := .unconnected, state := .disconnected } := by
  exact if_neg fun both => absurd (unwanted.symm.trans both.1) Bool.false_ne_true

/-- The client rests or waits for its timer when its connection is lost. -/
theorem Sound.lost (sound : Sound client) (established : client.socket.Established) :
    Sound (client.disconnected moment) ∧ Steady (client.disconnected moment) := by
  have stopped : client.reconnectTimer = none := sound.timer_none_of_established established
  cases wanted : client.desiredOpen with
  | false =>
    rw [disconnected_of_unwanted wanted]
    have unwanted : client.desiredOpen ≠ true := wanted ▸ Bool.false_ne_true
    exact ⟨⟨fun wrong => absurd wrong unwanted, fun _ => rfl, sound.attempts,
      fun wrong => absurd wrong not_established_unconnected⟩,
      fun _ wrong => absurd wrong unwanted, fun _ => stopped⟩
  | true =>
    by_cases expired : client.Expired moment
    · rw [disconnected_of_expired wanted (sound.wanted wanted) expired]
      exact ⟨⟨fun wrong => absurd wrong Bool.false_ne_true, fun _ => rfl, sound.attempts,
        fun wrong => absurd wrong not_established_unconnected⟩,
        fun _ wrong => absurd wrong Bool.false_ne_true, fun _ => stopped⟩
    rw [disconnected_of_returns wanted (sound.wanted wanted) expired]
    refine ⟨⟨fun _ => reconnecting_ne_closing, fun _ => rfl, ?_,
      fun wrong => absurd wrong not_established_unconnected⟩,
      fun _ _ => rfl, fun wrong => absurd (wrong.symm.trans wanted) Bool.false_ne_true⟩
    exact (congrArg Nat.succ (sound.reset established)).le

theorem abort_eq_disconnected (established : client.socket.Established) :
    client.abort moment = client.disconnected moment := by
  unfold abort
  rcases established with connected | closing
  · rw [connected]
  · rw [closing]

theorem abort_of_unconnected (unconnected : client.socket = .unconnected) :
    client.abort moment = client := by
  unfold abort
  rw [unconnected]

theorem disconnected_socket : (client.disconnected moment).socket = .unconnected := by
  simp only [disconnected, scheduleReconnect]
  split
  · split <;> rfl
  · rfl

/-- What `abort` leaves, by the state of the socket. -/
theorem abort_rule {motive : GatewayClient → Prop}
    (unconnected : client.socket = .unconnected → motive client)
    (connecting : motive { client with socket := .unconnected })
    (lost : client.socket.Established → motive (client.disconnected moment)) :
    motive (client.abort moment) := by
  unfold abort
  split
  · exact unconnected ‹_›
  · exact connecting
  · exact lost (.inl ‹_›)
  · exact lost (.inr ‹_›)

theorem abort_socket : (client.abort moment).socket = .unconnected :=
  abort_rule (motive := fun after => after.socket = .unconnected) id rfl
    fun _ => disconnected_socket

/-- What `disconnectFromHost` leaves, by the state of the socket. -/
theorem disconnectFromHost_rule {motive : GatewayClient → Prop}
    (unconnected : client.socket = .unconnected → motive client)
    (connecting : client.socket = .connecting → motive { client with pendingClose := true })
    (lost : client.socket.Established → motive (client.disconnected moment))
    (closing : client.socket.Established → motive { client with socket := .closing }) :
    motive (client.disconnectFromHost flushed moment) := by
  unfold disconnectFromHost
  split
  · exact unconnected ‹_›
  · exact connecting ‹_›
  · split
    · exact lost (.inl ‹_›)
    · exact closing (.inl ‹_›)
  · split
    · exact lost (.inr ‹_›)
    · exact closing (.inr ‹_›)

theorem Sound.abort (sound : Sound client) : Sound (client.abort moment) :=
  abort_rule (fun _ => sound)
    ⟨sound.wanted, fun _ => rfl, sound.attempts,
      fun wrong => absurd wrong not_established_unconnected⟩
    fun established => (sound.lost established).1

theorem Sound.beginClosing (sound : Sound client) (established : client.socket.Established) :
    Sound { client with socket := .closing } := by
  refine ⟨sound.wanted, fun runs => ?_, sound.attempts, fun _ => sound.reset established⟩
  exact absurd (sound.waiting runs) (used_of_established established)

theorem Sound.disconnectFromHost (sound : Sound client) :
    Sound (client.disconnectFromHost flushed moment) :=
  disconnectFromHost_rule (fun _ => sound) (fun _ => { sound with })
    (fun established => (sound.lost established).1) sound.beginClosing

theorem steady_of_used (used : client.socket ≠ .unconnected)
    (stopped : client.reconnectTimer = none) : Steady client :=
  ⟨fun unconnected => absurd unconnected used, fun _ => stopped⟩

theorem Sound.steady_disconnectFromHost (sound : Sound client)
    (rests : client.socket = .unconnected → Steady client) :
    Steady (client.disconnectFromHost flushed moment) := by
  refine disconnectFromHost_rule rests (fun connecting => ?_)
    (fun established => (sound.lost established).2) fun established => ?_
  · have used : client.socket ≠ .unconnected := by simp [connecting]
    exact steady_of_used used (sound.timer_none used)
  · exact steady_of_used (fun wrong => by cases wrong)
      (sound.timer_none_of_established established)

theorem startSocket_of_desired (wanted : client.desiredOpen)
    (unconnected : client.socket = .unconnected) :
    client.startSocket =
      { client with
        state := if client.reconnectAttempt = 0 then .connecting else .reconnecting
        socket := .connecting
        pendingClose := false } := by
  simp [startSocket, connectToHost, wanted, unconnected]

theorem started (wanted : client.desiredOpen) (unconnected : client.socket = .unconnected)
    (stopped : client.reconnectTimer = none) (attempts : client.reconnectAttempt ≤ 1) :
    Sound client.startSocket ∧ Steady client.startSocket := by
  rw [startSocket_of_desired wanted unconnected]
  refine ⟨⟨fun _ => ?_, fun runs => ?_, attempts,
    fun wrong => absurd wrong not_established_connecting⟩,
    steady_of_used (fun wrong => by cases wrong) stopped⟩
  · split <;> exact fun wrong => by cases wrong
  · simp [stopped] at runs

theorem openSession_started (tokenExpiresInSeconds : Int) :
    Sound (client.openSession tokenExpiresInSeconds moment) ∧
      Steady (client.openSession tokenExpiresInSeconds moment) :=
  started rfl abort_socket rfl zero_le_one

theorem Sound.close (sound : Sound client) : Sound client.close := by
  simp only [GatewayClient.close]
  split
  · exact ⟨fun wanted => absurd wanted Bool.false_ne_true,
      fun runs => absurd runs Bool.false_ne_true, sound.attempts, sound.reset⟩
  · exact ⟨fun wanted => absurd wanted Bool.false_ne_true,
      fun runs => absurd runs Bool.false_ne_true, sound.attempts, sound.reset⟩

theorem steady_close : Steady client.close := by
  simp only [close]
  split
  · exact ⟨fun _ wanted => absurd wanted Bool.false_ne_true, fun _ => rfl⟩
  · exact ⟨fun _ wanted => absurd wanted Bool.false_ne_true, fun _ => rfl⟩

theorem Sound.connected (sound : Sound client) (connecting : client.socket = .connecting) :
    Sound (client.connected flushed moment) ∧ Steady (client.connected flushed moment) := by
  have stopped : client.reconnectTimer = none := sound.timer_none (by simp [connecting])
  simp only [GatewayClient.connected]
  split
  · have established : Sound
        { client with
          socket := .connected, reconnectAttempt := 0, state := .authenticating
          pendingClose := false } :=
      ⟨fun _ wrong => (by cases wrong), fun runs => (by simp [stopped] at runs), zero_le_one,
        fun _ => rfl⟩
    exact ⟨established.disconnectFromHost,
      established.steady_disconnectFromHost fun wrong => by cases wrong⟩
  · refine ⟨⟨fun _ wrong => (by cases wrong), fun runs => (by simp [stopped] at runs), zero_le_one,
      fun _ => rfl⟩, steady_of_used (fun wrong => by cases wrong) stopped⟩

theorem Sound.handleFrame (sound : Sound client) :
    Sound (GatewayClient.handleFrame moment client frame) := by
  unfold GatewayClient.handleFrame GatewayClient.handleLoginResponse
  split
  · split
    · exact sound.setDesired.abort
    split
    · exact ⟨fun _ wrong => (by cases wrong), sound.waiting, sound.attempts, sound.reset⟩
    · exact sound.setDesired.disconnectFromHost
  split
  · exact sound
  split
  · exact sound.setDesired.disconnectFromHost
  split
  · exact sound.abort
  · exact sound

end Functions

theorem Sound.handleFrames {client : GatewayClient} {moment : Moment} (sound : Sound client)
    (frames : List Frame) : Sound (frames.foldl (GatewayClient.handleFrame moment) client) := by
  induction frames generalizing client with
  | nil => exact sound
  | cons frame rest inductionHypothesis => exact inductionHypothesis sound.handleFrame

/-! ### The frames of one read -/

structure GivenUp (client next : GatewayClient) : Prop where
  unwanted : next.desiredOpen = false
  timer : next.reconnectTimer = client.reconnectTimer
  socket : client.socket = .unconnected → next.socket = .unconnected

variable {next : GatewayClient} {rest : List Frame}

section Read

variable {client : GatewayClient} {moment : Moment}

theorem GivenUp.trans {middle : GatewayClient} (first : GivenUp client middle)
    (second : GivenUp middle next) : GivenUp client next :=
  ⟨second.unwanted, second.timer.trans first.timer,
    fun unconnected => second.socket (first.socket unconnected)⟩

theorem GivenUp.steady (givenUp : GivenUp client next) (stopped : client.reconnectTimer = none) :
    Steady next :=
  ⟨fun _ wanted => absurd (givenUp.unwanted.symm.trans wanted) Bool.false_ne_true,
    fun _ => givenUp.timer.trans stopped⟩

theorem givenUp_disconnected (unwanted : client.desiredOpen = false) :
    GivenUp client (client.disconnected moment) := by
  rw [disconnected_of_unwanted unwanted]
  exact ⟨unwanted, rfl, fun _ => rfl⟩

theorem givenUp_abort (unwanted : client.desiredOpen = false) :
    GivenUp client (client.abort moment) :=
  abort_rule (fun _ => ⟨unwanted, rfl, id⟩) ⟨unwanted, rfl, fun _ => rfl⟩
    fun _ => givenUp_disconnected unwanted

theorem givenUp_disconnectFromHost {flushed : Bool} (unwanted : client.desiredOpen = false) :
    GivenUp client (client.disconnectFromHost flushed moment) :=
  disconnectFromHost_rule (fun _ => ⟨unwanted, rfl, id⟩) (fun _ => ⟨unwanted, rfl, id⟩)
    (fun _ => givenUp_disconnected unwanted)
    fun established => ⟨unwanted, rfl, fun wrong => absurd wrong (used_of_established established)⟩

variable {frame : Frame}

theorem givenUp_handleFrame (ended : client.desiredOpen = false ∨ frame.GivesUp) :
    GivenUp client (handleFrame moment client frame) := by
  have setDesired : GivenUp client { client with desiredOpen := false } := ⟨rfl, rfl, id⟩
  unfold handleFrame handleLoginResponse
  split
  · rename_i login
    split
    · exact setDesired.trans (givenUp_abort rfl)
    rename_i errorCode packet
    split
    · rename_i success
      refine ⟨ended.resolve_right fun givesUp => ?_, rfl, id⟩
      rcases givesUp with ⟨-, refused⟩ | quit
      · exact refused (by rw [packet, success])
      · rw [login] at quit
        exact absurd quit (by decide)
    · exact setDesired.trans (givenUp_disconnectFromHost rfl)
  rename_i notLogin
  split
  · rename_i ping
    refine ⟨ended.resolve_right fun givesUp => ?_, rfl, id⟩
    rcases givesUp with ⟨login, -⟩ | quit
    · exact notLogin login
    · rw [ping] at quit
      exact absurd quit (by decide)
  split
  · exact setDesired.trans (givenUp_disconnectFromHost rfl)
  rename_i notQuit
  have unwanted : client.desiredOpen = false := by
    refine ended.resolve_right fun givesUp => ?_
    rcases givesUp with ⟨login, -⟩ | quit
    · exact notLogin login
    · exact notQuit quit
  split
  · exact givenUp_abort unwanted
  · exact ⟨unwanted, rfl, id⟩

theorem givenUp_handleFrames (frames : List Frame) (unwanted : client.desiredOpen = false) :
    GivenUp client (frames.foldl (handleFrame moment) client) := by
  induction frames generalizing client with
  | nil => exact ⟨unwanted, rfl, id⟩
  | cons frame rest inductionHypothesis =>
    have first : GivenUp client (handleFrame moment client frame) :=
      givenUp_handleFrame (.inl unwanted)
    exact first.trans (inductionHypothesis first.unwanted)

theorem handleFrame_of_unreadable (unreadable : frame.Unreadable) :
    handleFrame moment client frame = client.abort moment := by
  obtain ⟨notLogin, notPing, notQuit, packet⟩ := unreadable
  unfold handleFrame
  rw [if_neg notLogin, if_neg notPing, if_neg notQuit, packet]

theorem handleFrame_of_harmless (continues : ¬ frame.GivesUp) (readable : ¬ frame.Unreadable) :
    handleFrame moment client frame = client ∨
      handleFrame moment client frame = { client with state := .ready } := by
  unfold handleFrame handleLoginResponse
  split
  · rename_i login
    split
    · rename_i packet
      exact absurd (.inl ⟨login, by rw [packet]; exact fun wrong => by cases wrong⟩) continues
    rename_i errorCode packet
    split
    · exact .inr rfl
    · refine absurd (.inl ⟨login, ?_⟩) continues
      rwa [packet, ne_eq, some.injEq]
  rename_i notLogin
  split
  · exact .inl rfl
  rename_i notPing
  split
  · rename_i quit
    exact absurd (.inr quit) continues
  rename_i notQuit
  split
  · rename_i packet
    exact absurd ⟨notLogin, notPing, notQuit, packet⟩ readable
  · exact .inl rfl

theorem steady_frames_waiting {frames : List Frame} (unconnected : client.socket = .unconnected)
    (wanted : client.desiredOpen) (runs : client.reconnectTimer.isSome) :
    Steady (frames.foldl (handleFrame moment) client) ↔
      ∀ frame ∈ frames, ¬ frame.GivesUp := by
  induction frames generalizing client with
  | nil =>
    refine iff_of_true ⟨fun _ _ => runs, fun unwanted => ?_⟩ fun frame absent => by cases absent
    exact absurd (unwanted.symm.trans wanted) Bool.false_ne_true
  | cons frame rest inductionHypothesis =>
    rw [foldl_cons, forall_mem_cons]
    by_cases givesUp : frame.GivesUp
    · refine iff_of_false (fun steady => ?_) fun both => both.1 givesUp
      have first : GivenUp client (handleFrame moment client frame) :=
        givenUp_handleFrame (.inr givesUp)
      have all : GivenUp client (rest.foldl (handleFrame moment) _) :=
        first.trans (givenUp_handleFrames rest first.unwanted)
      have stopped := steady.quiet all.unwanted
      rw [all.timer] at stopped
      simp [stopped] at runs
    rw [and_iff_right givesUp]
    by_cases unreadable : frame.Unreadable
    · grind [handleFrame_of_unreadable, abort_of_unconnected]
    rcases handleFrame_of_harmless givesUp unreadable with same | ready
    · rw [same]
      exact inductionHypothesis unconnected wanted runs
    · grind

theorem readableFirst_cons_of_givesUp (givesUp : frame.GivesUp) :
    ReadableFirst (frame :: rest) := by
  intro _ early before
  rw [takeWhile_cons_of_neg (by simpa using givesUp)] at before
  cases before

theorem readableFirst_cons_of_unreadable (continues : ¬ frame.GivesUp)
    (unreadable : frame.Unreadable) :
    ReadableFirst (frame :: rest) ↔ ∀ later ∈ rest, ¬ later.GivesUp := by
  unfold ReadableFirst
  rw [takeWhile_cons_of_pos (by simpa using continues)]
  constructor
  · intro first later behind givesUp
    exact first ⟨later, mem_cons_of_mem _ behind, givesUp⟩ frame (mem_cons_self ..) unreadable
  · grind

theorem readableFirst_cons_of_harmless (continues : ¬ frame.GivesUp)
    (readable : ¬ frame.Unreadable) : ReadableFirst (frame :: rest) ↔ ReadableFirst rest := by
  unfold ReadableFirst
  rw [takeWhile_cons_of_pos (by simpa using continues), forall_mem_cons,
    and_iff_right readable]
  simp only [mem_cons, exists_eq_or_imp, or_iff_right continues]

theorem Sound.steady_frames {frames : List Frame} (sound : Sound client)
    (established : client.socket.Established) (wanted : client.desiredOpen) :
    Steady (frames.foldl (GatewayClient.handleFrame moment) client) ↔
      (¬ client.Expired moment → ReadableFirst frames) := by
  have stopped : client.reconnectTimer = none := sound.timer_none_of_established established
  induction frames generalizing client with
  | nil =>
    refine iff_of_true ⟨fun unconnected => ?_, fun _ => stopped⟩ fun _ none => ?_
    · exact absurd unconnected (used_of_established established)
    · obtain ⟨frame, absent, -⟩ := none
      cases absent
  | cons frame rest inductionHypothesis =>
    rw [foldl_cons]
    by_cases givesUp : frame.GivesUp
    · refine iff_of_true ?_ fun _ => readableFirst_cons_of_givesUp givesUp
      have first : GivenUp client (GatewayClient.handleFrame moment client frame) :=
        givenUp_handleFrame (.inr givesUp)
      exact (first.trans (givenUp_handleFrames rest first.unwanted)).steady stopped
    by_cases unreadable : frame.Unreadable
    · -- The connection is lost here, and the rest of the read is handled without it.
      rw [handleFrame_of_unreadable unreadable, abort_eq_disconnected established,
        readableFirst_cons_of_unreadable givesUp unreadable]
      by_cases expired : client.Expired moment
      · refine iff_of_true ?_ fun valid => absurd expired valid
        rw [disconnected_of_expired wanted (sound.wanted wanted) expired]
        exact (givenUp_handleFrames rest rfl).steady stopped
      rw [disconnected_of_returns wanted (sound.wanted wanted) expired,
        steady_frames_waiting (by rfl) (by exact wanted) (by rfl)]
      exact ⟨fun none _ => none, fun none => none expired⟩
    rw [readableFirst_cons_of_harmless givesUp unreadable]
    rcases handleFrame_of_harmless givesUp unreadable with same | ready
    · rw [same]
      exact inductionHypothesis sound established wanted stopped
    rw [ready]
    refine inductionHypothesis ⟨fun _ wrong => ?_, sound.waiting, sound.attempts, sound.reset⟩
      established wanted stopped
    cases wrong

end Read

/-! ### Whole runs -/

theorem Sound.start : Sound {} :=
  ⟨fun wrong => absurd wrong Bool.false_ne_true, fun _ => rfl, zero_le_one, fun _ => rfl⟩

/-- A step keeps what every client keeps, and a steady client stays so exactly if the step meets
the condition. -/
theorem Sound.step {client : GatewayClient} {event : Event} (sound : Sound client)
    (taken : step client event = some next) :
    Sound next ∧ (Steady client → (Steady next ↔ KeepsReturning client event)) := by
  cases event with
  | openSession tokenExpiresInSeconds moment =>
    cases taken
    obtain ⟨kept, steady⟩ := openSession_started tokenExpiresInSeconds
    exact ⟨kept, fun _ => iff_of_true steady trivial⟩
  | close =>
    cases taken
    exact ⟨sound.close, fun _ => iff_of_true steady_close trivial⟩
  | connected flushed moment =>
    obtain ⟨connecting, ⟨⟩⟩ := ite_none_right_eq_some.mp taken
    obtain ⟨kept, steady⟩ := sound.connected connecting
    exact ⟨kept, fun _ => iff_of_true steady trivial⟩
  | connectFailed =>
    obtain ⟨connecting, ⟨⟩⟩ := ite_none_right_eq_some.mp taken
    refine ⟨⟨sound.wanted, fun _ => rfl, sound.attempts,
      fun wrong => absurd wrong not_established_unconnected⟩, fun _ => ?_⟩
    have stopped : client.reconnectTimer = none := sound.timer_none (by simp [connecting])
    constructor
    · intro returned
      by_contra wanted
      have runs := returned.returns rfl (Bool.not_eq_false _ ▸ wanted)
      simp [stopped] at runs
    intro unwanted
    exact ⟨fun _ wanted => absurd (unwanted.symm.trans wanted) Bool.false_ne_true,
      fun _ => stopped⟩
  | disconnected moment =>
    obtain ⟨established, ⟨⟩⟩ := ite_none_right_eq_some.mp taken
    obtain ⟨kept, steady⟩ := sound.lost established
    exact ⟨kept, fun _ => iff_of_true steady trivial⟩
  | readyRead frames moment =>
    obtain ⟨established, ⟨⟩⟩ := ite_none_right_eq_some.mp taken
    refine ⟨sound.handleFrames frames, fun steady => ?_⟩
    cases wanted : client.desiredOpen with
    | false =>
      refine iff_of_true ?_ fun wrong => absurd (wanted.symm.trans wrong) Bool.false_ne_true
      exact (givenUp_handleFrames frames wanted).steady (steady.quiet wanted)
    | true =>
      rw [sound.steady_frames established wanted]
      exact ⟨fun first _ => first, fun first => first wanted⟩
  | codecError moment =>
    obtain ⟨established, ⟨⟩⟩ := ite_none_right_eq_some.mp taken
    obtain ⟨kept, steady⟩ := sound.lost established
    rw [abort_eq_disconnected established]
    exact ⟨kept, fun _ => iff_of_true steady trivial⟩
  | reconnectTimeout =>
    obtain ⟨runs, ⟨⟩⟩ := ite_none_right_eq_some.mp taken
    by_cases wanted : client.desiredOpen
    · obtain ⟨kept, steady⟩ := @started { client with reconnectTimer := none } wanted
        (sound.waiting runs) rfl sound.attempts
      exact ⟨kept, fun _ => iff_of_true steady trivial⟩
    rw [GatewayClient.startSocket, if_neg wanted]
    refine ⟨⟨sound.wanted, fun wrong => absurd wrong Bool.false_ne_true, sound.attempts,
      sound.reset⟩, fun steady => ?_⟩
    simp [steady.quiet (Bool.not_eq_true _ ▸ wanted)] at runs
  | closeTimeout flushed moment =>
    obtain ⟨-, elapsed⟩ := ite_none_right_eq_some.mp taken
    have counted : Sound { client with closeTimers := client.closeTimers - 1 } := { sound with }
    cases elapsed
    split
    · exact ⟨counted.disconnectFromHost, fun steady => iff_of_true
        (counted.steady_disconnectFromHost fun _ => ⟨steady.returns, steady.quiet⟩) trivial⟩
    · exact ⟨counted, fun steady => iff_of_true ⟨steady.returns, steady.quiet⟩ trivial⟩

/-- The client never counts a second attempt, so its delays do not grow. -/
theorem reconnectAttempt_le_one {final : GatewayClient} {events : List Event}
    (taken : run step {} events = some final) : final.reconnectAttempt ≤ 1 :=
  (run_invariant Sound (fun _ _ _ sound taken => (sound.step taken).1) Sound.start
    taken).attempts

/-- In every state of a run the client returns or rests, exactly if no attempt to connect failed
that it wanted, and no read let it give up behind a packet that had ended the connection. -/
theorem client_returns_iff {final : GatewayClient} {events : List Event}
    (taken : run step {} events = some final) :
    (∀ early late client, events = early ++ late → run step {} early = some client →
      Steady client) ↔ Along step KeepsReturning {} events :=
  always_iff_along Sound Steady KeepsReturning
    (fun _ _ _ sound taken => (sound.step taken).1)
    (fun _ _ _ sound steady taken => (sound.step taken).2 steady) Sound.start
    ⟨fun _ wrong => absurd wrong Bool.false_ne_true, fun _ => rfl⟩ taken

def returningEvents : List Event :=
  [.openSession 900 ⟨1000, 0⟩, .connected false ⟨1100, 0⟩,
    .readyRead [⟨1014, some 0, false⟩] ⟨1200, 0⟩, .disconnected ⟨5000, 7⟩, .reconnectTimeout,
    .connected false ⟨5300, 0⟩, .close, .closeTimeout true ⟨9000, 0⟩]

theorem reconnectAttempt_le_one_lost : ∃ client,
    run step {} (returningEvents.take 4) = some client ∧
      client.reconnectAttempt ≤ 1 := by
  have taken : run step {} (returningEvents.take 4) = some _ := rfl
  exact ⟨_, taken, reconnectAttempt_le_one taken⟩

theorem client_returns_after_loss :
    (∃ client, run step {} (returningEvents.take 4) = some client ∧
      client.desiredOpen ∧ client.socket = .unconnected ∧ client.reconnectTimer = some 207) ∧
    ∀ early late client, returningEvents = early ++ late →
      run step {} early = some client → Steady client := by
  have taken : run step {} returningEvents =
      some ((run step {} returningEvents).getD {}) := by decide +kernel
  refine ⟨⟨_, rfl, by decide +kernel⟩, (client_returns_iff taken).mpr ?_⟩
  decide +kernel

/-- The attempt to connect that follows `Open` fails: nothing will try again. And a read that
brings a packet that cannot be parsed and then the end of the session leaves the timer running. -/
theorem first_failed_attempt_is_last :
    (∃ client, run step {} [.openSession 900 ⟨1000, 0⟩, .connectFailed] = some client ∧
      client.desiredOpen ∧ client.socket = .unconnected ∧ client.reconnectTimer = none ∧
      ¬ Steady client) ∧
    ∃ client, run step {}
        [.openSession 900 ⟨1000, 0⟩, .connected false ⟨1100, 0⟩,
          .readyRead [⟨1028, none, false⟩, ⟨1016, some 0, false⟩] ⟨1200, 0⟩] = some client ∧
      client.desiredOpen = false ∧ client.socket = .unconnected ∧
      client.reconnectTimer = some 200 ∧ ¬ Steady client := by
  refine ⟨⟨_, rfl, rfl, rfl, rfl, fun steady => ?_⟩, ⟨_, rfl, rfl, rfl, rfl, fun steady => ?_⟩⟩
  · exact absurd (steady.returns rfl rfl) (by decide)
  · exact absurd (steady.quiet rfl) (by decide)

end Wimi.Client.Reconnect
