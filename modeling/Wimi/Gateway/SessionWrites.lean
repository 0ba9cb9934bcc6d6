/-
This file models the writes of a `GatewaySession`: `SendRaw`, which any thread may call, and
the strand of the session, on which frames are put into `writeQueue`, `WriteLoop` writes
them, and the session is closed.

A call of `SendRaw` is several atomic steps: it reads `closed`, counts itself in
`queuedWrites`, and posts its frame to the strand; a call over the limit takes its count
back, posts the end of the session and returns false. The strand runs its tasks in the
order in which they were posted. `WriteLoop` is a coroutine on it: it is resumed by a task
when `async_write` has completed. `co_spawn` may start it at once or by a task of its own;
both are possible here.

The handler of QUIT calls `SendRaw` on the strand, so no task runs before it has set
`closeAfterWrite`. Every other handler that sends something is treated like a call of
another thread. A read error, an oversized frame or a lost lease closes the session
between two tasks.

The count is exact, the limit holds and the order is kept in every run. That the answer to
QUIT is written before the session closes holds only if no completed write waits on the
strand that will find nothing behind it: the answer itself is only posted when
`closeAfterWrite` is set already.
-/

import Wimi.Client.FrameCodec
import Wimi.Gateway.Session

namespace Wimi.Gateway

open List Option Transition

open Client (ByteOrder encodeFrame)

/-! ### The state -/

def kMaxQueuedWrites : Nat := 10240

/-- How far a call of `SendRaw` has come: it has found the session open, it is counted and within
the limit, it is counted and over it, it has taken its count back, or it has returned. -/
inductive SendStage where
  | loaded
  | admitted
  | excess
  | refusing
  | returned (accepted : Bool)
deriving DecidableEq, Repr

structure SendCall where
  packet : List UInt8
  protocolId : UInt32
  quit : Bool
  stage : SendStage
deriving DecidableEq, Repr

namespace SendCall

def running (call : SendCall) : Bool :=
  match call.stage with
  | .returned _ => false
  | _ => true

def counted (call : SendCall) : Bool := call.stage = .admitted ∨ call.stage = .excess

def admitted (call : SendCall) : Bool := call.stage = .admitted

end SendCall

open SendCall

inductive StrandTask where
  | push (call : Nat) (frame : List UInt8)
  | close
  | writeStart
  | writeDone (ok : Bool)
deriving DecidableEq, Repr

namespace StrandTask

def frame? : StrandTask → Option (Nat × List UInt8)
  | .push call frame => some (call, frame)
  | _ => none

def resumes : StrandTask → Bool
  | .writeStart => true
  | .writeDone _ => true
  | _ => false

end StrandTask

open StrandTask

/-- The part of the session that its writes use. `handler` is the call of a QUIT handler that
occupies the strand, `writing` an `async_write` that has not completed. The rest is noted beside:
the posted frames in their order, the frames given to `async_write`, those written, and whether
the session was closed because of `closeAfterWrite`. -/
structure SessionWrites where
  closed : Bool := false
  closeAfterWrite : Bool := false
  queuedWrites : Int := 0
  calls : List SendCall := []
  handler : Option Nat := none
  strand : List StrandTask := []
  writeQueue : List (Nat × List UInt8) := []
  writeActive : Bool := false
  writing : Bool := false
  accepted : List (Nat × List UInt8) := []
  started : List (Nat × List UInt8) := []
  written : List (Nat × List UInt8) := []
  drained : Bool := false
deriving DecidableEq, Repr

namespace SessionWrites

variable (order : ByteOrder) (writes : SessionWrites)

def posted : List (Nat × List UInt8) := writes.strand.filterMap frame?

def resumptions : List StrandTask := writes.strand.filter resumes

/-! ### `SendRaw` -/

def sendRaw (packet : List UInt8) (protocolId : UInt32) (quit : Bool) : SessionWrites :=
  { writes with
    calls := writes.calls ++
      [⟨packet, protocolId, quit, if writes.closed then .returned false else .loaded⟩] }

def advance (call : Nat) (state : SendCall) (stage : SendStage) : SessionWrites :=
  { writes with calls := writes.calls.set call { state with stage } }

def fetchAdd (call : Nat) (state : SendCall) : SessionWrites :=
  { writes.advance call state
      (if (kMaxQueuedWrites : Int) < writes.queuedWrites + 1 then .excess else .admitted) with
    queuedWrites := writes.queuedWrites + 1 }

def fetchSub (call : Nat) (state : SendCall) : SessionWrites :=
  { writes.advance call state .refusing with queuedWrites := writes.queuedWrites - 1 }

def finishQuit (call : Nat) : SessionWrites :=
  if writes.handler = some call then { writes with handler := none, closeAfterWrite := true }
  else writes

def post (task : StrandTask) : SessionWrites := { writes with strand := writes.strand ++ [task] }

def postClose (call : Nat) (state : SendCall) : SessionWrites :=
  ((writes.advance call state (.returned false)).post .close).finishQuit call

def postFrame (call : Nat) (state : SendCall) : SessionWrites :=
  let frame := encodeFrame order state.protocolId state.packet
  { (writes.advance call state (.returned true)).post (.push call frame) with
    accepted := writes.accepted ++ [(call, frame)] }.finishQuit call

/-- The QUIT branch of `HandlePacket`, up to the end of `SendRaw` if the session is open. -/
def quit (packet : List UInt8) : SessionWrites :=
  let sent := writes.sendRaw packet (getServiceResponseId Session.userQuitReq) true
  if writes.closed then { sent with closeAfterWrite := true }
  else { sent with handler := some writes.calls.length }

/-! ### The tasks of the strand -/

def closeInContext : SessionWrites := { writes with closed := true }

/-- `WriteLoop` from the head of its loop to the next `async_write` or to its end. -/
def writeLoop : SessionWrites :=
  match writes.writeQueue with
  | front :: _ =>
    if writes.closed then { writes with writeActive := false }
    else { writes with writing := true, started := writes.started ++ [front] }
  | [] =>
    if writes.closeAfterWrite then
      { writes with writeActive := false, closed := true
                    drained := writes.drained || !writes.closed }
    else { writes with writeActive := false }

/-- `WriteLoop` after `async_write`; behind an error the second `CloseInContext` does nothing. -/
def afterWrite (ok : Bool) : SessionWrites :=
  let popped := { writes with
    writeQueue := writes.writeQueue.tail
    queuedWrites := writes.queuedWrites - 1 }
  if ok then { popped with written := writes.written ++ writes.writeQueue.head?.toList }.writeLoop
  else { popped.closeInContext with writeActive := false }

def pushFrame (startsAtOnce : Bool) (call : Nat) (frame : List UInt8) : SessionWrites :=
  if writes.closed then { writes with queuedWrites := writes.queuedWrites - 1 }
  else
    let pushed := { writes with writeQueue := writes.writeQueue ++ [(call, frame)] }
    if writes.writeActive then pushed
    else
      let active := { pushed with writeActive := true }
      if startsAtOnce then active.writeLoop else active.post .writeStart

def runTask (startsAtOnce : Bool) : StrandTask → SessionWrites
  | .push call frame => writes.pushFrame startsAtOnce call frame
  | .close => writes.closeInContext
  | .writeStart => writes.writeLoop
  | .writeDone ok => writes.afterWrite ok

end SessionWrites

/-! ### Steps -/

/-- The steps of the calls and of the strand. `startsAtOnce` says how `co_spawn` starts
`WriteLoop`; `closeInContext` is a handler that closes the session. -/
inductive WriteAction where
  | sendRaw (packet : List UInt8) (protocolId : UInt32)
  | quit (packet : List UInt8)
  | fetchAdd (call : Nat)
  | fetchSub (call : Nat)
  | postClose (call : Nat)
  | postFrame (call : Nat)
  | runTask (startsAtOnce : Bool)
  | writeCompleted (ok : Bool)
  | closeInContext
  | close
deriving DecidableEq, Repr

variable {strand : List StrandTask}

namespace SessionWrites

def callAt (writes : SessionWrites) (call : Nat) (stage : SendStage) : Option SendCall :=
  writes.calls[call]?.filter (·.stage = stage)

def step (order : ByteOrder) (writes : SessionWrites) : WriteAction → Option SessionWrites
  | .sendRaw packet protocolId => some (writes.sendRaw packet protocolId false)
  | .quit packet => if writes.handler = none then some (writes.quit packet) else none
  | .fetchAdd call => (writes.callAt call .loaded).map (writes.fetchAdd call)
  | .fetchSub call => (writes.callAt call .excess).map (writes.fetchSub call)
  | .postClose call => (writes.callAt call .refusing).map (writes.postClose call)
  | .postFrame call => (writes.callAt call .admitted).map (writes.postFrame order call)
  | .runTask startsAtOnce =>
    match writes.handler, writes.strand with
    | none, task :: rest => some ({ writes with strand := rest }.runTask startsAtOnce task)
    | _, _ => none
  | .writeCompleted ok =>
    if writes.writing then some ({ writes with writing := false }.post (.writeDone ok)) else none
  | .closeInContext => if writes.handler = none then some writes.closeInContext else none
  | .close => some (writes.post .close)

/-! ### What is to hold -/

/-- `WriteLoop` waits for a write, or a task will resume it. -/
def LoopRuns (writes : SessionWrites) : Prop :=
  writes.writing = true ∨ ∃ task ∈ writes.strand, task.resumes = true

/-- The count is that of the frames on their way, it does not underflow, and the frames that are
admitted stay within the limit; frames are written in the order in which they were posted; and a
frame in the queue of an open session has a `WriteLoop`. -/
structure Accounted (writes : SessionWrites) : Prop where
  exact : (∀ call ∈ writes.calls, call.running = false) →
    writes.queuedWrites = writes.posted.length + writes.writeQueue.length
  nonneg : 0 ≤ writes.queuedWrites
  limited : writes.posted.length + writes.writeQueue.length +
    writes.calls.countP admitted ≤ kMaxQueuedWrites
  ordered : writes.written <+: writes.started ∧ writes.started <+: writes.accepted
  moving : writes.closed = false → writes.writeQueue ≠ [] →
    writes.writeActive = true ∧ LoopRuns writes

/-- If `closeAfterWrite` has closed the session, every accepted answer to QUIT is written. -/
def Answered (writes : SessionWrites) : Prop :=
  writes.drained = true → ∀ call state, writes.calls[call]? = some state → state.quit = true →
    state.stage = .returned true → ∃ frame, (call, frame) ∈ writes.written

/-- A completed write waits on the strand that will find nothing else in the queue of the open
session. The number is the length the queue will have. -/
def draining : List StrandTask → Nat → Bool
  | [], _ => false
  | .push _ _ :: rest, queued => draining rest (queued + 1)
  | .writeDone ok :: _, queued => ok && queued = 1
  | .close :: _, _ => false
  | .writeStart :: rest, queued => draining rest queued

/-- When the answer to QUIT is posted, no completed write waits on the strand that will find
nothing else in the queue. -/
def QuitInTime (writes : SessionWrites) : WriteAction → Prop
  | .postFrame call => ((writes.calls[call]?.map SendCall.quit) = some true) →
    draining writes.strand writes.writeQueue.length = false
  | _ => True

instance (writes : SessionWrites) : ∀ action, Decidable (QuitInTime writes action)
  | .postFrame call => inferInstanceAs (Decidable
      ((writes.calls[call]?.map SendCall.quit) = some true →
        draining writes.strand writes.writeQueue.length = false))
  | .sendRaw _ _ => isTrue trivial
  | .quit _ => isTrue trivial
  | .fetchAdd _ => isTrue trivial
  | .fetchSub _ => isTrue trivial
  | .postClose _ => isTrue trivial
  | .runTask _ => isTrue trivial
  | .writeCompleted _ => isTrue trivial
  | .closeInContext => isTrue trivial
  | .close => isTrue trivial

variable {writes : SessionWrites} {call : Nat} {state : SendCall} {task : StrandTask}
  {rest : List StrandTask}

/-! ### The stages of a call -/

/-- A step of a call finds it at its stage. -/
theorem callAt_map_eq_some {stage : SendStage} {change : SendCall → SessionWrites}
    {next : SessionWrites} (taken : (writes.callAt call stage).map change = some next) :
    ∃ state, writes.calls[call]? = some state ∧ state.stage = stage ∧ change state = next := by
  obtain ⟨state, found, changed⟩ := map_eq_some_iff.mp taken
  rw [callAt, filter_eq_some_iff] at found
  exact ⟨state, found.1, of_decide_eq_true found.2, changed⟩

theorem countP_advance (found : writes.calls[call]? = some state) (next : SendStage)
    (counted : SendCall → Bool) :
    (writes.advance call state next).calls.countP counted + (if counted state then 1 else 0) =
      writes.calls.countP counted + (if counted { state with stage := next } then 1 else 0) :=
  Lists.countP_set_add found _ counted

/-! ### Where `WriteLoop` stands -/

inductive Loop (writes : SessionWrites) : Prop
  | idle (inactive : writes.writeActive = false) (resting : writes.writing = false)
      (none : writes.resumptions = [])
      (empty : writes.closed = false → writes.writeQueue = [] ∧ writes.started = writes.written)
      (ordered : writes.written <+: writes.started) (sent : writes.started <+: writes.accepted)
  | starting (active : writes.writeActive = true) (resting : writes.writing = false)
      (one : writes.resumptions = [.writeStart]) (waiting : writes.writeQueue ≠ [])
      (sent : writes.started = writes.written)
      (ahead : writes.written ++ writes.writeQueue <+: writes.accepted)
  | writing (front : Nat × List UInt8) (rest : List (Nat × List UInt8))
      (active : writes.writeActive = true) (busy : writes.writing = true)
      (none : writes.resumptions = []) (queue : writes.writeQueue = front :: rest)
      (sent : writes.started = writes.written ++ [front])
      (ahead : writes.written ++ writes.writeQueue <+: writes.accepted)
  | ending (front : Nat × List UInt8) (rest : List (Nat × List UInt8)) (ok : Bool)
      (active : writes.writeActive = true) (resting : writes.writing = false)
      (one : writes.resumptions = [.writeDone ok]) (queue : writes.writeQueue = front :: rest)
      (sent : writes.started = writes.written ++ [front])
      (ahead : writes.written ++ writes.writeQueue <+: writes.accepted)

structure AtHead (writes : SessionWrites) : Prop where
  active : writes.writeActive = true
  resting : writes.writing = false
  none : writes.resumptions = []
  sent : writes.started = writes.written
  ahead : writes.written ++ writes.writeQueue <+: writes.accepted

/-- The count and the accepted frames are accounted for, with `posted` on the strand. -/
structure Balanced (writes : SessionWrites) (posted : List (Nat × List UInt8)) : Prop where
  counted : writes.queuedWrites = (posted.length + writes.writeQueue.length +
    writes.calls.countP counted : Nat)
  limited : posted.length + writes.writeQueue.length +
    writes.calls.countP admitted ≤ kMaxQueuedWrites
  held : writes.closed = false → writes.accepted = writes.written ++ writes.writeQueue ++ posted

structure Sound (writes : SessionWrites) : Prop where
  loop : Loop writes
  balance : Balanced writes writes.posted

/-- What is written was given to `async_write` first, and what was given to it was posted. -/
theorem Loop.ordered (loop : Loop writes) :
    writes.written <+: writes.started ∧ writes.started <+: writes.accepted := by
  cases loop with
  | idle _ _ _ _ ordered sent => exact ⟨ordered, sent⟩
  | starting _ _ _ _ sent ahead =>
    exact ⟨sent ▸ prefix_rfl, sent ▸ (prefix_append _ _).trans ahead⟩
  | writing front rest _ _ _ queue sent ahead | ending front rest _ _ _ _ queue sent ahead =>
    rw [queue, append_cons] at ahead
    exact ⟨sent ▸ prefix_append _ _, sent ▸ (prefix_append _ _).trans ahead⟩

theorem loopRuns_of_resumptions (one : writes.resumptions = [task]) : LoopRuns writes := by
  have member : task ∈ writes.resumptions := one ▸ mem_singleton_self task
  exact .inr ⟨task, mem_of_mem_filter member, of_mem_filter member⟩

theorem Loop.moving (loop : Loop writes) (opened : writes.closed = false)
    (waiting : writes.writeQueue ≠ []) : writes.writeActive = true ∧ LoopRuns writes := by
  cases loop with
  | idle _ _ _ empty _ _ => exact absurd (empty opened).1 waiting
  | starting active _ one | ending _ _ _ active _ one => exact ⟨active, loopRuns_of_resumptions one⟩
  | writing _ _ active busy _ _ _ _ => exact ⟨active, .inl busy⟩

theorem Sound.accounted (sound : Sound writes) : Accounted writes where
  exact := by
    intro ended
    have none : writes.calls.countP counted = 0 := by
      rw [countP_eq_zero]
      intro call member
      have returned := ended call member
      rw [running] at returned
      split at returned
      · next accepted stage =>
        rw [counted, stage]
        simp
      · exact absurd returned Bool.noConfusion
    rw [sound.balance.counted]
    omega
  nonneg := by
    rw [sound.balance.counted]
    exact Int.natCast_nonneg _
  limited := sound.balance.limited
  ordered := sound.loop.ordered
  moving := sound.loop.moving

/-! ### Steps of the calls -/

/-- What `WriteLoop` sees of a session. -/
theorem Loop.of_same {after : SessionWrites} (loop : Loop writes)
    (active : after.writeActive = writes.writeActive) (writing : after.writing = writes.writing)
    (resumes : after.resumptions = writes.resumptions)
    (queue : after.writeQueue = writes.writeQueue) (started : after.started = writes.started)
    (written : after.written = writes.written) (accepted : writes.accepted <+: after.accepted)
    (opened : after.closed = false → writes.closed = false) : Loop after := by
  cases after
  subst active writing queue started written
  cases loop with
  | idle inactive resting none empty ordered sent =>
    exact .idle inactive resting (resumes.trans none) (fun still => empty (opened still)) ordered
      (sent.trans accepted)
  | starting active resting one waiting sent ahead =>
    exact .starting active resting (resumes.trans one) waiting sent (ahead.trans accepted)
  | writing front rest active busy none queue sent ahead =>
    exact .writing front rest active busy (resumes.trans none) queue sent (ahead.trans accepted)
  | ending front rest ok active resting one queue sent ahead =>
    exact .ending front rest ok active resting (resumes.trans one) queue sent
      (ahead.trans accepted)

theorem Loop.withCalls (loop : Loop writes) (calls : List SendCall) (queuedWrites : Int)
    (handler : Option Nat) (closeAfterWrite : Bool) :
    Loop { writes with
      calls
      queuedWrites
      handler
      closeAfterWrite } :=
  loop.of_same rfl rfl rfl rfl rfl rfl prefix_rfl id

theorem Loop.post (loop : Loop writes) (other : task.resumes = false)
    (more : List (Nat × List UInt8)) :
    Loop { writes.post task with accepted := writes.accepted ++ more } := by
  refine loop.of_same rfl rfl ?_ rfl rfl rfl (prefix_append _ _) id
  rw [resumptions, SessionWrites.post, filter_append, filter_singleton, other]
  exact append_nil _

theorem posted_post (writes : SessionWrites) (task : StrandTask) :
    (writes.post task).posted = writes.posted ++ task.frame?.toList := by
  rw [posted, SessionWrites.post, filterMap_append]
  cases task <;> rfl

theorem Sound.sendRaw (sound : Sound writes) (packet : List UInt8)
    (protocolId : UInt32) (quit : Bool) : Sound (writes.sendRaw packet protocolId quit) := by
  refine ⟨sound.loop.withCalls _ writes.queuedWrites writes.handler writes.closeAfterWrite,
    sound.balance.counted.trans ?_, (le_of_eq ?_).trans sound.balance.limited, sound.balance.held⟩
  · rw [SessionWrites.sendRaw, countP_append]
    cases writes.closed <;> rfl
  · rw [SessionWrites.sendRaw, countP_append]
    cases writes.closed <;> rfl

theorem Sound.withHandler (sound : Sound writes) (handler : Option Nat)
    (closeAfterWrite : Bool) :
    Sound { writes with handler, closeAfterWrite } :=
  ⟨sound.loop.withCalls _ _ handler closeAfterWrite, { sound.balance with }⟩

theorem Sound.quit (sound : Sound writes) (packet : List UInt8) :
    Sound (writes.quit packet) := by
  have sent := sound.sendRaw packet (getServiceResponseId Session.userQuitReq) true
  rw [SessionWrites.quit]
  split_ifs
  · exact sent.withHandler _ true
  · exact sent.withHandler (some writes.calls.length) _

theorem Sound.finishQuit (sound : Sound writes) (call : Nat) :
    Sound (writes.finishQuit call) := by
  rw [SessionWrites.finishQuit]
  split_ifs
  · exact sound.withHandler none true
  · exact sound

theorem countP_admitted_le (calls : List SendCall) :
    calls.countP admitted ≤ calls.countP counted := by
  refine countP_mono_left fun call _ admitted => ?_
  exact decide_eq_true (.inl (of_decide_eq_true admitted))

section

variable (sound : Sound writes)
include sound

theorem Sound.advance (found : writes.calls[call]? = some state) (next : SendStage)
    (queuedWrites : Int)
    (count : queuedWrites + (if state.counted then 1 else 0) =
      writes.queuedWrites + (if ({ state with stage := next } : SendCall).counted then 1 else 0))
    (limit : next = .admitted → queuedWrites ≤ kMaxQueuedWrites) :
    Sound { writes.advance call state next with queuedWrites } := by
  have counted := countP_advance found next SendCall.counted
  have admitted := countP_advance found next SendCall.admitted
  have total : queuedWrites = (writes.posted.length + writes.writeQueue.length +
      (writes.advance call state next).calls.countP SendCall.counted : Nat) := by
    have before := sound.balance.counted
    split_ifs at count counted <;> omega
  refine ⟨sound.loop.withCalls _ _ writes.handler writes.closeAfterWrite, total, ?_,
    sound.balance.held⟩
  by_cases admits : next = .admitted
  · have within := limit admits
    have fewer := countP_admitted_le (writes.advance call state next).calls
    refine le_trans (Nat.add_le_add_left fewer _) ?_
    exact Int.ofNat_le.mp (total ▸ within)
  have other : ({ state with stage := next } : SendCall).admitted = false :=
    decide_eq_false admits
  rw [other] at admitted
  refine le_trans (Nat.add_le_add_left ?_ _) sound.balance.limited
  exact Nat.le.intro admitted

theorem Sound.fetchAdd (found : writes.calls[call]? = some state) (stage : state.stage = .loaded) :
    Sound (writes.fetchAdd call state) := by
  refine sound.advance found _ _ ?_ ?_
  · split_ifs <;> simp_all [counted]
  · simp

theorem Sound.fetchSub (found : writes.calls[call]? = some state) (stage : state.stage = .excess) :
    Sound (writes.fetchSub call state) := by
  have before : state.counted = true := by
    rw [counted, stage]
    rfl
  refine sound.advance found .refusing _ ?_ (fun wrong => by cases wrong)
  have after : ({ state with stage := .refusing } : SendCall).counted = false := rfl
  rw [before, after]
  simp

theorem Sound.post (other : task.resumes = false) (empty : task.frame? = none) :
    Sound (writes.post task) := by
  have same : (writes.post task).posted = writes.posted := by
    rw [posted_post, empty]
    exact append_nil _
  have loop := sound.loop.post other []
  rw [append_nil] at loop
  exact ⟨loop, same ▸ { sound.balance with }⟩

theorem Sound.postClose (found : writes.calls[call]? = some state)
    (stage : state.stage = .refusing) :
    Sound (writes.postClose call state) := by
  have before : state.counted = false := by
    rw [counted, stage]
    rfl
  refine Sound.finishQuit (Sound.post ?_ rfl rfl) call
  refine sound.advance found (.returned false) writes.queuedWrites ?_ (fun wrong => by cases wrong)
  rw [before]
  rfl

end

/-- An admitted call hands its frame to the strand. -/
theorem Balanced.postFrame {posted : List (Nat × List UInt8)} (balance : Balanced writes posted)
    (found : writes.calls[call]? = some state) (stage : state.stage = .admitted)
    (frame : Nat × List UInt8) :
    Balanced
      { writes.advance call state (.returned true) with accepted := writes.accepted ++ [frame] }
      (posted ++ [frame]) := by
  have counted := countP_advance found (.returned true) SendCall.counted
  have admitted := countP_advance found (.returned true) SendCall.admitted
  rw [if_pos (by rw [SendCall.counted, stage]; rfl), if_neg (by exact Bool.false_ne_true)]
    at counted
  rw [if_pos (by rw [SendCall.admitted, stage]; rfl), if_neg (by exact Bool.false_ne_true)]
    at admitted
  have total := balance.counted
  have limited := balance.limited
  refine ⟨total.trans ?_, le_trans ?_ limited, fun opened => ?_⟩
  · simp only [advance, length_append, length_singleton] at counted ⊢
    omega
  · simp only [advance, length_append, length_singleton] at admitted ⊢
    omega
  · rw [balance.held opened, append_assoc]
    rfl

theorem Sound.postFrame (order : ByteOrder) (sound : Sound writes)
    (found : writes.calls[call]? = some state) (stage : state.stage = .admitted) :
    Sound (writes.postFrame order call state) := by
  let frame := encodeFrame order state.protocolId state.packet
  have longer : ((writes.advance call state (.returned true)).post (.push call frame)).posted =
      writes.posted ++ [(call, frame)] := posted_post _ _
  refine Sound.finishQuit ⟨?_, longer ▸ { sound.balance.postFrame found stage _ with }⟩ call
  exact (sound.loop.withCalls _ writes.queuedWrites writes.handler writes.closeAfterWrite).post
    rfl _

/-! ### Tasks of the strand -/

theorem Loop.close (loop : Loop writes) : Loop writes.closeInContext :=
  loop.of_same rfl rfl rfl rfl rfl rfl prefix_rfl fun opened => absurd opened Bool.noConfusion

theorem Sound.close (sound : Sound writes) :
    Sound writes.closeInContext :=
  ⟨sound.loop.close, { sound.balance with held := fun opened => absurd opened Bool.noConfusion }⟩

theorem AtHead.loop (head : AtHead writes) : Loop writes.writeLoop := by
  have sent : writes.started <+: writes.accepted :=
    head.sent ▸ (prefix_append _ _).trans head.ahead
  have ordered : writes.written <+: writes.started := head.sent ▸ prefix_rfl
  simp only [writeLoop]
  split
  · next front rest queue =>
    split_ifs with closed
    · exact .idle rfl head.resting head.none
        (fun opened => absurd (opened.symm.trans closed) Bool.false_ne_true) ordered sent
    · exact .writing front rest head.active rfl head.none queue
        (congrArg (· ++ [front]) head.sent) head.ahead
  next queue =>
  split_ifs
  · exact .idle rfl head.resting head.none (fun opened => absurd opened Bool.noConfusion)
      ordered sent
  · exact .idle rfl head.resting head.none (fun _ => ⟨queue, head.sent⟩) ordered sent

theorem AtHead.sound (head : AtHead writes) (balance : Balanced writes writes.posted) :
    Sound writes.writeLoop := by
  refine ⟨head.loop, ?_⟩
  simp only [writeLoop]
  split
  · split_ifs <;> exact { balance with }
  split_ifs
  · exact { balance with held := fun opened => absurd opened Bool.noConfusion }
  · exact { balance with }

theorem posted_of_strand (strand : writes.strand = task :: rest) :
    writes.posted = task.frame?.toList ++ rest.filterMap frame? := by
  rw [posted, strand]
  cases task <;> rfl

theorem resumptions_of_strand (strand : writes.strand = task :: rest) :
    writes.resumptions =
      (if task.resumes then [task] else []) ++ rest.filter resumes := by
  rw [resumptions, strand, filter_cons]
  split_ifs <;> rfl

theorem Loop.take (loop : Loop writes) (strand : writes.strand = task :: rest)
    (other : task.resumes = false) : Loop { writes with strand := rest } := by
  refine loop.of_same rfl rfl ?_ rfl rfl rfl prefix_rfl id
  rw [resumptions_of_strand strand, other]
  rfl

theorem Sound.runClose (sound : Sound writes) (strand : writes.strand = .close :: rest) :
    Sound { writes with strand := rest }.closeInContext := by
  have same : writes.posted = rest.filterMap frame? := posted_of_strand strand
  exact Sound.close ⟨sound.loop.take strand rfl, { same ▸ sound.balance with }⟩

theorem Loop.atHead_of_writeStart (loop : Loop writes)
    (strand : writes.strand = .writeStart :: rest) :
    AtHead { writes with strand := rest } ∧ writes.writeQueue ≠ [] := by
  have tasks : writes.resumptions = .writeStart :: rest.filter resumes :=
    resumptions_of_strand strand
  cases loop with
  | idle _ _ none | writing _ _ _ _ none =>
    exact absurd (none.symm.trans tasks) (cons_ne_nil _ _).symm
  | starting active resting one waiting sent ahead =>
    exact ⟨⟨active, resting, (cons.inj (one.symm.trans tasks)).2.symm, sent, ahead⟩, waiting⟩
  | ending _ _ _ _ _ one _ _ _ => cases (cons.inj (one.symm.trans tasks)).1

theorem Sound.runWriteStart (sound : Sound writes)
    (strand : writes.strand = .writeStart :: rest) :
    Sound { writes with strand := rest }.writeLoop := by
  have same : writes.posted = rest.filterMap frame? := posted_of_strand strand
  exact (sound.loop.atHead_of_writeStart strand).1.sound { same ▸ sound.balance with }

theorem Loop.of_writeDone {ok : Bool} (loop : Loop writes)
    (strand : writes.strand = .writeDone ok :: rest) :
    ∃ front others, writes.writeActive = true ∧ writes.writing = false ∧
      rest.filter resumes = [] ∧ writes.writeQueue = front :: others ∧
      writes.started = writes.written ++ [front] ∧
      writes.written ++ writes.writeQueue <+: writes.accepted := by
  have tasks : writes.resumptions = .writeDone ok :: rest.filter resumes :=
    resumptions_of_strand strand
  cases loop with
  | idle _ _ none | writing _ _ _ _ none =>
    exact absurd (none.symm.trans tasks) (cons_ne_nil _ _).symm
  | starting _ _ one _ _ _ => cases (cons.inj (one.symm.trans tasks)).1
  | ending front others _ active resting one queue sent ahead => grind

/-- A written frame leaves the queue and the count. -/
theorem Balanced.pop {posted others : List (Nat × List UInt8)} {front : Nat × List UInt8}
    (balance : Balanced writes posted) (queue : writes.writeQueue = front :: others) :
    Balanced
      { writes with
        writeQueue := others
        queuedWrites := writes.queuedWrites - 1
        written := writes.written ++ [front] } posted := by
  have counted := balance.counted
  have limited := balance.limited
  have held := balance.held
  rw [queue, length_cons] at counted limited
  rw [queue, append_cons] at held
  refine ⟨?_, ?_, held⟩
  · dsimp only
    omega
  · dsimp only
    omega

theorem Sound.runWriteDone {ok : Bool} (sound : Sound writes)
    (strand : writes.strand = .writeDone ok :: rest) :
    Sound ({ writes with strand := rest }.afterWrite ok) := by
  have same : writes.posted = rest.filterMap frame? := posted_of_strand strand
  obtain ⟨front, others, active, resting, none, queue, sent, ahead⟩ :=
    sound.loop.of_writeDone strand
  rw [queue, append_cons] at ahead
  have popped := (same ▸ sound.balance).pop queue
  cases ok with
  | true =>
    simp only [queue]
    exact AtHead.sound ⟨active, resting, none, sent, ahead⟩ { popped with }
  | false =>
    simp only [queue]
    exact ⟨.idle rfl resting none (fun opened => absurd opened Bool.noConfusion)
      sound.loop.ordered.1 sound.loop.ordered.2,
      { popped with held := fun opened => absurd opened Bool.noConfusion }⟩

/-- A frame joins the queue of a `WriteLoop` that is there. -/
theorem Loop.push {more : Nat × List UInt8} {behind : List (Nat × List UInt8)} (loop : Loop writes)
    (active : writes.writeActive = true)
    (held : writes.accepted = writes.written ++ (writes.writeQueue ++ [more]) ++ behind) :
    Loop { writes with writeQueue := writes.writeQueue ++ [more] } := by
  have ahead : writes.written ++ (writes.writeQueue ++ [more]) <+: writes.accepted :=
    held ▸ prefix_append _ _
  cases loop with
  | idle inactive _ _ _ _ _ => exact absurd (inactive.symm.trans active) Bool.false_ne_true
  | starting active resting one waiting sent _ =>
    exact .starting active resting one (append_ne_nil_of_left_ne_nil waiting _) sent ahead
  | writing front rest active busy none queue sent _ =>
    exact .writing front (rest ++ [more]) active busy none (congrArg (· ++ [more]) queue) sent ahead
  | ending front rest ok active resting one queue sent _ =>
    exact .ending front (rest ++ [more]) ok active resting one (congrArg (· ++ [more]) queue) sent
      ahead

/-- The first frame in the queue of an open session gets a `WriteLoop`. -/
theorem Loop.wake {more : Nat × List UInt8} {behind : List (Nat × List UInt8)} (loop : Loop writes)
    (opened : writes.closed = false) (inactive : ¬ writes.writeActive = true)
    (held : writes.accepted = writes.written ++ (writes.writeQueue ++ [more]) ++ behind) :
    AtHead { writes with writeQueue := writes.writeQueue ++ [more], writeActive := true } := by
  cases loop with
  | idle _ resting none empty _ _ =>
    exact ⟨rfl, resting, none, (empty opened).2, held ▸ prefix_append _ _⟩
  | starting active | writing _ _ active | ending _ _ _ active => exact absurd active inactive

theorem AtHead.post (head : AtHead writes) (waiting : writes.writeQueue ≠ []) :
    Loop (writes.post .writeStart) := by
  refine .starting head.active head.resting ?_ waiting head.sent head.ahead
  rw [resumptions, SessionWrites.post, filter_append]
  exact congrArg (· ++ [writeStart]) head.none

section

variable {frame : List UInt8} {posted : List (Nat × List UInt8)}
  (balance : Balanced writes ((call, frame) :: posted))
include balance

theorem Balanced.push :
    Balanced { writes with writeQueue := writes.writeQueue ++ [(call, frame)] } posted := by
  have counted := balance.counted
  have limited := balance.limited
  rw [length_cons] at counted limited
  refine ⟨counted.trans ?_, le_trans ?_ limited, fun opened => ?_⟩
  · simp only [length_append, length_singleton]
    omega
  · simp only [length_append, length_singleton]
    omega
  · rw [balance.held opened, append_cons, append_assoc writes.written]

theorem Balanced.drop (closed : writes.closed = true) :
    Balanced { writes with queuedWrites := writes.queuedWrites - 1 } posted := by
  have counted := balance.counted
  have limited := balance.limited
  rw [length_cons] at counted limited
  refine ⟨?_, ?_, fun opened => ?_⟩
  · dsimp only
    omega
  · dsimp only
    omega
  · exact absurd (opened.symm.trans closed) Bool.false_ne_true

end

theorem Sound.runPush {frame : List UInt8} (startsAtOnce : Bool)
    (sound : Sound writes) (strand : writes.strand = .push call frame :: rest) :
    Sound ({ writes with strand := rest }.pushFrame startsAtOnce call frame) := by
  have same : writes.posted = (call, frame) :: rest.filterMap frame? :=
    posted_of_strand strand
  have loop := sound.loop.take strand rfl
  have before : Balanced { writes with strand := rest } ((call, frame) :: _) :=
    { same ▸ sound.balance with }
  have pushed := before.push
  simp only [pushFrame]
  split_ifs with closed active atOnce
  · exact ⟨loop.withCalls writes.calls _ writes.handler writes.closeAfterWrite, before.drop closed⟩
  all_goals have opened := Bool.eq_false_of_not_eq_true closed
  · exact ⟨loop.push active (pushed.held opened), pushed⟩
  · exact (loop.wake opened active (pushed.held opened)).sound { pushed with }
  have waiting : writes.writeQueue ++ [(call, frame)] ≠ [] :=
    append_ne_nil_of_right_ne_nil _ (cons_ne_nil _ _)
  refine ⟨(loop.wake opened active (pushed.held opened)).post waiting, ?_⟩
  rw [posted_post]
  rw [← append_nil (rest.filterMap frame?)] at pushed
  exact { pushed with }

theorem Sound.writeCompleted (sound : Sound writes)
    (busy : writes.writing = true) (ok : Bool) :
    Sound ({ writes with writing := false }.post (.writeDone ok)) := by
  have same : ({ writes with writing := false }.post (.writeDone ok)).posted = writes.posted :=
    (posted_post _ _).trans (append_nil _)
  refine ⟨?_, { same ▸ sound.balance with }⟩
  cases sound.loop with
  | idle _ resting | starting _ resting | ending _ _ _ _ resting =>
    exact absurd (resting.symm.trans busy) Bool.false_ne_true
  | writing front rest active _ none queue sent ahead =>
    refine .ending front rest ok active rfl ?_ queue sent ahead
    rw [resumptions, SessionWrites.post, filter_append]
    exact congrArg (· ++ [writeDone ok]) none

/-! ### Every step -/

theorem step_runTask {order : ByteOrder} {next : SessionWrites} {startsAtOnce : Bool}
    (taken : step order writes (.runTask startsAtOnce) = some next) :
    writes.handler = none ∧ ∃ task rest, writes.strand = task :: rest ∧
      { writes with strand := rest }.runTask startsAtOnce task = next := by
  simp only [step] at taken
  split at taken
  · next task rest free strand => exact ⟨free, task, rest, strand, some.inj taken⟩
  · cases taken

theorem Sound.runTask (sound : Sound writes) (startsAtOnce : Bool)
    (strand : writes.strand = task :: rest) :
    Sound ({ writes with strand := rest }.runTask startsAtOnce task) := by
  cases task with
  | push call frame => exact sound.runPush startsAtOnce strand
  | close => exact sound.runClose strand
  | writeStart => exact sound.runWriteStart strand
  | writeDone ok => exact sound.runWriteDone strand

theorem sound_step (order : ByteOrder) (writes : SessionWrites) (action : WriteAction)
    (next : SessionWrites) (sound : Sound writes)
    (taken : step order writes action = some next) : Sound next := by
  cases action with
  | sendRaw packet protocolId => exact some.inj taken ▸ sound.sendRaw packet protocolId false
  | quit packet =>
    obtain ⟨_, rfl⟩ := ite_some_none_eq_some.mp taken
    exact sound.quit packet
  | fetchAdd call =>
    obtain ⟨state, found, stage, rfl⟩ := callAt_map_eq_some taken
    exact sound.fetchAdd found stage
  | fetchSub call =>
    obtain ⟨state, found, stage, rfl⟩ := callAt_map_eq_some taken
    exact sound.fetchSub found stage
  | postClose call =>
    obtain ⟨state, found, stage, rfl⟩ := callAt_map_eq_some taken
    exact sound.postClose found stage
  | postFrame call =>
    obtain ⟨state, found, stage, rfl⟩ := callAt_map_eq_some taken
    exact sound.postFrame order found stage
  | runTask startsAtOnce =>
    obtain ⟨_, task, rest, strand, rfl⟩ := step_runTask taken
    exact sound.runTask startsAtOnce strand
  | writeCompleted ok =>
    obtain ⟨busy, rfl⟩ := ite_some_none_eq_some.mp taken
    exact sound.writeCompleted busy ok
  | closeInContext =>
    obtain ⟨_, rfl⟩ := ite_some_none_eq_some.mp taken
    exact sound.close
  | close => exact some.inj taken ▸ sound.post rfl rfl

theorem sound_start : Sound {} where
  loop := .idle rfl rfl rfl (fun _ => ⟨rfl, rfl⟩) prefix_rfl prefix_rfl
  balance := ⟨rfl, Nat.zero_le _, fun _ => rfl⟩

/-! ### The answer to QUIT -/

def behindDrain : List StrandTask → Nat → List StrandTask
  | [], _ => []
  | .push _ _ :: rest, queued => behindDrain rest (queued + 1)
  | .writeDone ok :: rest, queued => if ok && queued = 1 then rest else []
  | .close :: _, _ => []
  | .writeStart :: rest, queued => behindDrain rest queued

theorem mem_behindDrain_concat {task other : StrandTask} {queued : Nat}
    (member : other ∈ behindDrain (strand ++ [task]) queued) :
    other ∈ behindDrain strand queued ∨ other = task ∧ draining strand queued = true := by
  induction strand generalizing queued with
  | nil =>
    cases task with
    | writeDone ok => grind [behindDrain]
    | push | close | writeStart => exact absurd member not_mem_nil
  | cons head rest inductionHypothesis =>
    cases head with
    | push | writeStart => exact inductionHypothesis member
    | close => exact absurd member not_mem_nil
    | writeDone ok =>
      simp only [cons_append, behindDrain] at member ⊢
      split_ifs at member ⊢ with drains
      · obtain early | late := mem_append.mp member
        · exact .inl early
        · exact .inr ⟨mem_singleton.mp late, drains⟩
      · exact absurd member not_mem_nil

theorem behindDrain_subset {queued : Nat} : behindDrain strand queued ⊆ strand := by
  induction strand generalizing queued with
  | nil => exact List.Subset.refl _
  | cons head rest inductionHypothesis =>
    cases head with
    | push | writeStart => exact List.Subset.trans inductionHypothesis (subset_cons_self _ _)
    | close => exact nil_subset _
    | writeDone ok => grind [behindDrain, subset_cons_self, nil_subset]

theorem behindDrain_of_filter_eq_nil (none : strand.filter resumes = []) (queued : Nat) :
    behindDrain strand queued = [] := by
  induction strand generalizing queued with
  | nil => rfl
  | cons head rest inductionHypothesis =>
    cases head with
    | push call frame => exact inductionHypothesis none _
    | close => rfl
    | writeStart | writeDone => exact absurd none (cons_ne_nil _ _)

def IsQuit (writes : SessionWrites) (call : Nat) : Prop :=
  writes.calls[call]?.map SendCall.quit = some true

structure Answering (writes : SessionWrites) : Prop where
  guarded : writes.closed = false → ∀ call frame,
    .push call frame ∈ behindDrain writes.strand writes.writeQueue.length → ¬ IsQuit writes call
  answered : Answered writes
  final : writes.drained = true → writes.closed = true
  known : ∀ call frame, .push call frame ∈ writes.strand → call < writes.calls.length
  listed : ∀ call state, writes.calls[call]? = some state → state.stage = .returned true →
    ∃ frame, (call, frame) ∈ writes.accepted
  waiting : ∀ call state, writes.calls[call]? = some state → state.quit = true →
    state.running = true → writes.handler = some call
  free : writes.closed = true → writes.handler = none

theorem getElem?_advance (found : writes.calls[call]? = some state) (next : SendStage)
    (other : Nat) : (writes.advance call state next).calls[other]? =
      if call = other then some { state with stage := next } else writes.calls[other]? := by
  obtain ⟨bound, _⟩ := List.getElem?_eq_some_iff.mp found
  rw [advance, List.getElem?_set, if_pos bound]

theorem isQuit_advance (found : writes.calls[call]? = some state) (next : SendStage)
    (other : Nat) : IsQuit (writes.advance call state next) other ↔ IsQuit writes other := by
  rw [IsQuit, IsQuit, getElem?_advance found]
  split_ifs with same
  · rw [← same, found]
    rfl
  · rfl

section

variable (answering : Answering writes)
include answering

theorem Answering.sendRaw (packet : List UInt8) (protocolId : UInt32) (quit : Bool)
    {handler : Option Nat} (closeAfterWrite : Bool)
    (kept : ∀ call, writes.handler = some call → handler = some call)
    (own : quit = true → writes.closed = false → handler = some writes.calls.length)
    (free : writes.closed = true → handler = none) :
    Answering { writes.sendRaw packet protocolId quit with
      handler
      closeAfterWrite } where
  guarded := by
    intro opened call frame behind isQuit
    obtain ⟨found, present, quits⟩ := map_eq_some_iff.mp isQuit
    obtain before | ⟨rfl, _⟩ := Lists.getElem?_concat_eq_some present
    · exact answering.guarded opened call frame behind
        (map_eq_some_iff.mpr ⟨found, before, quits⟩)
    · exact Nat.lt_irrefl _ (answering.known _ frame (behindDrain_subset behind))
  answered := by
    intro drained call found present quits returned
    obtain before | ⟨_, rfl⟩ := Lists.getElem?_concat_eq_some present
    · exact answering.answered drained call found before quits returned
    · grind
  final := answering.final
  known := by
    intro call frame member
    exact lt_of_lt_of_le (answering.known call frame member)
      (prefix_append writes.calls _).length_le
  listed := by
    intro call found present returned
    obtain before | ⟨_, rfl⟩ := Lists.getElem?_concat_eq_some present
    · exact answering.listed call found before returned
    · split_ifs at returned
      cases returned
  waiting := by
    intro call found present quits running
    obtain before | ⟨rfl, rfl⟩ := Lists.getElem?_concat_eq_some present
    · exact kept call (answering.waiting call found before quits running)
    cases closed : writes.closed with
    | false => exact own quits closed
    | true =>
      simp only [closed] at running
      cases running
  free := free

theorem Answering.quit (packet : List UInt8) (idle : writes.handler = none) :
    Answering (writes.quit packet) := by
  have kept (handler : Option Nat) (call : Nat) (occupied : writes.handler = some call) :
      handler = some call := by
    cases idle.symm.trans occupied
  rw [SessionWrites.quit]
  split_ifs with closed
  · exact answering.sendRaw packet _ true true (kept _)
      (fun _ opened => absurd (opened.symm.trans closed) Bool.false_ne_true) (fun _ => idle)
  · exact answering.sendRaw packet _ true writes.closeAfterWrite (kept _) (fun _ _ => rfl)
      (fun ended => absurd ended closed)

theorem Answering.advance (found : writes.calls[call]? = some state)
    (running : state.running = true) (next : SendStage) (queuedWrites : Int)
    (more : List (Nat × List UInt8))
    (posts : next = .returned true → ∃ frame, (call, frame) ∈ more) :
    Answering { writes.advance call state next with
      queuedWrites
      accepted := writes.accepted ++ more } where
  guarded := by
    intro opened other frame behind isQuit
    exact answering.guarded opened other frame behind ((isQuit_advance found next other).mp isQuit)
  answered := by
    intro drained other after present quits returned
    refine answering.answered drained other after ?_ quits returned
    have present := (getElem?_advance found next other).symm.trans present
    split_ifs at present with same
    · -- the call of a QUIT handler does not run in a closed session
      cases present
      have occupied := answering.waiting call state found quits running
      cases (answering.free (answering.final drained)).symm.trans occupied
    · exact present
  final := answering.final
  known := by
    intro other frame member
    refine Nat.lt_of_lt_of_eq (answering.known other frame member) ?_
    exact length_set.symm
  listed := by
    intro other after present returned
    have present := (getElem?_advance found next other).symm.trans present
    split_ifs at present with same
    · grind
    · obtain ⟨frame, member⟩ := answering.listed other after present returned
      exact ⟨frame, mem_append_left _ member⟩
  waiting := by
    intro other after present quits runs
    have present := (getElem?_advance found next other).symm.trans present
    split_ifs at present with same
    · cases present
      exact same ▸ answering.waiting call state found quits running
    · exact answering.waiting other after present quits runs
  free := answering.free

theorem Answering.post
    (inTime : ∀ call frame, task = .push call frame → call < writes.calls.length ∧
      (IsQuit writes call → draining writes.strand writes.writeQueue.length = false)) :
    Answering (writes.post task) where
  guarded := by
    intro opened call frame behind isQuit
    obtain early | ⟨same, drains⟩ := mem_behindDrain_concat behind
    · exact answering.guarded opened call frame early isQuit
    · exact absurd (((inTime call frame same.symm).2 isQuit).symm.trans drains) Bool.false_ne_true
  answered := answering.answered
  final := answering.final
  known := by
    intro call frame member
    obtain early | late := mem_append.mp member
    · exact answering.known call frame early
    · exact (inTime call frame (mem_singleton.mp late).symm).1
  listed := answering.listed
  waiting := answering.waiting
  free := answering.free

theorem Answering.finishQuit (found : writes.calls[call]? = some state)
    (returned : state.running = false) : Answering (writes.finishQuit call) := by
  rw [SessionWrites.finishQuit]
  split_ifs with occupied
  · refine { answering with waiting := ?_, free := fun _ => rfl }
    intro other after present quits runs
    have same := answering.waiting other after present quits runs
    cases occupied.symm.trans same
    cases found.symm.trans present
    cases returned.symm.trans runs
  · exact answering

theorem Answering.close (idle : writes.handler = none) : Answering writes.closeInContext :=
  { answering with
    guarded := fun opened => absurd opened Bool.noConfusion
    final := fun _ => rfl
    free := fun _ => idle }

theorem Answering.take (strand : writes.strand = task :: rest) {after : SessionWrites}
    (calls : after.calls = writes.calls) (handler : after.handler = writes.handler)
    (tasks : ∀ other, other ∈ after.strand → other = .writeStart ∨ other ∈ rest)
    (accepted : after.accepted = writes.accepted) (written : writes.written <+: after.written)
    (guarded : after.closed = false → ∀ call frame,
      .push call frame ∈ behindDrain after.strand after.writeQueue.length → ¬ IsQuit writes call)
    (drained : after.drained = writes.drained ∨ Answered after)
    (final : after.drained = true → after.closed = true)
    (free : after.closed = true → writes.handler = none) : Answering after where
  guarded := by
    intro opened call frame behind
    rw [IsQuit, calls]
    exact guarded opened call frame behind
  answered := by
    obtain same | answered := drained
    · intro drains call state present quits returned
      rw [same] at drains
      rw [calls] at present
      obtain ⟨frame, member⟩ := answering.answered drains call state present quits returned
      exact ⟨frame, written.mem member⟩
    · exact answered
  final := final
  known := by
    intro call frame member
    rw [calls]
    obtain wrong | early := tasks _ member
    · cases wrong
    · exact answering.known call frame (strand ▸ mem_cons_of_mem _ early)
  listed := by
    rw [calls, accepted]
    exact answering.listed
  waiting := by
    rw [calls, handler]
    exact answering.waiting
  free := by
    rw [handler]
    exact free

theorem Answering.runClose (strand : writes.strand = .close :: rest)
    (idle : writes.handler = none) :
    Answering { writes with strand := rest }.closeInContext :=
  answering.take strand rfl rfl (fun _ member => .inr member) rfl prefix_rfl
    (fun opened => absurd opened Bool.noConfusion) (.inl rfl) (fun _ => rfl) (fun _ => idle)

theorem Answering.writeLoop (waiting : writes.writeQueue ≠ []) : Answering writes.writeLoop := by
  rw [SessionWrites.writeLoop]
  split
  · split_ifs
    · exact { answering with }
    · exact { answering with }
  · next empty => exact absurd empty waiting

theorem Answering.runWriteStart (strand : writes.strand = .writeStart :: rest)
    (waiting : writes.writeQueue ≠ []) : Answering { writes with strand := rest }.writeLoop := by
  refine Answering.writeLoop ?_ waiting
  refine answering.take strand rfl rfl (fun _ member => .inr member) rfl prefix_rfl ?_ (.inl rfl)
    answering.final answering.free
  have guarded := answering.guarded
  rw [strand] at guarded
  exact guarded

theorem Answering.runPush {frame : List UInt8} (startsAtOnce : Bool)
    (strand : writes.strand = .push call frame :: rest) :
    Answering ({ writes with strand := rest }.pushFrame startsAtOnce call frame) := by
  have pushed (active : Bool) : Answering { writes with
      strand := rest
      writeQueue := writes.writeQueue ++ [(call, frame)]
      writeActive := active } := by
    refine answering.take strand rfl rfl (fun _ member => .inr member) rfl prefix_rfl ?_
      (.inl rfl) answering.final answering.free
    have guarded := answering.guarded
    rw [strand] at guarded
    rw [length_append]
    exact guarded
  have waiting : writes.writeQueue ++ [(call, frame)] ≠ [] :=
    append_ne_nil_of_right_ne_nil _ (cons_ne_nil _ _)
  rw [pushFrame]
  split_ifs with closed active atOnce
  · exact answering.take strand rfl rfl (fun _ member => .inr member) rfl prefix_rfl
      (fun opened => absurd (opened.symm.trans closed) Bool.false_ne_true) (.inl rfl)
      answering.final answering.free
  · exact pushed writes.writeActive
  · exact (pushed true).writeLoop waiting
  · exact (pushed true).post (fun _ _ wrong => by cases wrong)

theorem Answering.answered_of_drain (sound : Sound writes) {front : Nat × List UInt8}
    (strand : writes.strand = .writeDone true :: rest) (queue : writes.writeQueue = [front])
    (opened : writes.closed = false) (present : writes.calls[call]? = some state)
    (quits : state.quit = true) (returned : state.stage = .returned true) :
    ∃ frame, (call, frame) ∈ writes.written ++ [front] := by
  obtain ⟨frame, member⟩ := answering.listed call state present returned
  have held := sound.balance.held opened
  rw [queue, posted_of_strand strand] at held
  rw [held] at member
  obtain written | waits := mem_append.mp member
  · exact ⟨frame, written⟩
  obtain ⟨task, onStrand, framed⟩ := mem_filterMap.mp waits
  have behind : .push call frame ∈ rest := by
    cases task with
    | push other bytes =>
      cases framed
      exact onStrand
    | close | writeStart | writeDone => cases framed
  refine absurd (map_eq_some_iff.mpr ⟨state, present, quits⟩)
    (answering.guarded opened call frame ?_)
  rw [strand, queue]
  exact behind

theorem Answering.runWriteDone (sound : Sound writes) {ok : Bool}
    (strand : writes.strand = .writeDone ok :: rest) (idle : writes.handler = none) :
    Answering ({ writes with strand := rest }.afterWrite ok) := by
  obtain ⟨front, others, _, _, none, queue, _, _⟩ := sound.loop.of_writeDone strand
  have guarded (queued call : Nat) (frame : List UInt8)
      (behind : .push call frame ∈ behindDrain rest queued) : ¬ IsQuit writes call := by
    rw [behindDrain_of_filter_eq_nil none] at behind
    exact absurd behind not_mem_nil
  have tasks (other : StrandTask) (member : other ∈ rest) : other = .writeStart ∨ other ∈ rest :=
    .inr member
  have longer : writes.written <+: writes.written ++ [front] := prefix_append _ _
  cases ok with
  | false =>
    exact answering.take strand rfl rfl tasks rfl prefix_rfl
      (fun opened => absurd opened Bool.noConfusion) (.inl rfl) (fun _ => rfl) (fun _ => idle)
  | true =>
    have resumes : { writes with strand := rest }.afterWrite true =
        { writes with
          strand := rest
          writeQueue := others
          queuedWrites := writes.queuedWrites - 1
          written := writes.written ++ [front] }.writeLoop := by
      simp only [queue]
      rfl
    rw [resumes]
    cases others with
    | cons next others =>
      refine Answering.writeLoop ?_ (cons_ne_nil next others)
      exact answering.take strand rfl rfl tasks rfl longer (fun _ => guarded _) (.inl rfl)
        answering.final (fun _ => idle)
    | nil =>
      simp only [SessionWrites.writeLoop]
      split_ifs
      · refine answering.take strand rfl rfl tasks rfl longer (fun _ => guarded _) ?_ (fun _ => rfl)
          (fun _ => idle)
        cases closed : writes.closed with
        | true => exact .inl (Bool.or_false _)
        | false =>
          refine .inr fun _ call state present quits returned => ?_
          exact answering.answered_of_drain sound strand queue closed present quits returned
      · exact answering.take strand rfl rfl tasks rfl longer (fun _ => guarded _) (.inl rfl)
          answering.final (fun _ => idle)

theorem Answering.fetch (found : writes.calls[call]? = some state) (running : state.running = true)
    (next : SendStage) (queuedWrites : Int) (other : next ≠ .returned true) :
    Answering { writes.advance call state next with queuedWrites } := by
  have advanced := answering.advance found running next queuedWrites []
    fun wrong => absurd wrong other
  rwa [append_nil] at advanced

end

theorem answering_step (order : ByteOrder) (writes : SessionWrites) (action : WriteAction)
    (next : SessionWrites) (sound : Sound writes) (answering : Answering writes)
    (inTime : QuitInTime writes action) (taken : step order writes action = some next) :
    Answering next := by
  cases action with
  | sendRaw packet protocolId =>
    exact some.inj taken ▸ answering.sendRaw packet protocolId false writes.closeAfterWrite
      (fun _ same => same) (fun wrong => absurd wrong Bool.false_ne_true) answering.free
  | quit packet =>
    obtain ⟨free, rfl⟩ := ite_some_none_eq_some.mp taken
    exact answering.quit packet free
  | fetchAdd call =>
    obtain ⟨state, found, stage, rfl⟩ := callAt_map_eq_some taken
    refine answering.fetch found (by rw [running, stage]) _ _ ?_
    split_ifs <;> exact fun wrong => by cases wrong
  | fetchSub call =>
    obtain ⟨state, found, stage, rfl⟩ := callAt_map_eq_some taken
    exact answering.fetch found (by rw [running, stage]) _ _
      (fun wrong => by cases wrong)
  | postClose call =>
    obtain ⟨state, found, stage, rfl⟩ := callAt_map_eq_some taken
    have running : state.running = true := by rw [running, stage]
    have advanced := answering.fetch found running (.returned false) writes.queuedWrites
      (fun wrong => by cases wrong)
    exact Answering.finishQuit (advanced.post (fun _ _ wrong => by cases wrong))
      ((getElem?_advance found (.returned false) call).trans (if_pos rfl)) rfl
  | postFrame call =>
    obtain ⟨state, found, stage, rfl⟩ := callAt_map_eq_some taken
    have running : state.running = true := by rw [running, stage]
    let frame := encodeFrame order state.protocolId state.packet
    have advanced := answering.advance found running (.returned true) writes.queuedWrites
      [(call, frame)] fun _ => ⟨frame, mem_singleton_self _⟩
    refine Answering.finishQuit (advanced.post ?_)
      ((getElem?_advance found (.returned true) call).trans (if_pos rfl)) rfl
    intro other bytes same
    cases same
    refine ⟨?_, fun isQuit => inTime ((isQuit_advance found (.returned true) call).mp isQuit)⟩
    refine Nat.lt_of_lt_of_eq ?_ length_set.symm
    exact (List.getElem?_eq_some_iff.mp found).1
  | runTask startsAtOnce =>
    obtain ⟨free, task, rest, strand, rfl⟩ := step_runTask taken
    cases task with
    | push call frame => exact answering.runPush startsAtOnce strand
    | close => exact answering.runClose strand free
    | writeStart =>
      exact answering.runWriteStart strand (sound.loop.atHead_of_writeStart strand).2
    | writeDone ok => exact answering.runWriteDone sound strand free
  | writeCompleted ok =>
    obtain ⟨_, rfl⟩ := ite_some_none_eq_some.mp taken
    have resting : Answering { writes with writing := false } := { answering with }
    exact resting.post (fun _ _ wrong => by cases wrong)
  | closeInContext =>
    obtain ⟨free, rfl⟩ := ite_some_none_eq_some.mp taken
    exact answering.close free
  | close => exact some.inj taken ▸ answering.post (fun _ _ wrong => by cases wrong)

theorem answering_start : Answering {} where
  guarded := fun _ _ _ wrong => absurd wrong not_mem_nil
  answered := fun wrong => absurd wrong Bool.false_ne_true
  final := fun wrong => absurd wrong Bool.false_ne_true
  known := fun _ _ wrong => absurd wrong not_mem_nil
  listed := fun _ _ wrong => by cases wrong
  waiting := fun _ _ wrong => by cases wrong
  free := fun wrong => absurd wrong Bool.false_ne_true

/-! ### The write queue -/

/-- In every run the count is exact, the limit holds, frames go out in the order in which they
were posted, and a frame in the queue of an open session has its `WriteLoop`. If every answer to
QUIT was posted in time, `closeAfterWrite` closes the session behind it. -/
theorem session_writes_accounted (order : ByteOrder) {actions : List WriteAction}
    {writes : SessionWrites} (taken : run (step order) {} actions = some writes) :
    Accounted writes ∧
      (Along (step order) QuitInTime {} actions → Answered writes) := by
  refine ⟨(run_invariant Sound (sound_step order) sound_start taken).accounted,
    fun along => ?_⟩
  have kept := run_invariant_along (fun state => Sound state ∧ Answering state)
    QuitInTime (fun state action next both inTime reached =>
      ⟨sound_step order state action next both.1 reached,
        answering_step order state action next both.1 both.2 inTime reached⟩)
    ⟨sound_start, answering_start⟩ along taken
  exact kept.2.answered

def writesAfter (actions : List WriteAction) : SessionWrites :=
  (run (step .little) {} actions).getD {}

/-- A pong is being written when QUIT comes; its write completes after the answer is posted. -/
def quitBehindPong : List WriteAction :=
  [.sendRaw [1] 1012, .fetchAdd 0, .postFrame 0, .runTask true, .quit [2], .fetchAdd 1,
    .postFrame 1, .writeCompleted true, .runTask true, .runTask true, .writeCompleted true,
    .runTask true]

theorem session_writes_accounted_quit :
    run (step .little) {} quitBehindPong = some (writesAfter quitBehindPong) ∧
      Accounted (writesAfter quitBehindPong) ∧ Answered (writesAfter quitBehindPong) ∧
      (writesAfter quitBehindPong).drained = true ∧
      (writesAfter quitBehindPong).written.map Prod.fst = [0, 1] := by
  have taken : run (step .little) {} quitBehindPong =
      some (writesAfter quitBehindPong) := rfl
  have along : Along (step .little) QuitInTime {} quitBehindPong := by decide +kernel
  obtain ⟨accounted, answered⟩ := session_writes_accounted .little taken
  exact ⟨taken, accounted, answered along, rfl, rfl⟩

/-- The write of the pong has completed when QUIT comes, and its task is run before the one that
brings the answer into the queue. -/
def quitAfterPong : List WriteAction :=
  [.sendRaw [1] 1012, .fetchAdd 0, .postFrame 0, .runTask true, .writeCompleted true, .quit [2],
    .fetchAdd 1, .postFrame 1, .runTask true]

/-- The session is closed by `closeAfterWrite`, and the accepted answer is not written. -/
theorem quit_answer_not_written :
    run (step .little) {} quitAfterPong = some (writesAfter quitAfterPong) ∧
      (writesAfter quitAfterPong).closed = true ∧ ¬ Answered (writesAfter quitAfterPong) := by
  refine ⟨rfl, rfl, fun answered => ?_⟩
  obtain ⟨frame, member⟩ := answered rfl 1 ⟨[2], 1016, true, .returned true⟩ rfl rfl rfl
  have wrong : 1 ∈ (writesAfter quitAfterPong).written.map Prod.fst :=
    mem_map_of_mem member
  exact absurd wrong (by decide)

end SessionWrites

end Wimi.Gateway
