/-
This file is about how the two ends of a stream between Gateway and Message write their
frames: `MessageLink` on the Gateway and `GatewayStreamReactor` on the Message node.

Both have a queue, a buffer for the frame that is being written and the flag
`writeInFlight`. `Enqueue` may be called by any thread. Queue, buffer and flag are changed
under a lock, and the write is started outside of it, by the call that has taken a frame
out of the queue. gRPC reports the end of a write with `OnWriteDone`, which takes the next
frame or clears the flag.

The two classes have the same code; the flag that ends the acceptance of frames is called
`stopped` in the one and `finishing` in the other. It is an atomic that may be set at any
time. A frame stands here with the number of the call of `Enqueue` that brought it.
-/

import Wimi.Server.GatewayStream

namespace Wimi.Gateway.StreamWriter

open Function List Option Transition

open Server (RegisterGateway MessageToGatewayFrame GatewayStreamReactor kMaxStreamQueue)

/-! ### The queue and the buffer -/

inductive DeliveryStatus where
  | unspecified
  | queued
  | offline
  | staleRoute
  | backpressured
deriving DecidableEq, Repr

inductive GatewayToMessageFrame where
  | registerGateway (registration : RegisterGateway)
  | command (command : CommandEnvelope)
  | deliveryAck (deliveryId : String) (status : DeliveryStatus) (gatewayId instanceId : String)
  | heartbeat (sentAtUnixMs : Int) (sequence : UInt64)
deriving DecidableEq, Repr

universe u

variable {Frame : Type u}

/-- The fields of `MessageLink` and of `GatewayStreamReactor` that their writes use; `closing` is
`stopped` or `finishing`. -/
structure Writer (Frame : Type u) where
  closing : Bool := false
  writeQueue : List Frame := []
  writeInFlight : Bool := false
  writeFrame : Option Frame := none

namespace Writer

variable (writer : Writer Frame)

def takeFront : Writer Frame :=
  { writer with
    writeFrame := writer.writeQueue.head?
    writeQueue := writer.writeQueue.tail }

def enqueue (frame : Frame) : Option (Bool × Writer Frame) :=
  if writer.closing ∨ kMaxStreamQueue ≤ writer.writeQueue.length then none
  else
    let queued := { writer with writeQueue := writer.writeQueue ++ [frame] }
    if queued.writeInFlight then some (false, queued)
    else some (true, { queued with writeInFlight := true }.takeFront)

def onWriteDone : Bool × Writer Frame :=
  if writer.writeQueue.isEmpty then (false, { writer with writeInFlight := false })
  else (true, writer.takeFront)

variable {writer}

theorem onWriteDone_of_empty (empty : writer.writeQueue = []) :
    writer.onWriteDone = (false, { writer with writeInFlight := false }) :=
  if_pos (isEmpty_iff.mpr empty)

theorem onWriteDone_of_waiting (waiting : writer.writeQueue ≠ []) :
    writer.onWriteDone = (true, writer.takeFront) :=
  if_neg fun empty => waiting (isEmpty_iff.mp empty)

/-- `Enqueue` accepts a frame only below the bound. While a write is in flight the frame is
queued; otherwise the front of the queue is taken for a write. -/
theorem enqueue_eq_some {after : Writer Frame} {frame : Frame} {startWrite : Bool}
    (taken : writer.enqueue frame = some (startWrite, after)) :
    writer.writeQueue.length < kMaxStreamQueue ∧
      (writer.writeInFlight = true ∧ startWrite = false ∧
          after = { writer with writeQueue := writer.writeQueue ++ [frame] } ∨
        writer.writeInFlight = false ∧ startWrite = true ∧
          after = { writer with
            writeQueue := writer.writeQueue ++ [frame]
            writeInFlight := true }.takeFront) := by
  simp only [Writer.enqueue] at taken
  split_ifs at taken with refused writing
  · grind
  · grind

end Writer

/-! ### Calls and callbacks -/

inductive Call where
  | starting (enqueued : Bool)
  | returned (accepted : Bool)
  | completed
deriving DecidableEq, Repr

/-- The writer, the calls by number, and the writes gRPC has not reported. `up` says that no write
has been reported as failed. The frames are noted in the order in which they were accepted, and in
the order in which their writes were started. -/
structure System (Frame : Type u) where
  writer : Writer (Nat × Frame) := {}
  calls : Nat → Option Call := fun _ => none
  outstanding : Nat := 0
  up : Bool := true
  accepted : List (Nat × Frame) := []
  written : List (Nat × Frame) := []

inductive Action (Frame : Type u) where
  | enqueue (call : Nat) (frame : Frame)
  | startWrite (call : Nat)
  | onWriteDone (call : Nat)
  | onWriteFailed
  | close

namespace System

variable (system : System Frame)

def enqueue (call : Nat) (frame : Frame) : System Frame :=
  match system.writer.enqueue (call, frame) with
  | none =>
    { system with calls := update system.calls call (some (.returned false)) }
  | some (startWrite, writer) =>
    { system with
      writer
      calls := update system.calls call
        (some (if startWrite then .starting true else .returned true))
      accepted := system.accepted ++ [(call, frame)] }

def startWrite (call : Nat) (enqueued : Bool) : System Frame :=
  { system with
    calls := update system.calls call
      (some (if enqueued then .returned true else .completed))
    outstanding := system.outstanding + 1
    written := system.written ++ system.writer.writeFrame.toList }

def onWriteDone (call : Nat) : System Frame :=
  { system with
    writer := system.writer.onWriteDone.2
    calls := update system.calls call
      (some (if system.writer.onWriteDone.1 then .starting false else .completed))
    outstanding := system.outstanding - 1 }

def onWriteFailed : System Frame :=
  { system with
    writer := { system.writer with closing := true }
    outstanding := system.outstanding - 1
    up := false }

end System

def step (system : System Frame) : Action Frame → Option (System Frame)
  | .enqueue call frame =>
    match system.calls call with
    | none => some (system.enqueue call frame)
    | some _ => none
  | .startWrite call =>
    match system.calls call with
    | some (.starting enqueued) => some (system.startWrite call enqueued)
    | _ => none
  | .onWriteDone call =>
    match system.calls call with
    | none => if 0 < system.outstanding then some (system.onWriteDone call) else none
    | some _ => none
  | .onWriteFailed => if 0 < system.outstanding then some system.onWriteFailed else none
  | .close => some { system with writer := { system.writer with closing := true } }

def messageLinkStep (system : System GatewayToMessageFrame) :
    Action GatewayToMessageFrame → Option (System GatewayToMessageFrame) :=
  step system

def reactorStep (system : System MessageToGatewayFrame) :
    Action MessageToGatewayFrame → Option (System MessageToGatewayFrame) :=
  step system

/-! ### The reactor that writes in one step -/

def ofReactor (reactor : GatewayStreamReactor) : Writer MessageToGatewayFrame where
  closing := reactor.finishing
  writeQueue := reactor.writeQueue
  writeInFlight := reactor.writeInFlight
  writeFrame := reactor.writeFrame

theorem enqueue_ofReactor (reactor : GatewayStreamReactor) (frame : MessageToGatewayFrame) :
    (ofReactor reactor).enqueue frame =
      if (reactor.enqueue frame).1 then
        some (!reactor.writeInFlight, ofReactor (reactor.enqueue frame).2)
      else none := by
  unfold Writer.enqueue GatewayStreamReactor.enqueue
  by_cases refused : reactor.finishing = true ∨ kMaxStreamQueue ≤ reactor.writeQueue.length
  · rw [if_pos refused]
    exact if_pos refused
  rw [if_neg refused]
  refine (if_neg refused).trans ?_
  cases writing : reactor.writeInFlight with
  | true | false =>
    simp only [ofReactor, writing]
    rfl

theorem onWriteDone_ofReactor {reactor : GatewayStreamReactor}
    (writing : reactor.writeInFlight = true) :
    (ofReactor reactor).onWriteDone.2 = ofReactor reactor.onWriteDone := by
  unfold Writer.onWriteDone GatewayStreamReactor.onWriteDone
  cases queue : reactor.writeQueue with
  | nil =>
    simp only [ofReactor, queue]
    rfl
  | cons frame rest =>
    simp only [ofReactor, GatewayStreamReactor.startWrite, queue, writing]
    rfl

/-! ### What the writes have to keep to -/

def AboutToWrite (system : System Frame) (sent : Nat × Frame) : Prop :=
  system.writer.writeFrame = some sent ∧ ∃ call enqueued,
    system.calls call = some (.starting enqueued)

/-- At most one write is outstanding; frames are written in the order in which they were accepted,
each once; a refused frame is not written; the queue is bounded; and while the stream is up, a
frame in the queue has a write before it. -/
structure Disciplined (system : System Frame) : Prop where
  single : system.outstanding ≤ 1
  ordered : system.written <+: system.accepted
  once : (system.accepted.map Prod.fst).Nodup
  complete : ∀ sent ∈ system.accepted,
    sent ∈ system.written ∨ AboutToWrite system sent ∨ sent ∈ system.writer.writeQueue
  refused : ∀ call, system.calls call = some (.returned false) →
    ∀ frame, (call, frame) ∉ system.written
  bounded : system.writer.writeQueue.length ≤ kMaxStreamQueue
  moving : system.up = true → system.writer.writeQueue ≠ [] →
    system.outstanding = 1 ∨ ∃ sent, AboutToWrite system sent

/-! ### The phases of the writer -/

def NoneStarts (system : System Frame) : Prop :=
  ∀ call enqueued, system.calls call ≠ some (.starting enqueued)

inductive Phase (system : System Frame) : Prop
  | idle (free : system.writer.writeInFlight = false) (empty : system.writer.writeQueue = [])
      (none : system.outstanding = 0) (quiet : NoneStarts system)
      (all : system.accepted = system.written)
  | starting (call : Nat) (enqueued : Bool) (sent : Nat × Frame)
      (taken : system.writer.writeInFlight = true)
      (buffer : system.writer.writeFrame = some sent) (none : system.outstanding = 0)
      (starts : system.calls call = some (.starting enqueued))
      (only : ∀ other enqueued, system.calls other = some (.starting enqueued) → other = call)
      (all : system.accepted = system.written ++ sent :: system.writer.writeQueue)
  | writing (taken : system.writer.writeInFlight = true) (one : system.outstanding = 1)
      (quiet : NoneStarts system)
      (all : system.accepted = system.written ++ system.writer.writeQueue)
  | failed (down : system.up = false) (taken : system.writer.writeInFlight = true)
      (none : system.outstanding = 0) (quiet : NoneStarts system)
      (all : system.accepted = system.written ++ system.writer.writeQueue)

structure Sound (system : System Frame) : Prop where
  phase : Phase system
  numbered : ∀ sent ∈ system.accepted, ∃ state, system.calls sent.1 = some state ∧
    state ≠ .returned false
  once : (system.accepted.map Prod.fst).Nodup
  bounded : system.writer.writeQueue.length ≤ kMaxStreamQueue

variable {system : System Frame} {state : Call} {call : Nat}

theorem Sound.disciplined (sound : Sound system) : Disciplined system where
  single := by
    cases sound.phase with
    | idle | starting | writing | failed => omega
  ordered := by
    cases sound.phase with
    | idle _ _ _ _ all => exact all ▸ prefix_rfl
    | starting _ _ _ _ _ _ _ _ all | writing _ _ _ all | failed _ _ _ _ all =>
      exact all ▸ prefix_append _ _
  once := sound.once
  complete := by
    intro sent member
    cases sound.phase with
    | idle _ _ _ _ all => exact .inl (all ▸ member)
    | starting call enqueued next _ buffer _ starts _ all =>
      rw [all, mem_append, mem_cons] at member
      obtain early | rfl | later := member
      · exact .inl early
      · exact .inr (.inl ⟨buffer, call, enqueued, starts⟩)
      · exact .inr (.inr later)
    | writing _ _ _ all | failed _ _ _ _ all => grind
  refused := by
    intro call returned frame written
    have accepted : (call, frame) ∈ system.accepted := by
      cases sound.phase with
      | idle _ _ _ _ all => exact all ▸ written
      | starting _ _ _ _ _ _ _ _ all | writing _ _ _ all | failed _ _ _ _ all =>
        exact all ▸ mem_append_left _ written
    obtain ⟨state, found, different⟩ := sound.numbered (call, frame) accepted
    exact different (some.inj (found.symm.trans returned))
  bounded := sound.bounded
  moving := by
    intro up waiting
    cases sound.phase with
    | idle _ empty _ _ _ => exact absurd empty waiting
    | starting call enqueued next _ buffer _ starts _ _ =>
      exact .inr ⟨next, buffer, call, enqueued, starts⟩
    | writing _ one _ _ => exact .inl one
    | failed down _ _ _ _ => exact absurd (down.symm.trans up) Bool.false_ne_true

/-! ### Every step keeps them -/

theorem NoneStarts.update (quiet : NoneStarts system)
    (still : ∀ enqueued, state ≠ .starting enqueued) (other : Nat) (enqueued : Bool) :
    update system.calls call (some state) other ≠ some (.starting enqueued) := by
  intro starts
  obtain ⟨_, same⟩ | ⟨_, before⟩ := update_eq_some starts
  · exact still enqueued same.symm
  · exact quiet other enqueued before

theorem Phase.record (phase : Phase system) (fresh : system.calls call = none)
    (still : ∀ enqueued, state ≠ .starting enqueued) :
    Phase { system with calls := update system.calls call (some state) } := by
  cases phase with
  | idle free empty none quiet all => exact .idle free empty none (quiet.update still) all
  | starting writing enqueued sent taken buffer none starts only all =>
    refine .starting writing enqueued sent taken buffer none ?_ ?_ all
    · grind
    · grind
  | writing taken one quiet all => exact .writing taken one (quiet.update still) all
  | failed down taken none quiet all => exact .failed down taken none (quiet.update still) all

theorem Phase.append (phase : Phase system) (taken : system.writer.writeInFlight = true)
    (sent : Nat × Frame) :
    Phase { system with
      writer := { system.writer with writeQueue := system.writer.writeQueue ++ [sent] }
      accepted := system.accepted ++ [sent] } := by
  cases phase with
  | idle free _ _ _ _ => exact absurd (free.symm.trans taken) Bool.false_ne_true
  | starting call enqueued next taken buffer none starts only all =>
    refine .starting call enqueued next taken buffer none starts only ?_
    rw [all, append_assoc, cons_append]
  | writing taken one quiet all =>
    refine .writing taken one quiet ?_
    rw [all, append_assoc]
  | failed down taken none quiet all =>
    refine .failed down taken none quiet ?_
    rw [all, append_assoc]

theorem numbered_update {calls : Nat → Option Call} {accepted : List (Nat × Frame)}
    (numbered : ∀ sent ∈ accepted, ∃ state, calls sent.1 = some state ∧ state ≠ .returned false)
    (holds : state ≠ .returned false ∨ ∀ sent ∈ accepted, sent.1 ≠ call) :
    ∀ sent ∈ accepted, ∃ found, update calls call (some state) sent.1 = some found ∧
      found ≠ .returned false := by
  intro sent member
  by_cases same : sent.1 = call
  · grind
  · grind

section

variable (sound : Sound system)
include sound

theorem Sound.unused (fresh : system.calls call = none) :
    ∀ sent ∈ system.accepted, sent.1 ≠ call := by
  rintro sent member rfl
  obtain ⟨found, before, _⟩ := sound.numbered sent member
  cases fresh.symm.trans before

theorem Sound.enqueue (fresh : system.calls call = none) (frame : Frame) :
    Sound (system.enqueue call frame) := by
  have unused := sound.unused fresh
  simp only [System.enqueue]
  split
  · exact ⟨sound.phase.record fresh (fun _ wrong => by cases wrong),
      numbered_update sound.numbered (.inr unused), sound.once, sound.bounded⟩
  next startWrite after taken =>
  obtain ⟨room, outcome⟩ := Writer.enqueue_eq_some taken
  have once : ((system.accepted ++ [(call, frame)]).map Prod.fst).Nodup := by
    rw [map_append]
    refine List.Nodup.append sound.once (nodup_singleton _) fun number early late => ?_
    obtain ⟨sent, member, rfl⟩ := mem_map.mp early
    exact unused sent member (mem_singleton.mp late)
  have numbered : ∀ state, state ≠ Call.returned false →
      ∀ sent ∈ system.accepted ++ [(call, frame)], ∃ found,
        update system.calls call (some state) sent.1 = some found ∧
          found ≠ .returned false := by
    intro state different sent member
    obtain early | late := mem_append.mp member
    · exact numbered_update sound.numbered (.inl different) sent early
    · obtain rfl := mem_singleton.mp late
      exact ⟨state, update_self _ _ _, different⟩
  obtain ⟨writing, rfl, rfl⟩ | ⟨free, rfl, rfl⟩ := outcome
  · refine ⟨(sound.phase.append writing (call, frame)).record fresh
      (fun _ wrong => by cases wrong), numbered _ (fun wrong => by cases wrong), once, ?_⟩
    rw [length_append]
    exact room
  -- nothing was being written, so the queue was empty and the new frame is taken at once
  cases sound.phase with
  | idle _ empty none quiet all =>
    refine ⟨.starting call true (call, frame) rfl ?_ none (update_self _ _ _) ?_ ?_,
      numbered _ (fun wrong => by cases wrong), once, ?_⟩
    · simp only [empty]
      rfl
    · intro other enqueued starts
      obtain ⟨same, _⟩ | ⟨_, before⟩ := update_eq_some starts
      · exact same
      · exact absurd before (quiet other enqueued)
    · simp only [empty, all]
      rfl
    · simp only [Writer.takeFront, empty]
      exact Nat.zero_le _
  | starting _ _ _ taken | writing taken | failed _ taken =>
    exact absurd (free.symm.trans taken) Bool.false_ne_true

theorem Sound.startWrite {enqueued : Bool}
    (starts : system.calls call = some (.starting enqueued)) :
    Sound (system.startWrite call enqueued) := by
  cases sound.phase with
  | idle _ _ _ quiet | writing _ _ quiet | failed _ _ _ quiet =>
    exact absurd starts (quiet call enqueued)
  | starting first _ sent taken buffer none _ only all =>
    refine ⟨.writing taken (congrArg (· + 1) none) ?_ ?_, numbered_update sound.numbered (.inl ?_),
      sound.once, sound.bounded⟩
    · intro other enqueued starting
      obtain ⟨_, same⟩ | ⟨different, before⟩ := update_eq_some starting
      · split_ifs at same
      · exact different ((only other _ before).trans (only call _ starts).symm)
    · simp only [System.startWrite, buffer, all]
      exact append_cons _ _ _
    · split_ifs <;> exact fun wrong => by cases wrong

theorem Sound.onWriteDone (call : Nat) (reported : 0 < system.outstanding) :
    Sound (system.onWriteDone call) := by
  cases sound.phase with
  | idle | starting | failed => omega
  | writing taken one quiet all =>
    have ended : system.outstanding - 1 = 0 := by omega
    cases queue : system.writer.writeQueue with
    | nil =>
      simp only [System.onWriteDone, Writer.onWriteDone_of_empty queue]
      refine ⟨.idle rfl queue ended (quiet.update (fun _ wrong => by cases wrong)) ?_,
        numbered_update sound.numbered (.inl (fun wrong => by cases wrong)), sound.once,
        sound.bounded⟩
      rw [all, queue, append_nil]
    | cons next rest =>
      have waiting : system.writer.writeQueue ≠ [] := queue ▸ cons_ne_nil next rest
      simp only [System.onWriteDone, Writer.onWriteDone_of_waiting waiting]
      refine ⟨.starting call false next taken ?_ ended (update_self _ _ _) ?_ ?_,
        numbered_update sound.numbered (.inl (fun wrong => by cases wrong)), sound.once, ?_⟩
      · exact congrArg head? queue
      · intro other enqueued starts
        obtain ⟨same, _⟩ | ⟨_, before⟩ := update_eq_some starts
        · exact same
        · exact absurd before (quiet other enqueued)
      · simp only [Writer.takeFront, queue, all]
        rfl
      refine le_trans ?_ sound.bounded
      rw [Writer.takeFront, length_tail]
      exact Nat.sub_le _ _

theorem Sound.onWriteFailed (reported : 0 < system.outstanding) : Sound system.onWriteFailed := by
  refine ⟨?_, sound.numbered, sound.once, sound.bounded⟩
  cases sound.phase with
  | idle | starting | failed => omega
  | writing taken one quiet all =>
    exact .failed rfl taken (congrArg (· - 1) one) quiet all

theorem Sound.close : Sound { system with writer := { system.writer with closing := true } } := by
  refine ⟨?_, sound.numbered, sound.once, sound.bounded⟩
  cases sound.phase with
  | idle free empty none quiet all => exact .idle free empty none quiet all
  | starting call enqueued sent taken buffer none starts only all =>
    exact .starting call enqueued sent taken buffer none starts only all
  | writing taken one quiet all => exact .writing taken one quiet all
  | failed down taken none quiet all => exact .failed down taken none quiet all

end

theorem sound_step (system : System Frame) (action : Action Frame) (next : System Frame)
    (sound : Sound system) (taken : step system action = some next) : Sound next := by
  cases action with simp only [step] at taken
  | enqueue call frame =>
    split at taken
    · next fresh =>
      obtain rfl : system.enqueue call frame = next := some.inj taken
      exact sound.enqueue fresh frame
    · cases taken
  | startWrite call =>
    split at taken
    · next enqueued starts =>
      obtain rfl : system.startWrite call enqueued = next := some.inj taken
      exact sound.startWrite starts
    · cases taken
  | onWriteDone call =>
    split at taken
    · split_ifs at taken with reported
      obtain rfl : system.onWriteDone call = next := some.inj taken
      exact sound.onWriteDone call reported
    · cases taken
  | onWriteFailed =>
    split_ifs at taken with reported
    obtain rfl : system.onWriteFailed = next := some.inj taken
    exact sound.onWriteFailed reported
  | close =>
    cases taken
    exact sound.close

theorem sound_start : Sound ({} : System Frame) where
  phase := .idle rfl rfl rfl (fun _ _ wrong => by cases wrong) rfl
  numbered := fun _ member => absurd member not_mem_nil
  once := nodup_nil
  bounded := Nat.zero_le _

/-- Whatever calls, callbacks and stops are interleaved, the writes of a stream are disciplined. -/
theorem disciplined_run {actions : List (Action Frame)}
    (taken : run step {} actions = some system) :
    Disciplined system :=
  (run_invariant Sound sound_step sound_start taken).disciplined

/-! ### Both ends of the stream -/

/-- Both classes keep to the discipline, in every run. -/
theorem stream_writes_disciplined :
    (∀ actions system, run messageLinkStep {} actions = some system →
      Disciplined system) ∧
    ∀ actions system, run reactorStep {} actions = some system →
      Disciplined system :=
  ⟨fun _ _ taken => disciplined_run taken, fun _ _ taken => disciplined_run taken⟩

def twoHeartbeats : List (Action GatewayToMessageFrame) :=
  [.enqueue 0 (.heartbeat 100 1), .enqueue 1 (.heartbeat 200 2), .startWrite 0, .onWriteDone 2,
    .startWrite 2]

def heartbeatsWritten : System GatewayToMessageFrame :=
  (run messageLinkStep {} twoHeartbeats).getD {}

theorem stream_writes_disciplined_heartbeats :
    run messageLinkStep {} twoHeartbeats = some heartbeatsWritten ∧
      Disciplined heartbeatsWritten ∧
      heartbeatsWritten.written = [(0, .heartbeat 100 1), (1, .heartbeat 200 2)] := by
  have taken : run messageLinkStep {} twoHeartbeats = some heartbeatsWritten := rfl
  exact ⟨taken, stream_writes_disciplined.1 _ _ taken, rfl⟩

end Wimi.Gateway.StreamWriter
