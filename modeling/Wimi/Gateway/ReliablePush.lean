/-
This file is about `SendReliable`: a push is sent again, at most twice, until the client
acknowledges its sequence number.

`SendReliable` calls `SendRaw`, and if that returns true it posts a registration to the
strand. The registration puts an entry into `reliableWrites` under the sequence number, in
the place of an older one, and arms a timer. The handler of the timer looks the number up
again: a push that was sent three times is given up, another is sent once more and its
timer is armed anew. An acknowledgement removes the entry.

A timer that is cancelled, or released with its entry, while it waits does not call its
handler. But a handler that is already on its way to the strand runs, and it finds whatever
entry is there then; what is sent is counted for the call of `SendReliable` that the entry
comes from. Registrations and timers are taken from the strand in any order relative to the
other tasks, and the steps of `SendRaw` and of the write queue are those of
`SessionWrites`. Noted beside are the calls of `SendRaw` made for each call of
`SendReliable`, and the registrations, acknowledgements and resends, the latest first.
-/

import Wimi.Gateway.SessionWrites

namespace Wimi.Gateway

open List Option Transition

open Client (ByteOrder)

/-! ### The state -/

structure PendingPush where
  owner : Nat
  packet : List UInt8
  protocolId : UInt32
  ackSeq : Int
deriving DecidableEq, Repr

structure ReliableWrite where
  ackSeq : Int
  packet : List UInt8
  protocolId : UInt32
  attempts : Nat
  timer : Option Nat
  owner : Nat
deriving DecidableEq, Repr

/-- A timer waits, its handler is on its way to the strand without an error, or its handler has
run or will do nothing. -/
inductive TimerState where
  | waiting
  | queued
  | finished
deriving DecidableEq, Repr

structure ReliableTimer where
  ackSeq : Int
  state : TimerState
deriving DecidableEq, Repr

def ReliableTimer.cancel (timer : ReliableTimer) : ReliableTimer :=
  if timer.state = .waiting then { timer with state := .finished } else timer

inductive PushEvent where
  | registered (ackSeq : Int)
  | acknowledged (ackSeq : Int)
  | resent (ackSeq : Int)
deriving DecidableEq, Repr

/-- `handler` is a timer's handler that has called `SendRaw` and waits for its result: the call and
the sequence number. -/
structure ReliableSession where
  writes : SessionWrites := {}
  sending : List PendingPush := []
  registrations : List PendingPush := []
  reliableWrites : List ReliableWrite := []
  timers : List ReliableTimer := []
  handler : Option (Nat × Int) := none
  sends : List (Nat × Nat) := []
  log : List PushEvent := []
deriving DecidableEq, Repr

namespace ReliableSession

variable (session : ReliableSession)

/-! ### The handlers -/

def find (ackSeq : Int) : Option ReliableWrite :=
  session.reliableWrites.find? (·.ackSeq = ackSeq)

def release : Option Nat → List ReliableTimer
  | none => session.timers
  | some timer => session.timers.modify timer ReliableTimer.cancel

def erase (ackSeq : Int) : ReliableSession :=
  { session with
    timers := session.release ((session.find ackSeq).bind ReliableWrite.timer)
    reliableWrites := session.reliableWrites.filter (·.ackSeq ≠ ackSeq) }

def armReliableWrite (ackSeq : Int) : ReliableSession :=
  if (session.find ackSeq).isNone ∨ session.writes.closed then session
  else
    { session with
      timers := session.release ((session.find ackSeq).bind ReliableWrite.timer) ++
        [⟨ackSeq, .waiting⟩]
      reliableWrites := Lists.updateFirst (·.ackSeq = ackSeq)
        (fun write => { write with timer := some session.timers.length }) session.reliableWrites }

def sendReliable (packet : List UInt8) (protocolId : UInt32) (ackSeq : Int) : ReliableSession :=
  { session with
    writes := session.writes.sendRaw packet protocolId false
    sending :=
      if ackSeq ≤ 0 then session.sending
      else session.sending ++ [⟨session.writes.calls.length, packet, protocolId, ackSeq⟩]
    sends := (session.writes.calls.length, session.writes.calls.length) :: session.sends }

def store (push : PendingPush) : ReliableSession :=
  { session.erase push.ackSeq with
    reliableWrites := (session.erase push.ackSeq).reliableWrites ++
      [⟨push.ackSeq, push.packet, push.protocolId, 1, none, push.owner⟩]
    log := .registered push.ackSeq :: session.log }

def register (push : PendingPush) : ReliableSession :=
  (session.store push).armReliableWrite push.ackSeq

def acknowledgeTransport (ackSeq : Int) : ReliableSession :=
  if (session.find ackSeq).isNone then session
  else { session.erase ackSeq with log := .acknowledged ackSeq :: session.log }

def onTimer (ackSeq : Int) : ReliableSession :=
  match session.find ackSeq with
  | none => session
  | some current =>
    if 3 ≤ current.attempts then session.erase ackSeq
    else
      { session with
        writes := session.writes.sendRaw current.packet current.protocolId false
        reliableWrites := Lists.updateFirst (·.ackSeq = ackSeq)
          (fun write => { write with attempts := write.attempts + 1 }) session.reliableWrites
        handler := some (session.writes.calls.length, ackSeq)
        sends := (current.owner, session.writes.calls.length) :: session.sends
        log := .resent ackSeq :: session.log }

def finishTimer (ackSeq : Int) (accepted : Bool) : ReliableSession :=
  if accepted then { session with handler := none }.armReliableWrite ackSeq
  else { session with handler := none }.erase ackSeq

/-- A step of the writes; `CloseInContext` cancels the timers and clears `reliableWrites`. -/
def withWrites (after : SessionWrites) : ReliableSession :=
  if after.closed && !session.writes.closed then
    { session with
      writes := after
      timers := session.reliableWrites.foldl
        (fun timers write => { session with timers }.release write.timer) session.timers
      reliableWrites := [] }
  else { session with writes := after }

end ReliableSession

open ReliableSession

/-! ### Steps -/

def WriteAction.onStrand : WriteAction → Bool
  | .quit _ => true
  | .runTask _ => true
  | .closeInContext => true
  | _ => false

inductive PushAction where
  | writes (action : WriteAction)
  | sendReliable (packet : List UInt8) (protocolId : UInt32) (ackSeq : Int)
  | postRegistration (call : Nat)
  | register
  | acknowledge (ackSeq : Int)
  | expire (timer : Nat)
  | onTimer (timer : Nat)
  | finishTimer
deriving DecidableEq, Repr

namespace ReliableSession

def strandFree (session : ReliableSession) : Bool :=
  session.handler = none ∧ session.writes.handler = none

def step (order : ByteOrder) (session : ReliableSession) : PushAction → Option ReliableSession
  | .writes action =>
    if session.handler.isSome ∧ action.onStrand then none
    else (SessionWrites.step order session.writes action).map session.withWrites
  | .sendReliable packet protocolId ackSeq =>
    some (session.sendReliable packet protocolId ackSeq)
  | .postRegistration call =>
    match session.sending.find? (·.owner = call) with
    | none => none
    | some push =>
      if session.writes.calls[call]?.map SendCall.stage = some (.returned true) then
        some { session with
          sending := session.sending.erase push
          registrations := session.registrations ++ [push] }
      else none
  | .register =>
    match session.registrations with
    | [] => none
    | push :: rest =>
      if session.strandFree then some ({ session with registrations := rest }.register push)
      else none
  | .acknowledge ackSeq =>
    if session.strandFree then some (session.acknowledgeTransport ackSeq) else none
  | .expire timer =>
    match session.timers[timer]? with
    | some ⟨ackSeq, .waiting⟩ =>
      some { session with timers := session.timers.set timer ⟨ackSeq, .queued⟩ }
    | _ => none
  | .onTimer timer =>
    match session.timers[timer]? with
    | some ⟨ackSeq, .queued⟩ =>
      if session.strandFree then
        some ({ session with timers := session.timers.set timer ⟨ackSeq, .finished⟩ }.onTimer
          ackSeq)
      else none
    | _ => none
  | .finishTimer =>
    match session.handler with
    | none => none
    | some (call, ackSeq) =>
      match session.writes.calls[call]?.map SendCall.stage with
      | some (.returned accepted) => some (session.finishTimer ackSeq accepted)
      | _ => none

/-! ### What is to hold -/

/-- Every call of `SendReliable` has led to at most three calls of `SendRaw`, all with its packet;
and after an acknowledgement has removed an entry, nothing is sent again for the number before
another registration. -/
structure PushBound (session : ReliableSession) : Prop where
  thrice : ∀ owner, (session.sends.map Prod.fst).count owner ≤ 3
  packets : ∀ owner call, (owner, call) ∈ session.sends → ∃ own sent,
    session.writes.calls[owner]? = some own ∧ session.writes.calls[call]? = some sent ∧
      sent.packet = own.packet ∧ sent.protocolId = own.protocolId
  silent : ∀ ackSeq late middle early,
    session.log = late ++ .resent ackSeq :: (middle ++ .acknowledged ackSeq :: early) →
      .registered ackSeq ∈ middle

end ReliableSession

/-! ### What stays of the writes -/

variable {after before : SessionWrites}

namespace SessionWrites

structure Later (before after : SessionWrites) : Prop where
  closed : before.closed = true → after.closed = true
  calls : ∀ (call : Nat) (state : SendCall), before.calls[call]? = some state → ∃ later,
    after.calls[call]? = some later ∧ later.packet = state.packet ∧
      later.protocolId = state.protocolId ∧ (state.running = false → later = state)
  refused : before.closed = true → ∀ (call : Nat) (state : SendCall), before.calls.length ≤ call →
    after.calls[call]? = some state → state.stage = .returned false

theorem Later.length_le (later : Later before after) :
    before.calls.length ≤ after.calls.length := by
  by_contra shorter
  have bound : after.calls.length < before.calls.length := Nat.lt_of_not_le shorter
  obtain ⟨state, found, _⟩ := later.calls _ _ (List.getElem?_eq_getElem bound)
  rw [List.getElem?_eq_none (Nat.le_refl _)] at found
  cases found

theorem Later.of_calls (calls : after.calls = before.calls)
    (closed : before.closed = true → after.closed = true) : Later before after where
  closed := closed
  calls := by
    intro call state found
    exact ⟨state, by rw [calls, found], rfl, rfl, fun _ => rfl⟩
  refused := by
    intro _ call state late found
    rw [calls, List.getElem?_eq_none late] at found
    cases found

theorem Later.refl (writes : SessionWrites) : Later writes writes := .of_calls rfl id

theorem Later.trans {first second third : SessionWrites} (early : Later first second)
    (late : Later second third) : Later first third where
  closed := fun closed => late.closed (early.closed closed)
  calls := by
    intro call state found
    obtain ⟨middle, foundMiddle, packet, protocolId, settled⟩ := early.calls call state found
    obtain ⟨last, foundLast, packets, protocolIds, settles⟩ := late.calls call middle foundMiddle
    refine ⟨last, foundLast, packets.trans packet, protocolIds.trans protocolId, fun returned => ?_⟩
    have same := settled returned
    subst same
    exact settles returned
  refused := by
    intro closed call state beyond found
    by_cases known : call < second.calls.length
    · -- the call has been refused already, and stays so
      have refused := early.refused closed call _ beyond (List.getElem?_eq_getElem known)
      obtain ⟨last, foundLast, _, _, settles⟩ :=
        late.calls call _ (List.getElem?_eq_getElem known)
      have returned : second.calls[call].running = false := by
        rw [SendCall.running, refused]
      rw [settles returned] at foundLast
      cases foundLast.symm.trans found
      exact refused
    · exact late.refused (early.closed closed) call state (Nat.le_of_not_lt known) found

theorem later_sendRaw (writes : SessionWrites) (packet : List UInt8) (protocolId : UInt32)
    (quit : Bool) : Later writes (writes.sendRaw packet protocolId quit) where
  closed := id
  calls := by
    intro call state found
    refine ⟨state, ?_, rfl, rfl, fun _ => rfl⟩
    rw [sendRaw, List.getElem?_append_left (List.getElem?_eq_some_iff.mp found).1, found]
  refused := by
    intro closed call state late found
    obtain early | ⟨_, rfl⟩ := Lists.getElem?_concat_eq_some found
    · exact absurd (List.getElem?_eq_some_iff.mp early).1 (Nat.not_lt_of_le late)
    · exact if_pos closed

theorem later_advance {writes : SessionWrites} {call : Nat} {state : SendCall}
    (found : writes.calls[call]? = some state) (running : state.running = true)
    (next : SendStage) : Later writes (writes.advance call state next) where
  closed := id
  calls := by
    intro other before present
    rw [getElem?_advance found]
    split_ifs with same
    · cases found.symm.trans (same ▸ present)
      exact ⟨_, rfl, rfl, rfl, fun returned => absurd (returned.symm.trans running)
        Bool.false_ne_true⟩
    · exact ⟨before, present, rfl, rfl, fun _ => rfl⟩
  refused := by
    intro _ other after late present
    have bound := (List.getElem?_eq_some_iff.mp present).1
    rw [advance, length_set] at bound
    exact absurd bound (Nat.not_lt_of_le late)

theorem calls_finishQuit (writes : SessionWrites) (call : Nat) :
    (writes.finishQuit call).calls = writes.calls ∧
      (writes.finishQuit call).closed = writes.closed := by
  rw [finishQuit]
  split_ifs <;> exact ⟨rfl, rfl⟩

theorem calls_writeLoop (writes : SessionWrites) :
    writes.writeLoop.calls = writes.calls ∧
      (writes.closed = true → writes.writeLoop.closed = true) := by
  rw [writeLoop]
  split
  · grind
  · grind

theorem calls_runTask (writes : SessionWrites) (startsAtOnce : Bool) (task : StrandTask) :
    (writes.runTask startsAtOnce task).calls = writes.calls ∧
      (writes.closed = true → (writes.runTask startsAtOnce task).closed = true) := by
  cases task with
  | push call frame =>
    simp only [runTask, pushFrame]
    split_ifs with closed
    · exact ⟨rfl, id⟩
    · exact ⟨rfl, id⟩
    · exact calls_writeLoop _
    · exact ⟨rfl, id⟩
  | close => exact ⟨rfl, fun _ => rfl⟩
  | writeStart => exact calls_writeLoop writes
  | writeDone ok =>
    cases ok with
    | true => exact calls_writeLoop _
    | false => exact ⟨rfl, fun _ => rfl⟩

theorem later_step {order : ByteOrder} {writes next : SessionWrites} {action : WriteAction}
    (taken : step order writes action = some next) : Later writes next := by
  cases action with
  | sendRaw packet protocolId =>
    exact some.inj taken ▸ later_sendRaw writes packet protocolId false
  | quit packet =>
    obtain ⟨_, rfl⟩ := ite_some_none_eq_some.mp taken
    refine (later_sendRaw writes packet (getServiceResponseId Session.userQuitReq) true).trans ?_
    rw [quit]
    split_ifs
    · exact .of_calls rfl id
    · exact .of_calls rfl id
  | fetchAdd call | fetchSub call =>
    obtain ⟨state, found, stage, rfl⟩ := callAt_map_eq_some taken
    exact (later_advance found (by rw [SendCall.running, stage]) _).trans (.of_calls rfl id)
  | postClose call =>
    obtain ⟨state, found, stage, rfl⟩ := callAt_map_eq_some taken
    refine (later_advance found (by rw [SendCall.running, stage]) (.returned false)).trans ?_
    exact .of_calls (calls_finishQuit _ call).1
      fun closed => (calls_finishQuit _ call).2.trans closed
  | postFrame call =>
    obtain ⟨state, found, stage, rfl⟩ := callAt_map_eq_some taken
    refine (later_advance found (by rw [SendCall.running, stage]) (.returned true)).trans ?_
    exact .of_calls (calls_finishQuit _ call).1
      fun closed => (calls_finishQuit _ call).2.trans closed
  | runTask startsAtOnce =>
    obtain ⟨_, task, rest, strand, rfl⟩ := step_runTask taken
    have kept := calls_runTask { writes with strand := rest } startsAtOnce task
    exact .of_calls kept.1 kept.2
  | writeCompleted ok =>
    obtain ⟨_, rfl⟩ := ite_some_none_eq_some.mp taken
    exact .of_calls rfl id
  | closeInContext =>
    obtain ⟨_, rfl⟩ := ite_some_none_eq_some.mp taken
    exact .of_calls rfl fun _ => rfl
  | close => exact some.inj taken ▸ .of_calls rfl id

end SessionWrites

namespace ReliableSession

/-! ### Counting what is sent -/

structure Tallied (known : Nat) (owners : List Nat) (tally : List (Nat × Nat)) : Prop where
  distinct : (tally.map Prod.fst).Nodup
  counted : ∀ pair ∈ tally, owners.count pair.1 = pair.2
  positive : ∀ pair ∈ tally, 0 < pair.2
  thrice : ∀ owner, owners.count owner ≤ 3
  known : ∀ owner ∈ owners, owner < known

namespace Tallied

variable {known : Nat} {owners : List Nat} {tally : List (Nat × Nat)}

theorem drop (tallied : Tallied known owners tally) {fewer : List (Nat × Nat)}
    (subperm : fewer.Subperm tally) : Tallied known owners fewer where
  distinct := by
    obtain ⟨middle, perm, sublist⟩ := subperm
    exact ((perm.map Prod.fst).nodup_iff).mp ((sublist.map Prod.fst).nodup tallied.distinct)
  counted := fun pair member => tallied.counted pair (subperm.subset member)
  positive := fun pair member => tallied.positive pair (subperm.subset member)
  thrice := tallied.thrice
  known := tallied.known

theorem mono (tallied : Tallied known owners tally) {more : Nat} (le : known ≤ more) :
    Tallied more owners tally :=
  { tallied with known := fun owner member => lt_of_lt_of_le (tallied.known owner member) le }

theorem begin (tallied : Tallied known owners tally) :
    Tallied (known + 1) (known :: owners) ((known, 1) :: tally) := by
  have fresh : known ∉ owners := fun member => Nat.lt_irrefl _ (tallied.known known member)
  have none : owners.count known = 0 := count_eq_zero.mpr fresh
  have different (pair : Nat × Nat) (member : pair ∈ tally) : pair.1 ≠ known := by
    intro same
    have positive := tallied.positive pair member
    rw [← tallied.counted pair member, same, none] at positive
    exact Nat.lt_irrefl _ positive
  refine ⟨?_, ?_, ?_, ?_, ?_⟩
  · refine nodup_cons.mpr ⟨fun member => ?_, tallied.distinct⟩
    obtain ⟨pair, inTally, same⟩ := mem_map.mp member
    exact different pair inTally same
  · refine forall_mem_cons.mpr ⟨?_, fun pair member => ?_⟩
    · rw [count_cons_self, none]
    · rw [count_cons_of_ne (different pair member).symm]
      exact tallied.counted pair member
  · exact forall_mem_cons.mpr ⟨Nat.one_pos, tallied.positive⟩
  · intro owner
    by_cases same : owner = known
    · rw [same, count_cons_self, none]
      decide
    · rw [count_cons_of_ne (Ne.symm same)]
      exact tallied.thrice owner
  · refine forall_mem_cons.mpr ⟨Nat.lt_succ_self known, fun owner member => ?_⟩
    exact Nat.lt_succ_of_lt (tallied.known owner member)

theorem again {owner sent : Nat} (tallied : Tallied known owners ((owner, sent) :: tally))
    (few : sent < 3) :
    Tallied (known + 1) (owner :: owners) ((owner, sent + 1) :: tally) := by
  obtain ⟨fresh, distinct⟩ := nodup_cons.mp tallied.distinct
  have own : owners.count owner = sent := tallied.counted _ mem_cons_self
  have positive : 0 < sent := tallied.positive _ mem_cons_self
  refine ⟨nodup_cons.mpr ⟨fresh, distinct⟩, ?_, ?_, ?_, ?_⟩
  · refine forall_mem_cons.mpr ⟨?_, fun pair member => ?_⟩
    · rw [count_cons_self, own]
    have different : owner ≠ pair.1 := by grind
    rw [count_cons_of_ne different]
    exact tallied.counted pair (mem_cons_of_mem _ member)
  · refine forall_mem_cons.mpr ⟨Nat.succ_pos sent, fun pair member => ?_⟩
    exact tallied.positive pair (mem_cons_of_mem _ member)
  · intro other
    by_cases same : other = owner
    · rw [same, count_cons_self, own]
      exact few
    · rw [count_cons_of_ne (Ne.symm same)]
      exact tallied.thrice other
  have member : owner ∈ owners := count_pos_iff.mp (own ▸ positive)
  refine forall_mem_cons.mpr ⟨Nat.lt_succ_of_lt (tallied.known owner member), ?_⟩
  exact fun other known => Nat.lt_succ_of_lt (tallied.known other known)

end Tallied

/-! ### What was acknowledged -/

def Covered (log : List PushEvent) (ackSeq : Int) : Prop :=
  ∀ late early, log = late ++ .acknowledged ackSeq :: early → .registered ackSeq ∈ late

theorem Covered.cons {log : List PushEvent} {ackSeq : Int} {event : PushEvent}
    (covered : Covered log ackSeq) (other : event ≠ .acknowledged ackSeq) :
    Covered (event :: log) ackSeq := by
  intro late early split
  cases late with
  | nil => exact absurd (cons.inj split).1 other
  | cons first late =>
    exact mem_cons_of_mem _ (covered late early (cons.inj split).2)

theorem covered_registered (log : List PushEvent) (ackSeq : Int) :
    Covered (.registered ackSeq :: log) ackSeq := by
  intro late early split
  cases late with
  | nil => cases (cons.inj split).1
  | cons first late =>
    rw [← (cons.inj split).1]
    exact mem_cons_self

def Silent (log : List PushEvent) : Prop :=
  ∀ ackSeq late middle early,
    log = late ++ .resent ackSeq :: (middle ++ .acknowledged ackSeq :: early) →
      .registered ackSeq ∈ middle

theorem Silent.cons {log : List PushEvent} {event : PushEvent} (silent : Silent log)
    (covers : ∀ ackSeq, event = .resent ackSeq → Covered log ackSeq) : Silent (event :: log) := by
  intro ackSeq late middle early split
  cases late with
  | nil =>
    obtain ⟨same, rest⟩ := cons.inj split
    exact covers ackSeq same middle early rest
  | cons first late => exact silent ackSeq late middle early (cons.inj split).2

/-! ### The invariant -/

def Carries (calls : List SendCall) (call : Nat) (packet : List UInt8) (protocolId : UInt32) :
    Prop :=
  ∃ state, calls[call]? = some state ∧ state.packet = packet ∧ state.protocolId = protocolId

def tally (session : ReliableSession) : List (Nat × Nat) :=
  (session.sending ++ session.registrations).map (fun push => (push.owner, 1)) ++
    session.reliableWrites.map fun write => (write.owner, write.attempts)

structure Sound (session : ReliableSession) : Prop where
  tallied : Tallied session.writes.calls.length (session.sends.map Prod.fst) session.tally
  pushes : ∀ push ∈ session.sending ++ session.registrations,
    Carries session.writes.calls push.owner push.packet push.protocolId
  entries : ∀ write ∈ session.reliableWrites,
    Carries session.writes.calls write.owner write.packet write.protocolId ∧
      Covered session.log write.ackSeq
  packets : ∀ pair ∈ session.sends, ∃ packet protocolId,
    Carries session.writes.calls pair.1 packet protocolId ∧
      Carries session.writes.calls pair.2 packet protocolId
  silent : Silent session.log

theorem Sound.bound {session : ReliableSession} (sound : Sound session) : PushBound session where
  thrice := sound.tallied.thrice
  packets := by
    intro owner call member
    obtain ⟨packet, protocolId, ⟨own, foundOwn, rfl, rfl⟩, sent, foundSent, same, sameId⟩ :=
      sound.packets (owner, call) member
    exact ⟨own, sent, foundOwn, foundSent, same, sameId⟩
  silent := sound.silent

theorem Carries.later (later : SessionWrites.Later before after) {call : Nat} {packet : List UInt8}
    {protocolId : UInt32} (carries : Carries before.calls call packet protocolId) :
    Carries after.calls call packet protocolId := by
  obtain ⟨state, found, rfl, rfl⟩ := carries
  obtain ⟨last, foundLast, same, sameId, _⟩ := later.calls call state found
  exact ⟨last, foundLast, same, sameId⟩

theorem Sound.drop {session after : ReliableSession} (sound : Sound session)
    (later : SessionWrites.Later session.writes after.writes)
    (sends : after.sends = session.sends) (log : after.log = session.log)
    (pushes : after.sending ++ after.registrations ⊆ session.sending ++ session.registrations)
    (entries : ∀ write ∈ after.reliableWrites, ∃ old ∈ session.reliableWrites,
      write.owner = old.owner ∧ write.packet = old.packet ∧ write.protocolId = old.protocolId ∧
        write.ackSeq = old.ackSeq)
    (tally : after.tally.Subperm session.tally) : Sound after where
  tallied := by
    rw [sends]
    exact (sound.tallied.drop tally).mono later.length_le
  pushes := fun push member => (sound.pushes push (pushes member)).later later
  entries := by
    intro write member
    obtain ⟨old, present, owner, packet, protocolId, ackSeq⟩ := entries write member
    rw [owner, packet, protocolId, ackSeq, log]
    exact ⟨(sound.entries old present).1.later later, (sound.entries old present).2⟩
  packets := by
    rw [sends]
    intro pair member
    obtain ⟨packet, protocolId, own, sent⟩ := sound.packets pair member
    exact ⟨packet, protocolId, own.later later, sent.later later⟩
  silent := by
    rw [log]
    exact sound.silent

/-! ### Every step -/

section Steps

variable {session : ReliableSession}

section

variable (sound : Sound session)
include sound

theorem Sound.withTimers (timers : List ReliableTimer) (handler : Option (Nat × Int)) :
    Sound { session with timers, handler } :=
  ⟨sound.tallied, sound.pushes, sound.entries, sound.packets, sound.silent⟩

theorem Sound.erase (ackSeq : Int) : Sound (session.erase ackSeq) := by
  refine sound.drop (.refl _) rfl rfl (List.Subset.refl _) ?_ ?_
  · intro write member
    exact ⟨write, mem_of_mem_filter member, rfl, rfl, rfl, rfl⟩
  · exact ((filter_sublist.map _).append_left _).subperm

theorem Sound.armReliableWrite (ackSeq : Int) : Sound (session.armReliableWrite ackSeq) := by
  rw [ReliableSession.armReliableWrite]
  split_ifs
  · exact sound
  refine sound.drop (.refl _) rfl rfl (List.Subset.refl _) ?_ ?_
  · refine Lists.forall_mem_updateFirst (fun write member => ⟨write, member, rfl, rfl, rfl, rfl⟩) ?_
    intro write found
    exact ⟨write, mem_of_find?_eq_some found, rfl, rfl, rfl, rfl⟩
  · rw [tally, Lists.map_updateFirst (by intro write; rfl)]
    exact List.Subperm.refl _

theorem Sound.store {push : PendingPush} {rest : List PendingPush}
    (registrations : session.registrations = push :: rest) :
    Sound ({ session with registrations := rest }.store push) where
  tallied := by
    refine sound.tallied.drop ?_
    have before : session.tally.Perm ((push.owner, 1) ::
        { session with registrations := rest }.tally) := by
      rw [tally, tally, registrations, map_append, map_append]
      exact perm_middle.append_right _
    have after : ({ session with registrations := rest }.store push).tally.Perm
        ((push.owner, 1) :: ({ session with registrations := rest }.erase push.ackSeq).tally) := by
      have last : ({ session with registrations := rest }.store push).tally =
          ({ session with registrations := rest }.erase push.ackSeq).tally ++
            [(push.owner, 1)] := by
        simp only [tally, ReliableSession.store, map_append, append_assoc]
        rfl
      rw [last]
      exact perm_append_singleton _ _
    refine after.subperm.trans (List.Subperm.trans ?_ before.symm.subperm)
    exact (((filter_sublist.map _).append_left _).cons_cons _).subperm
  pushes := by
    intro other member
    refine sound.pushes other ?_
    rw [registrations]
    refine (mem_append.mp member).elim (mem_append_left _) fun late => ?_
    exact mem_append_right _ (mem_cons_of_mem _ late)
  entries := by
    intro write member
    obtain early | late := mem_append.mp member
    · obtain ⟨carries, covered⟩ := sound.entries write (mem_of_mem_filter early)
      exact ⟨carries, covered.cons (fun wrong => by cases wrong)⟩
    obtain rfl := mem_singleton.mp late
    refine ⟨sound.pushes push ?_, covered_registered _ _⟩
    rw [registrations]
    exact mem_append_right _ mem_cons_self
  packets := sound.packets
  silent := sound.silent.cons (fun _ wrong => by cases wrong)

theorem Sound.acknowledgeTransport (ackSeq : Int) :
    Sound (session.acknowledgeTransport ackSeq) := by
  rw [ReliableSession.acknowledgeTransport]
  split_ifs
  · exact sound
  have erased := sound.erase ackSeq
  refine ⟨erased.tallied, erased.pushes, fun write member => ?_, erased.packets,
    sound.silent.cons (fun _ wrong => by cases wrong)⟩
  obtain ⟨carries, covered⟩ := erased.entries write member
  refine ⟨carries, covered.cons fun same => ?_⟩
  have kept : write ∈ session.reliableWrites.filter (·.ackSeq ≠ ackSeq) := member
  have other : write.ackSeq ≠ ackSeq := by simpa using of_mem_filter kept
  exact other (PushEvent.acknowledged.inj same).symm

end

theorem length_sendRaw (writes : SessionWrites) (packet : List UInt8) (protocolId : UInt32)
    (quit : Bool) :
    (writes.sendRaw packet protocolId quit).calls.length = writes.calls.length + 1 :=
  length_append

theorem carries_sendRaw (writes : SessionWrites) (packet : List UInt8) (protocolId : UInt32) :
    Carries (writes.sendRaw packet protocolId false).calls writes.calls.length packet protocolId :=
  ⟨_, List.getElem?_concat_length, rfl, rfl⟩

theorem Sound.sendReliable (sound : Sound session) (packet : List UInt8) (protocolId : UInt32)
    (ackSeq : Int) : Sound (session.sendReliable packet protocolId ackSeq) := by
  have later := SessionWrites.later_sendRaw session.writes packet protocolId false
  have own := carries_sendRaw session.writes packet protocolId
  have longer : (session.sendReliable packet protocolId ackSeq).tally.Subperm
      ((session.writes.calls.length, 1) :: session.tally) := by
    rw [tally, ReliableSession.sendReliable]
    split_ifs
    · exact (sublist_cons_self _ _).subperm
    rw [append_assoc, singleton_append, map_append, tally,
      map_append]
    exact (perm_middle.append_right _).subperm
  refine ⟨?_, ?_, ?_, ?_, sound.silent⟩
  · have begun := sound.tallied.begin.drop longer
    rw [← length_sendRaw session.writes packet protocolId false] at begun
    exact begun
  · intro push member
    rw [ReliableSession.sendReliable] at member
    split_ifs at member
    · exact (sound.pushes push member).later later
    rw [append_assoc, singleton_append, mem_append, mem_cons] at member
    obtain early | rfl | late := member
    · exact (sound.pushes push (mem_append_left _ early)).later later
    · exact own
    · exact (sound.pushes push (mem_append_right _ late)).later later
  · intro write member
    exact ⟨(sound.entries write member).1.later later, (sound.entries write member).2⟩
  refine forall_mem_cons.mpr ⟨⟨packet, protocolId, own, own⟩, fun pair member => ?_⟩
  obtain ⟨packet, protocolId, first, sent⟩ := sound.packets pair member
  exact ⟨packet, protocolId, first.later later, sent.later later⟩

theorem perm_tally (pushes : List (Nat × Nat)) (before behind : List ReliableWrite)
    (write : ReliableWrite) :
    (pushes ++ (before ++ write :: behind).map fun write => (write.owner, write.attempts)).Perm
      ((write.owner, write.attempts) ::
        (pushes ++ (before ++ behind).map fun write => (write.owner, write.attempts))) := by
  rw [map_append, map_append, ← append_assoc, ← append_assoc]
  exact perm_middle

/-- The handler of a timer sends the packet of the entry it finds once more, or gives it up. -/
theorem Sound.onTimer (sound : Sound session) (ackSeq : Int) : Sound (session.onTimer ackSeq) := by
  rw [ReliableSession.onTimer]
  split
  · exact sound
  next current found =>
  split_ifs with many
  · exact sound.erase ackSeq
  have later := SessionWrites.later_sendRaw session.writes current.packet current.protocolId false
  have sent := carries_sendRaw session.writes current.packet current.protocolId
  have member := mem_of_find?_eq_some found
  have key : current.ackSeq = ackSeq := by simpa using find?_some found
  obtain ⟨own, covered⟩ := sound.entries current member
  refine ⟨?_, fun push present => (sound.pushes push present).later later, ?_, ?_, ?_⟩
  · obtain ⟨before, behind, rows, changed⟩ := Lists.exists_updateFirst found
    have tallied := sound.tallied
    rw [tally, rows] at tallied
    have again := (tallied.drop (perm_tally _ before behind current).symm.subperm).again
      (Nat.lt_of_not_le many)
    rw [← length_sendRaw session.writes current.packet current.protocolId false] at again
    refine again.drop ?_
    rw [changed]
    exact (perm_tally _ before behind _).subperm
  · refine Lists.forall_mem_updateFirst (fun write present => ?_) (fun write isFound => ?_)
    · obtain ⟨carries, covers⟩ := sound.entries write present
      exact ⟨carries.later later, covers.cons (fun wrong => by cases wrong)⟩
    · obtain ⟨carries, covers⟩ := sound.entries write (mem_of_find?_eq_some isFound)
      exact ⟨carries.later later, covers.cons (fun wrong => by cases wrong)⟩
  · refine forall_mem_cons.mpr
      ⟨⟨current.packet, current.protocolId, own.later later, sent⟩, fun pair present => ?_⟩
    obtain ⟨packet, protocolId, first, second⟩ := sound.packets pair present
    exact ⟨packet, protocolId, first.later later, second.later later⟩
  refine sound.silent.cons fun other same => ?_
  rw [← PushEvent.resent.inj same, ← key]
  exact covered

theorem Sound.finishTimer (sound : Sound session) (ackSeq : Int) (accepted : Bool) :
    Sound (session.finishTimer ackSeq accepted) := by
  rw [ReliableSession.finishTimer]
  split_ifs
  · exact (sound.withTimers session.timers none).armReliableWrite ackSeq
  · exact (sound.withTimers session.timers none).erase ackSeq

theorem Sound.withWrites (sound : Sound session)
    (later : SessionWrites.Later session.writes after) :
    Sound (session.withWrites after) := by
  rw [ReliableSession.withWrites]
  split_ifs
  · refine sound.drop later rfl rfl (List.Subset.refl _)
      (fun write member => absurd member not_mem_nil) ?_
    rw [tally, map_nil, append_nil]
    exact (sublist_append_left _ _).subperm
  · exact sound.drop later rfl rfl (List.Subset.refl _)
      (fun write member => ⟨write, member, rfl, rfl, rfl, rfl⟩) (List.Subperm.refl _)

theorem writes_armReliableWrite (session : ReliableSession) (ackSeq : Int) :
    (session.armReliableWrite ackSeq).writes = session.writes := by
  rw [armReliableWrite]
  split_ifs <;> rfl

theorem later_onTimer (session : ReliableSession) (ackSeq : Int) :
    SessionWrites.Later session.writes (session.onTimer ackSeq).writes := by
  rw [onTimer]
  split
  · exact .refl _
  split_ifs
  · exact .refl _
  · exact SessionWrites.later_sendRaw _ _ _ _

theorem sound_step (order : ByteOrder) (session : ReliableSession) (action : PushAction)
    (next : ReliableSession) (sound : Sound session)
    (taken : step order session action = some next) :
    Sound next ∧ SessionWrites.Later session.writes next.writes := by
  cases action with simp only [step] at taken
  | writes action =>
    split_ifs at taken
    obtain ⟨after, stepped, rfl⟩ := map_eq_some_iff.mp taken
    have later := SessionWrites.later_step stepped
    refine ⟨sound.withWrites later, ?_⟩
    rw [withWrites]
    split_ifs <;> exact later
  | sendReliable packet protocolId ackSeq =>
    cases taken
    exact ⟨sound.sendReliable packet protocolId ackSeq, SessionWrites.later_sendRaw _ _ _ _⟩
  | postRegistration call =>
    split at taken
    · cases taken
    next push found =>
    split_ifs at taken
    cases taken
    have moved : (session.sending.erase push ++ (session.registrations ++ [push])).Perm
        (session.sending ++ session.registrations) := by
      rw [← append_assoc]
      refine (perm_append_singleton _ _).trans ?_
      have present := perm_cons_erase (mem_of_find?_eq_some found)
      exact (present.append_right session.registrations).symm
    refine ⟨sound.drop (.refl _) rfl rfl moved.subset ?_ ?_, .refl _⟩
    · exact fun write member => ⟨write, member, rfl, rfl, rfl, rfl⟩
    · exact ((moved.map _).append_right _).subperm
  | register =>
    split at taken
    · cases taken
    next push rest registrations =>
    split_ifs at taken
    cases taken
    refine ⟨(sound.store registrations).armReliableWrite push.ackSeq, ?_⟩
    rw [register, writes_armReliableWrite]
    exact .refl _
  | acknowledge ackSeq =>
    split_ifs at taken
    cases taken
    refine ⟨sound.acknowledgeTransport ackSeq, ?_⟩
    rw [acknowledgeTransport]
    split_ifs <;> exact .refl _
  | expire timer =>
    split at taken
    · cases taken
      exact ⟨sound.withTimers _ session.handler, .refl _⟩
    · cases taken
  | onTimer timer =>
    split at taken
    · next ackSeq found =>
      split_ifs at taken
      cases taken
      have fired := sound.withTimers (session.timers.set timer ⟨ackSeq, .finished⟩) session.handler
      refine ⟨fired.onTimer ackSeq, ?_⟩
      exact later_onTimer { session with
        timers := session.timers.set timer ⟨ackSeq, .finished⟩ } ackSeq
    · cases taken
  | finishTimer =>
    split at taken
    · cases taken
    next call ackSeq running =>
    split at taken
    · next accepted returned =>
      cases taken
      refine ⟨sound.finishTimer ackSeq accepted, ?_⟩
      rw [finishTimer]
      split_ifs
      · rw [writes_armReliableWrite]
        exact .refl _
      · exact .refl _
    · cases taken

end Steps

theorem sound_start : Sound {} where
  tallied := ⟨nodup_nil, fun _ member => absurd member not_mem_nil,
    fun _ member => absurd member not_mem_nil, fun _ => Nat.zero_le _,
    fun _ member => absurd member not_mem_nil⟩
  pushes := fun _ member => absurd member not_mem_nil
  entries := fun _ member => absurd member not_mem_nil
  packets := fun _ member => absurd member not_mem_nil
  silent := fun _ late _ _ split => by cases late <;> cases split

/-! ### Reliable pushes -/

/-- In every run a call of `SendReliable` leads to at most three calls of `SendRaw`, and nothing is
sent again for an acknowledged number before it is registered anew; and from a state in which the
session is closed, every later call of `SendRaw` is refused. -/
theorem reliable_push_bounded (order : ByteOrder) {actions : List PushAction}
    {session : ReliableSession} (taken : run (step order) {} actions = some session) :
    PushBound session ∧
      ∀ more final, session.writes.closed = true →
        run (step order) session more = some final →
          ∀ (call : Nat) state, session.writes.calls.length ≤ call →
            final.writes.calls[call]? = some state → state.stage = .returned false := by
  have sound : Sound session := run_invariant Sound
    (fun state action next sound reached => (sound_step order state action next sound reached).1)
    sound_start taken
  refine ⟨sound.bound, fun more final closed later => ?_⟩
  have kept := run_relation Sound
    (fun before after => SessionWrites.Later before.writes after.writes)
    (fun state => .refl state.writes) (fun _ _ _ early late => early.trans late)
    (sound_step order) sound later
  exact kept.refused closed

def pushesAfter (actions : List PushAction) : ReliableSession :=
  (run (step .little) {} actions).getD {}

/-- A push with number 7 is sent, and once more when its timer has expired. The next timer expires,
and the client acknowledges before the handler runs, so that the handler does nothing; then the
session is closed. -/
def acknowledgedInTime : List PushAction :=
  [.sendReliable [1] 1023 7, .writes (.fetchAdd 0), .writes (.postFrame 0), .postRegistration 0,
    .register, .expire 0, .onTimer 0, .writes (.fetchAdd 1), .writes (.postFrame 1), .finishTimer,
    .expire 1, .acknowledge 7, .onTimer 1, .writes .closeInContext]

theorem reliable_push_bounded_acknowledged :
    run (step .little) {} acknowledgedInTime = some (pushesAfter acknowledgedInTime) ∧
      PushBound (pushesAfter acknowledgedInTime) ∧
      (pushesAfter acknowledgedInTime).sends = [(0, 1), (0, 0)] ∧
      (pushesAfter acknowledgedInTime).log = [.acknowledged 7, .resent 7, .registered 7] ∧
      ∀ state ∈ (pushesAfter (acknowledgedInTime ++ [.sendReliable [2] 1023 8])).writes.calls[2]?,
        state.stage = .returned false := by
  have taken : run (step .little) {} acknowledgedInTime =
      some (pushesAfter acknowledgedInTime) := rfl
  obtain ⟨bound, refused⟩ := reliable_push_bounded .little taken
  exact ⟨taken, bound, rfl, rfl, fun state found =>
    refused [.sendReliable [2] 1023 8] _ rfl rfl 2 state (Nat.le_refl 2) found⟩

end ReliableSession

end Wimi.Gateway
