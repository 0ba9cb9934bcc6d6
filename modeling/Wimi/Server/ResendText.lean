/-
This file proves that a text which is sent again is stored once, on any database and
however its transactions interleave and fail, and when a text has a key to be known by.

The accepting calls of one packet agree in everything but their time. A call that has
inserted the message and not committed it holds the lock of its client message id, and no
message under that id is committed; so at most one call comes to its commit with a message,
and a call that succeeds without one has found it in the table.

A packet without a client message id and without a sequence number is refused. A packet
whose client message id is present and empty passes, and its key is the decimal of the
sequence number that it does not have: all such texts of a user have the key `0`.
-/

import Wimi.Lib.Decimal
import Wimi.Server.Idempotency
import Wimi.Server.Commands

namespace Wimi.Server

open Function List Option Transition

/-! ### The transactions of a packet -/

variable {command : AcceptCommand} {locks : LockKey → Option Nat} {messages : List MessageRow}
  {next : AcceptSystem}

namespace TextPacket

def Sends (packet : TextPacket) (actorUid : Int) (command : AcceptCommand) : Prop :=
  ∃ time, packet.acceptCommand actorUid time = some command

def has (packet : TextPacket) (collate : String → String) (actorUid : Int) (message : MessageRow) :
    Bool :=
  hasClientId collate actorUid.toNat packet.clientId message

def clientKey (packet : TextPacket) (collate : String → String) (actorUid : Int) : LockKey :=
  .clientMessage actorUid.toNat (collate packet.clientId)

/-- The packet was executed any number of times, the transactions interleaved in any order, and
one of them has succeeded. -/
def Resent (packet : TextPacket) (collate : String → String) (isolation : Isolation)
    (actorUid : Int) (before after : Database) : Prop :=
  ∃ actions final,
    run (acceptStep collate isolation) { store := before.store } actions = some final ∧
    (∀ call command, .begin call command ∈ actions → packet.Sends actorUid command) ∧
    (∃ call state, final.calls call = some state ∧ Succeeded state) ∧
    after = before.withStore final.store

/-- The message is stored once: it was there before, or it is the one that was added. -/
def StoredOnce (packet : TextPacket) (collate : String → String) (actorUid : Int)
    (before after : List MessageRow) : Prop :=
  (∃ message ∈ before, packet.has collate actorUid message) ∧ after = before ∨
    (∀ message ∈ before, ¬ packet.has collate actorUid message) ∧
      ∃ command accepted messageId, packet.Sends actorUid command ∧
        after = before ++ [command.messageRow accepted messageId]

variable {packet : TextPacket} {collate : String → String} {actorUid : Int}

section

variable (sends : packet.Sends actorUid command)
include sends

theorem Sends.eq :
    command.senderId = actorUid.toNat ∧ command.clientMessageId = packet.clientId := by
  obtain ⟨time, accepted⟩ := sends
  unfold acceptCommand at accepted
  split at accepted
  · cases accepted
  · cases accepted
    exact ⟨rfl, rfl⟩

/-- What a call looks for in the table is the message of the packet. -/
theorem Sends.hasClientId_eq :
    hasClientId collate command.senderId command.clientMessageId = packet.has collate actorUid := by
  rw [sends.eq.1, sends.eq.2]
  rfl

theorem Sends.clientKey_eq :
    LockKey.clientMessage command.senderId (collate command.clientMessageId) =
      packet.clientKey collate actorUid := by
  rw [sends.eq.1, sends.eq.2]
  rfl

theorem Sends.has_messageRow (accepted : AcceptResult) (messageId : Nat) :
    packet.has collate actorUid (command.messageRow accepted messageId) = true := by
  rw [← sends.hasClientId_eq]
  exact decide_eq_true ⟨rfl, rfl⟩

end

/-! ### The invariant -/

structure CallSent (packet : TextPacket) (collate : String → String) (actorUid : Int)
    (messages : List MessageRow) (locks : LockKey → Option Nat) (call : Nat)
    (state : AcceptCall) : Prop where
  sends : packet.Sends actorUid state.command
  snapshot : ∀ message ∈ state.snapshot.messages, message ∈ messages
  inserting : ∀ message, state.writes.message = some message → state.phase ≠ .done →
    locks (packet.clientKey collate actorUid) = some call ∧
      (∀ other ∈ messages, ¬ packet.has collate actorUid other) ∧
      ∃ accepted messageId, message = state.command.messageRow accepted messageId
  finishing : state.phase = .selectRecipients ∨ state.phase = .commit →
    state.writes.message = none → ∃ message ∈ messages, packet.has collate actorUid message
  succeeded : Succeeded state → ∃ message ∈ messages, packet.has collate actorUid message

structure Sent (packet : TextPacket) (collate : String → String) (actorUid : Int)
    (before : List MessageRow) (system : AcceptSystem) : Prop where
  stored : system.store.messages = before ∨
    (∀ message ∈ before, ¬ packet.has collate actorUid message) ∧
      ∃ command accepted messageId, packet.Sends actorUid command ∧
        system.store.messages = before ++ [command.messageRow accepted messageId]
  calls : ∀ call state, system.calls call = some state →
    CallSent packet collate actorUid system.store.messages system.locks call state

section Rules

variable {before : List MessageRow} {system : AcceptSystem} {call : Nat} {state : AcceptCall}
  {isolation : Isolation}

theorem CallSent.of_locks {locks' : LockKey → Option Nat}
    (own : CallSent packet collate actorUid messages locks call state)
    (kept : ∀ key, locks key = some call → locks' key = some call) :
    CallSent packet collate actorUid messages locks' call state :=
  { own with
    inserting := fun message written running =>
      (own.inserting message written running).imp_left (kept _) }

section

variable (sent : Sent packet collate actorUid before system)
include sent

theorem Sent.replace {after : AcceptCall} (autoIncrement : Nat)
    (others : ∀ other ≠ call, ∀ key, system.locks key = some other → locks key = some other)
    (own : CallSent packet collate actorUid system.store.messages locks call after) :
    Sent packet collate actorUid before
      { store := { system.store with autoIncrement }, locks,
        calls := update system.calls call (some after) } where
  stored := sent.stored
  calls other found same := by
    rcases update_eq_some same with ⟨rfl, rfl⟩ | ⟨elsewhere, earlier⟩
    · exact own
    · exact (sent.calls other found earlier).of_locks (others other elsewhere)

theorem Sent.setCall {after : AcceptCall}
    (own : CallSent packet collate actorUid system.store.messages system.locks call after) :
    Sent packet collate actorUid before (system.setCall call after) :=
  sent.replace system.store.autoIncrement (fun _ _ _ owned => owned) own

theorem Sent.finish (found : system.calls call = some state) {accepted : AcceptResult}
    (failed : accepted.error ≠ .success) (autoIncrement : Nat) : Sent packet collate actorUid before
      ({ system with store := { system.store with autoIncrement } }.finish call
        state accepted) := by
  have own := sent.calls call state found
  refine sent.replace autoIncrement (fun _ different _ owned => release_other different owned)
    ⟨own.sends, own.snapshot, ?_, ?_, ?_⟩
  · exact fun _ _ running => absurd rfl running
  · rintro (wrong | wrong) <;> cases wrong
  · exact fun success => absurd success.2 failed

end

theorem CallSent.advance (own : CallSent packet collate actorUid messages locks call state)
    (running : state.phase ≠ .done) {phase : AcceptPhase} {accepted : AcceptResult}
    {writes : Writes} (message : writes.message = state.writes.message)
    (finishing : phase = .selectRecipients ∨ phase = .commit → writes.message = none →
      ∃ message ∈ messages, packet.has collate actorUid message) (notDone : phase ≠ .done) :
    CallSent packet collate actorUid messages locks call
      { state with phase, accepted, writes } where
  sends := own.sends
  snapshot := own.snapshot
  inserting found written _ := own.inserting found (message.symm.trans written) running
  finishing := finishing
  succeeded success := absurd success.1 notDone

section

variable (sent : Sent packet collate actorUid before system)
include sent

/-- The message a call has looked up is in the table. -/
theorem Sent.found_readView (found : system.calls call = some state) {row : MessageRow}
    (read : (readView isolation state.snapshot system.store).messages.find?
      (hasClientId collate state.command.senderId state.command.clientMessageId) = some row) :
    ∃ message ∈ system.store.messages, packet.has collate actorUid message := by
  have own := sent.calls call state found
  rw [own.sends.hasClientId_eq] at read
  refine ⟨row, ?_, find?_some read⟩
  have member := mem_of_find?_eq_some read
  cases isolation with
  | repeatableRead => exact own.snapshot row member
  | readCommitted => exact member

theorem Sent.execute (found : system.calls call = some state)
    (taken : system.execute collate isolation call state = some next) :
    Sent packet collate actorUid before next := by
  have running := AcceptSystem.running_of_execute taken
  have own := sent.calls call state found
  have later : state.command.afterMessage ≠ .done := by
    unfold AcceptCommand.afterMessage
    split <;> nofun
  cases AcceptSystem.execute_cases taken with
  | upserted phase claims _ upserts =>
    refine sent.replace system.store.autoIncrement (fun _ _ _ => claims.kept _ _) ?_
    cases upserts with
    | known =>
      exact CallSent.of_locks (own.advance running rfl (by simp) nofun) fun _ => claims.kept _ _
    | created | rekeyed =>
      exact ⟨own.sends, own.snapshot, by simp, by simp, fun success => by cases success.1⟩
  | insertedMembers | readSequence | notFound | updatedSequence =>
    exact sent.setCall (own.advance running rfl (by simp) nofun)
  | repeated _ read =>
    exact sent.setCall (own.advance running rfl (fun _ _ => sent.found_readView found read) later)
  | insertedMessage _ claims locked fresh =>
    rw [own.sends.clientKey_eq] at locked
    rw [own.sends.hasClientId_eq] at fresh
    refine sent.replace (system.store.autoIncrement + 1) (fun _ _ _ => claims.kept _ _)
      ⟨own.sends, own.snapshot, fun message written _ => ?_, by simp, fun success => ?_⟩
    · exact ⟨locked, fresh, _, _, (some.inj written).symm⟩
    · exact absurd success.1 later
  | readRecipients phase =>
    exact sent.setCall (own.advance running rfl (fun _ => own.finishing (.inl phase)) nofun)
  | failed autoIncrement _ error => exact sent.finish found error autoIncrement

theorem Sent.begin (sends : packet.Sends actorUid command) :
    Sent packet collate actorUid before (system.begin call command) := by
  unfold AcceptSystem.begin
  split
  · rename_i error selected
    refine sent.setCall ⟨sends, fun _ member => member, fun _ wrong => ?_, ?_, fun success => ?_⟩
    · cases wrong
    · rintro (wrong | wrong) <;> cases wrong
    · exact absurd success.2 (command.selectConversation_ne_success selected)
  refine sent.setCall ⟨sends, fun _ member => member, fun _ wrong => ?_, ?_, fun success => ?_⟩
  · cases wrong
  · rintro (wrong | wrong) <;> cases wrong
  · cases success.1

end

/-- A table that grows by the message of a call that holds the lock. -/
theorem CallSent.grow {other : Nat}
    (own : CallSent packet collate actorUid messages locks other state)
    {message : Option MessageRow} (elsewhere : ∀ added, message = some added →
      locks (packet.clientKey collate actorUid) ≠ some other) :
    CallSent packet collate actorUid (messages ++ message.toList) locks other state where
  sends := own.sends
  snapshot kept member := mem_append_left _ (own.snapshot kept member)
  inserting written found running := by
    obtain ⟨locked, fresh, row⟩ := own.inserting written found running
    refine ⟨locked, ?_, row⟩
    cases message with
    | none => simpa using fresh
    | some added => exact absurd locked (elsewhere added rfl)
  finishing at_ none := by
    obtain ⟨kept, member, holds⟩ := own.finishing at_ none
    exact ⟨kept, mem_append_left _ member, holds⟩
  succeeded success := by
    obtain ⟨kept, member, holds⟩ := own.succeeded success
    exact ⟨kept, mem_append_left _ member, holds⟩

theorem Sent.commit (sent : Sent packet collate actorUid before system)
    (found : system.calls call = some state) (reached : state.phase = .commit) (replied : Bool) :
    Sent packet collate actorUid before (system.commit call state replied) := by
  have own := sent.calls call state found
  have running : state.phase ≠ .done := by
    rw [reached]
    exact nofun
  have messages : (system.commit call state replied).store.messages =
      system.store.messages ++ state.writes.message.toList := rfl
  refine ⟨?_, fun other after same => ?_⟩
  · rw [messages]
    cases written : state.writes.message with
    | none => simpa using sent.stored
    | some message =>
      obtain ⟨_, fresh, accepted, messageId, rfl⟩ := own.inserting message written running
      rcases sent.stored with untouched | ⟨_, command, accepted', messageId', sends, stored⟩
      · refine .inr ⟨untouched ▸ fresh, state.command, accepted, messageId, own.sends, ?_⟩
        rw [untouched]
        rfl
      refine absurd (sends.has_messageRow accepted' messageId') (fresh _ ?_)
      rw [stored]
      exact mem_append_right _ mem_cons_self
  rw [messages]
  rcases update_eq_some same with ⟨rfl, rfl⟩ | ⟨elsewhere, earlier⟩
  · refine ⟨own.sends, fun kept member => mem_append_left _ (own.snapshot kept member),
      fun _ _ wrong => absurd rfl wrong, ?_, fun _ => ?_⟩
    · rintro (wrong | wrong) <;> cases wrong
    cases written : state.writes.message with
    | none =>
      obtain ⟨kept, member, holds⟩ := own.finishing (.inr reached) written
      exact ⟨kept, mem_append_left _ member, holds⟩
    | some message =>
      obtain ⟨_, _, accepted, messageId, rfl⟩ := own.inserting message written running
      exact ⟨_, mem_append_right _ mem_cons_self,
        own.sends.has_messageRow accepted messageId⟩
  refine ((sent.calls other after earlier).grow fun added written => ?_).of_locks
    fun _ owned => release_other elsewhere owned
  rw [(own.inserting added written running).1]
  exact fun same => elsewhere (some.inj same).symm

theorem Sent.step (sent : Sent packet collate actorUid before system) {action : AcceptAction}
    (sends : ∀ call command, action = .begin call command → packet.Sends actorUid command)
    (taken : acceptStep collate isolation system action = some next) :
    Sent packet collate actorUid before next := by
  obtain ⟨call, command, rfl, _, rfl⟩ | ⟨call, state, rfl, found, executed⟩ |
    ⟨call, state, replied, rfl, found, reached, rfl⟩ |
    ⟨call, state, what, rfl, found, running, rfl⟩ := acceptStep_cases taken
  · exact sent.begin (sends call command rfl)
  · exact sent.execute found executed
  · exact sent.commit found reached replied
  · exact sent.finish found (fun wrong => by cases wrong) system.store.autoIncrement

end Rules

/-- A packet that was sent again until it succeeded is stored once. -/
theorem storedOnce_of_resent {isolation : Isolation} {before after : Database}
    (resent : packet.Resent collate isolation actorUid before after) :
    packet.StoredOnce collate actorUid before.messages after.messages := by
  obtain ⟨actions, final, taken, sends, ⟨call, state, found, success⟩, rfl⟩ := resent
  have sent : Sent packet collate actorUid before.messages final := by
    refine run_invariant_along (Sent packet collate actorUid before.messages)
      (fun _ action => ∀ call command, action = .begin call command →
        packet.Sends actorUid command)
      (fun _ _ _ sent sends taken => sent.step sends taken) ⟨.inl rfl, fun _ _ wrong => ?_⟩
      (along_of_forall fun action member call command same => ?_) taken
    · cases wrong
    · exact sends call command (same ▸ member)
  obtain ⟨message, member, holds⟩ := (sent.calls call state found).succeeded success
  rcases sent.stored with same | added
  · exact .inl ⟨⟨message, same ▸ member, holds⟩, same⟩
  · exact .inr added

/-! ### Texts without a key -/

/-- The packet carries a client message id that is not empty, or a positive sequence number. -/
def ProvidesKey (packet : TextPacket) : Prop :=
  (∃ given, packet.clientMessageId = some given ∧ given ≠ "") ∨ 0 < packet.seq

/-- The key the packet carries: the client message id if it is not empty, or else the decimal of
the sequence number. -/
def providedKey (packet : TextPacket) : String :=
  (packet.clientMessageId.filter (· ≠ "")).getD (toString packet.seq)

/-- The packet reaches the database only with a key from the client, and under this key. -/
def ClientKeyed (packet : TextPacket) (actorUid : Int) : Prop :=
  ∀ command, packet.Sends actorUid command →
    packet.ProvidesKey ∧ command.clientMessageId = packet.providedKey

/-- The two packets are not taken for one text when they carry no key. -/
def Separate (collate : String → String) (packet other : TextPacket) (actorUid otherUid : Int) :
    Prop :=
  ¬ packet.ProvidesKey → ¬ other.ProvidesKey → ∀ command otherCommand,
    packet.Sends actorUid command → other.Sends otherUid otherCommand →
      ¬ SameClientId collate command otherCommand

/-- A packet that is complete but for its client message id, which is there and empty, and its
sequence number. -/
def BlankKey (packet : TextPacket) (actorUid : Int) : Prop :=
  0 < actorUid ∧ 0 < packet.receiver ∧ packet.data ≠ "" ∧ packet.clientMessageId = some "" ∧
    packet.seq ≤ 0

theorem toString_ne_empty (number : Int) : toString number ≠ "" := by
  intro empty
  have parsed := Decimal.parseInt_toString number
  rw [empty] at parsed
  cases parsed

theorem clientId_eq_providedKey (packet : TextPacket) : packet.clientId = packet.providedKey := by
  unfold clientId providedKey
  cases packet.clientMessageId with
  | none => rfl
  | some given => grind

theorem clientId_ne_empty (packet : TextPacket) : packet.clientId ≠ "" := by
  unfold clientId
  split
  · split
    · exact toString_ne_empty _
    next given empty => exact empty
  · exact toString_ne_empty _

theorem exists_sends_iff :
    (∃ command, packet.Sends actorUid command) ↔ 0 < actorUid ∧ 0 < packet.receiver ∧
      packet.data ≠ "" ∧ (packet.clientMessageId = none → 0 < packet.seq) := by
  have passes : (∃ command, packet.Sends actorUid command) ↔
      ¬ (actorUid ≤ 0 ∨ packet.receiver ≤ 0 ∨ packet.data = "" ∨ packet.clientId = "" ∨
        (packet.clientMessageId = none ∧ packet.seq ≤ 0)) := by
    constructor
    · rintro ⟨command, time, accepted⟩ refused
      rw [acceptCommand, if_pos refused] at accepted
      cases accepted
    · intro complete
      exact ⟨_, "", if_neg complete⟩
  rw [passes]
  simp only [packet.clientId_ne_empty, false_or, not_or, not_and, not_le]

/-- A packet without a key reaches the database exactly when its client message id is there and
empty. -/
theorem blankKey_iff : packet.BlankKey actorUid ↔
    (∃ command, packet.Sends actorUid command) ∧ ¬ packet.ProvidesKey := by
  rw [exists_sends_iff, ProvidesKey, not_or, not_lt]
  constructor
  · rintro ⟨actor, receiver, data, blank, seq⟩
    refine ⟨⟨actor, receiver, data, fun absent => ?_⟩, ?_, seq⟩
    · rw [blank] at absent
      cases absent
    · grind
  rintro ⟨⟨actor, receiver, data, present⟩, empty, seq⟩
  refine ⟨actor, receiver, data, ?_, seq⟩
  cases carried : packet.clientMessageId with
  | none => exact absurd (present carried) (not_lt.mpr seq)
  | some given => grind

theorem clientKeyed_iff : packet.ClientKeyed actorUid ↔ ¬ packet.BlankKey actorUid := by
  rw [blankKey_iff]
  constructor
  · rintro keyed ⟨⟨command, sends⟩, keyless⟩
    exact keyless (keyed command sends).1
  intro filled command sends
  refine ⟨?_, sends.eq.2.trans packet.clientId_eq_providedKey⟩
  by_contra keyless
  exact filled ⟨⟨command, sends⟩, keyless⟩

theorem clientId_of_blankKey (blank : packet.BlankKey actorUid) :
    packet.clientId = toString packet.seq := by
  rw [clientId, blank.2.2.2.1]
  rfl

theorem separate_iff {other : TextPacket} {otherUid : Int} :
    packet.Separate collate other actorUid otherUid ↔
      ¬ (packet.BlankKey actorUid ∧ other.BlankKey otherUid ∧ actorUid = otherUid ∧
        collate (toString packet.seq) = collate (toString other.seq)) := by
  constructor
  · rintro separate ⟨blank, otherBlank, rfl, same⟩
    obtain ⟨⟨command, sends⟩, keyless⟩ := blankKey_iff.mp blank
    obtain ⟨⟨otherCommand, otherSends⟩, otherKeyless⟩ := blankKey_iff.mp otherBlank
    refine separate keyless otherKeyless command otherCommand sends otherSends
      ⟨sends.eq.1.trans otherSends.eq.1.symm, ?_⟩
    rw [sends.eq.2, otherSends.eq.2, clientId_of_blankKey blank, clientId_of_blankKey otherBlank,
      same]
  intro apart keyless otherKeyless command otherCommand sends otherSends same
  have blank := blankKey_iff.mpr ⟨⟨command, sends⟩, keyless⟩
  have otherBlank := blankKey_iff.mpr ⟨⟨otherCommand, otherSends⟩, otherKeyless⟩
  obtain ⟨sender, key⟩ := same
  rw [sends.eq.1, otherSends.eq.1] at sender
  rw [sends.eq.2, otherSends.eq.2, clientId_of_blankKey blank, clientId_of_blankKey otherBlank]
    at key
  have positive := blank.1
  exact apart ⟨blank, otherBlank, by omega, key⟩

/-- A text has a key from the client exactly when its client message id is not empty where it
needs one; two texts without a key are taken for one exactly when both ids are empty and the
decimals of their sequence numbers are one key of one user. -/
theorem text_key_provided_iff (packet : TextPacket) (actorUid : Int) :
    (packet.ClientKeyed actorUid ↔ ¬ packet.BlankKey actorUid) ∧
      ∀ collate other otherUid, packet.Separate collate other actorUid otherUid ↔
        ¬ (packet.BlankKey actorUid ∧ other.BlankKey otherUid ∧ actorUid = otherUid ∧
          collate (toString packet.seq) = collate (toString other.seq)) :=
  ⟨clientKeyed_iff, fun _ _ _ => separate_iff⟩

def blankText (data : String) : TextPacket where
  type := .direct
  receiver := 2
  data := data
  clientMessageId := some ""

/-- Two texts of user 1 without a key, one after the other: the first is stored under the key
`0`, and the second is refused as a conflict. -/
theorem second_blank_text_conflicts :
    ((blankText "hello").acceptCommand 1 "").map (fun command => command.clientMessageId) =
        some "0" ∧
      (((blankText "hello").acceptCommand 1 "").bind fun first =>
        ((blankText "other").acceptCommand 1 "").bind fun second =>
          ((acceptAfter friendsStore (first.script 0 ++
            .begin 1 second :: replicate 4 (.execute 1))).calls 1).map
              fun call => call.accepted.error) = some .idempotencyConflict := by
  constructor <;> decide +kernel

end TextPacket

end Wimi.Server
