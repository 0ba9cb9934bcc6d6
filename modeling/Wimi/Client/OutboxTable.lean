/-
This file adds the table `outbox` to the model of a client and proves what is in it.

A row of `outbox` is written with its message and deleted with the state that ends the
sending: accepted, delivered, read or failed for good. No operation puts a row back. So
the table lists exactly the outgoing messages that wait, provided that no message in
such an end state is ever written as waiting again. The tables alone do not exclude
that; the state of a message is decided by its copy in memory, which may be ahead of its
row when a write has failed. The invariant is about the two together: a copy that waits
has a row that waits.

The methods are those of the desk, carried out on both tables. A write that fails leaves
the tables as they were. A program that ends in the middle of a method is one whose later
writes fail and which is then started again.
-/

import Wimi.Client.ConversationKeys

namespace Wimi.Client.Outbox

open Function List Transition

/-! ### The methods on both tables -/

structure Ledger where
  desk : Desk
  outbox : List Int

namespace Ledger

variable (ledger : Ledger)

def MayChange (clientMessageId : Int) (state : MessageDeliveryState) (message : CreatedMessage) :
    Bool :=
  message.clientMessageId = clientMessageId ∧ canTransition message.deliveryState state

def updateMessageState (clientMessageId : Int) (state : MessageDeliveryState) (written : Bool) :
    Ledger where
  desk := ledger.desk.updateMessageState clientMessageId state written
  outbox :=
    if ledger.desk.client.messages.any (MayChange clientMessageId state) ∧ written ∧
        Repository.leavesOutbox state then
      ledger.outbox.filter fun queued => queued ≠ clientMessageId
    else ledger.outbox

def sendText (message : CreatedMessage) : Ledger :=
  { ledger with desk := ledger.desk.sendText message }

def enqueued (message : CreatedMessage) : Ledger where
  desk := { ledger.desk with
    client := { ledger.desk.client with
      nextClientMessageId := ledger.desk.client.nextClientMessageId - 1
      messages := ledger.desk.client.messages ++ [message] }
    rows := ledger.desk.rows ++ [message] }
  outbox := ledger.outbox ++ [message.clientMessageId]

def refused (message : CreatedMessage) : Ledger :=
  { ledger with
    desk := { ledger.desk with
      client := { ledger.desk.client with
        nextClientMessageId := ledger.desk.client.nextClientMessageId - 1
        messages := ledger.desk.client.messages ++ [message.withState .permanentFailed] } } }

def sendMessage (conversationId body timestamp : String) (enqueues written : Bool) : Ledger :=
  if body = "" then ledger
  else
    let message := ledger.desk.newMessage conversationId body timestamp
    if enqueues ∧ (¬ ledger.desk.rows.any fun row => message.stored.collides row.stored) ∧
        message.clientMessageId ∉ ledger.outbox then
      let stored := ledger.enqueued message
      if ¬ receivable conversationId then
        stored.updateMessageState message.clientMessageId .permanentFailed written
      else if ¬ ledger.desk.client.session.isReady then
        stored.updateMessageState message.clientMessageId .unknown written
      else
        (stored.updateMessageState message.clientMessageId .waitingAccept written).sendText message
    else ledger.refused message

def retryMessage (clientMessageId : Int) (written : Bool) : Ledger :=
  match ledger.desk.client.messages.find? fun message =>
    message.clientMessageId = clientMessageId with
  | none => ledger
  | some message =>
    if message.stored.record.outgoing ∧ message.deliveryState = .retryableFailed ∧
        message.stored.conversationId ≠ "" ∧ ledger.desk.client.session.isReady ∧
        receivable message.stored.conversationId then
      (ledger.updateMessageState clientMessageId .waitingAccept written).sendText message
    else ledger

def resume (written : Int → Bool) (ledger : Ledger) (message : CreatedMessage) : Ledger :=
  if receivable message.stored.conversationId ∧ message.isPending then
    let waiting :=
      if message.deliveryState ≠ .waitingAccept then
        ledger.updateMessageState message.clientMessageId .waitingAccept
          (written message.clientMessageId)
      else ledger
    waiting.sendText message
  else ledger

def resumePendingOutgoing (written : Int → Bool) : Ledger :=
  ledger.desk.client.messages.foldl (resume written) ledger

def acceptOutgoing (clientMessageId : Int) (messageId conversationSeq : Nat) (written : Bool) :
    Ledger where
  desk := ledger.desk.acceptOutgoing clientMessageId messageId conversationSeq written
  outbox :=
    if (ledger.desk.client.messages.any fun message =>
        message.clientMessageId = clientMessageId) ∧ written then
      ledger.outbox.filter fun queued => queued ≠ clientMessageId
    else ledger.outbox

def handleGatewayResponse (clientMessageId : Int) (response : SendResponse) (written : Bool) :
    Ledger :=
  match response.errorCode, response.messageId, response.conversationId,
    response.conversationSeq with
  | .success, some messageId, some _, some conversationSeq =>
    ledger.acceptOutgoing clientMessageId messageId conversationSeq written
  | errorCode, _, _, _ =>
    ledger.updateMessageState clientMessageId
      (if response.retryable ∨ isRetryableError errorCode then .retryableFailed
      else .permanentFailed) written

def handleGatewayFailure (clientMessageId : Int) (errorCode : ErrorCode) (outcomeUnknown : Bool)
    (written : Bool) : Ledger :=
  ledger.updateMessageState clientMessageId
    (if outcomeUnknown then .unknown
    else if isRetryableError errorCode then .retryableFailed
    else .permanentFailed) written

def insertOrIgnore (rows : List CreatedMessage) (message : CreatedMessage) :
    List CreatedMessage :=
  if rows.any fun row => message.stored.collides row.stored then rows else rows ++ [message]

def additions (conversationId : String) (records : List MessageRecord) : List CreatedMessage :=
  (records.filter fun record =>
    ¬ ledger.desk.client.messages.any fun other =>
      other.stored.conversationId = conversationId ∧
        other.stored.record.messageId = record.messageId).map fun record =>
          { origin := ledger.desk.origin
            stored := { conversationId, record } }

def receive (conversationId : String) (records : List MessageRecord) (written : Bool) : Ledger :=
  if written then
    { ledger with
      desk := { ledger.desk with
        client := { ledger.desk.client with
          messages := ledger.desk.client.messages ++ ledger.additions conversationId records }
        rows := (ledger.additions conversationId records).foldl insertOrIgnore ledger.desk.rows } }
  else ledger

def withSession (session : Session) : Ledger :=
  { ledger with desk := ledger.desk.withSession session }

def restart (loaded : Bool) : Ledger :=
  { ledger with
    desk := { ledger.desk with
      client := { loadScenario ledger.desk.client ledger.desk.rows loaded with
        session := .signedOut } } }

end Ledger

def pushRecord (packet : PushPacket) (now : String) : MessageRecord where
  clientMessageId := (packet.messageId.getD packet.seq : Nat)
  messageId := some (packet.messageId.getD packet.seq)
  conversationSeq := packet.conversationSeq
  senderId := toString packet.fromUid
  body := packet.data
  timestamp := if packet.sendDateTime = "" then now else packet.sendDateTime
  outgoing := false
  deliveryState := .delivered

inductive LedgerAction where
  | restart (loaded : Bool)
  | signInSucceeded (uid : Nat)
  | authenticated (written : Int → Bool)
  | disconnected
  | sendMessage (conversationId body timestamp : String) (enqueues written : Bool)
  | retryMessage (clientMessageId : Int) (written : Bool)
  | handleGatewayResponse (clientMessageId : Int) (response : SendResponse) (written : Bool)
  | handleGatewayFailure (clientMessageId : Int) (errorCode : ErrorCode) (outcomeUnknown : Bool)
      (written : Bool)
  | page (conversationId : String) (items : List Server.ChatMessage) (written : Bool)
  | push (conversationId : String) (packet : PushPacket) (now : String) (written : Bool)

/-- A login is answered on the connection of the account that has signed in. -/
def ledgerStep (ledger : Ledger) : LedgerAction → Option Ledger
  | .restart loaded => some (ledger.restart loaded)
  | .signInSucceeded uid => some (ledger.withSession (.connecting uid))
  | .authenticated written =>
    match ledger.desk.client.session with
    | .connecting uid => some ((ledger.withSession (.ready uid)).resumePendingOutgoing written)
    | _ => none
  | .disconnected =>
    match ledger.desk.client.session with
    | .ready uid => some (ledger.withSession (.connecting uid))
    | _ => none
  | .sendMessage conversationId body timestamp enqueues written =>
    some (ledger.sendMessage conversationId body timestamp enqueues written)
  | .retryMessage clientMessageId written => some (ledger.retryMessage clientMessageId written)
  | .handleGatewayResponse clientMessageId response written =>
    some (ledger.handleGatewayResponse clientMessageId response written)
  | .handleGatewayFailure clientMessageId errorCode outcomeUnknown written =>
    some (ledger.handleGatewayFailure clientMessageId errorCode outcomeUnknown written)
  | .page conversationId items written =>
    let uid := ledger.desk.client.session.uid.getD 0
    some (ledger.receive conversationId (items.map (Controller.pageRecord uid)) written)
  | .push conversationId packet now written =>
    some (ledger.receive conversationId [pushRecord packet now] written)

def newLedger : Ledger where
  desk :=
    { origin := 0
      client :=
        { database := 0, messages := [], nextClientMessageId := -1000, session := .signedOut }
      rows := []
      sends := [] }
  outbox := []

/-! ### Memory and rows -/

def Waits (state : MessageDeliveryState) : Prop :=
  state = .pendingLocal ∨ state = .waitingAccept ∨ state = .unknown ∨ state = .retryableFailed

variable {message : CreatedMessage} {clientMessageId : Int}

theorem isPending_iff :
    message.isPending ↔ message.stored.record.outgoing ∧ Waits message.deliveryState := by
  exact decide_eq_true_iff

theorem leavesOutbox_iff (state : MessageDeliveryState) :
    Repository.leavesOutbox state ↔ ¬ Waits state := by
  cases state <;> simp [Repository.leavesOutbox, Waits]

structure LedgerSound (ledger : Ledger) : Prop where
  listed : ∀ clientMessageId, clientMessageId ∈ ledger.outbox ↔
    ∃ row ∈ ledger.desk.rows, row.clientMessageId = clientMessageId ∧ row.isPending
  ids : (ledger.desk.rows.map CreatedMessage.clientMessageId).Nodup
  distinct : (ledger.desk.client.messages.map CreatedMessage.clientMessageId).Pairwise
    fun one other => one = other → 0 ≤ one
  rows : ∀ row ∈ ledger.desk.rows, Waits row.deliveryState →
    row.isPending ∧ row.clientMessageId < 0
  memory : ∀ message ∈ ledger.desk.client.messages, Waits message.deliveryState →
    message.clientMessageId < 0 ∧ ∀ row ∈ ledger.desk.rows,
      row.clientMessageId = message.clientMessageId → row.isPending
  counter : ledger.desk.client.nextClientMessageId < 0 ∧
    ∀ message ∈ ledger.desk.client.messages,
      ledger.desk.client.nextClientMessageId < message.clientMessageId

theorem ledgerSound_new : LedgerSound newLedger := by
  constructor <;> simp [newLedger]

/-- A change of the one message under an id leaves no other message under it. -/
theorem eq_change_of_mem {messages : List CreatedMessage} {selected : CreatedMessage → Bool}
    {change : CreatedMessage → CreatedMessage}
    (distinct : (messages.map CreatedMessage.clientMessageId).Pairwise
      fun one other => one = other → 0 ≤ one) (negative : clientMessageId < 0)
    (selects : ∀ message, selected message → message.clientMessageId = clientMessageId)
    (found : messages.any selected) (member : message ∈ Lists.updateFirst selected change messages)
    (same : message.clientMessageId = clientMessageId) : ∃ old, message = change old := by
  induction messages with
  | nil => cases member
  | cons head rest inductionHypothesis =>
    rw [map_cons, pairwise_cons] at distinct
    by_cases holds : selected head = true
    · grind [Lists.updateFirst_cons_of_pos, mem_map_of_mem, not_le]
    rw [any_cons, Bool.or_eq_true] at found
    have later := found.resolve_left holds
    rw [Lists.updateFirst_cons_of_neg holds] at member
    rcases mem_cons.mp member with rfl | behind
    · -- Another message under the id is selected behind this one.
      obtain ⟨other, memberOther, selectedOther⟩ := any_eq_true.mp later
      have equal : message.clientMessageId = other.clientMessageId :=
        same.trans (selects other selectedOther).symm
      have nonnegative := distinct.1 _ (mem_map_of_mem memberOther) equal
      exact absurd (same ▸ nonnegative) (not_le.mpr negative)
    · exact inductionHypothesis distinct.2 later behind

section Rules

variable {ledger : Ledger}

theorem ne_of_not_collides {rows : List CreatedMessage}
    (free : ¬ rows.any fun row => message.stored.collides row.stored) :
    ∀ row ∈ rows, row.clientMessageId ≠ message.clientMessageId :=
  fun row member same =>
    free (any_eq_true.mpr ⟨row, member, decide_eq_true (.inl same.symm)⟩)

section

variable {change : CreatedMessage → CreatedMessage}
  (keeps : ∀ row, (change row).clientMessageId = row.clientMessageId)
include keeps

theorem pending_map_withState {rows : List CreatedMessage} {other : Int}
    (different : other ≠ clientMessageId) :
    (∃ row ∈ rows.map fun row => if row.clientMessageId = clientMessageId then change row else row,
        row.clientMessageId = other ∧ row.isPending) ↔
      ∃ row ∈ rows, row.clientMessageId = other ∧ row.isPending := by
  constructor
  · grind
  · grind

theorem ids_map {rows : List CreatedMessage} :
    (rows.map fun row => if row.clientMessageId = clientMessageId then change row else row).map
        CreatedMessage.clientMessageId =
      rows.map CreatedMessage.clientMessageId := by
  rw [map_map]
  refine map_congr_left fun row _ => ?_
  simp only [comp]
  split
  · exact keeps row
  · rfl

end

section

variable (sound : LedgerSound ledger)
include sound

/-- A message of memory and the rows under its id take one change together: the change ends the
sending, or the message waited and goes on waiting. -/
theorem LedgerSound.change (selected : CreatedMessage → Bool)
    (change : CreatedMessage → CreatedMessage) (ends written : Bool)
    (selects : ∀ message, selected message → message.clientMessageId = clientMessageId)
    (keeps : ∀ message, (change message).clientMessageId = message.clientMessageId)
    (direction : ∀ message, (change message).stored.record.outgoing =
      message.stored.record.outgoing)
    (state : ∀ message, Waits (change message).deliveryState ↔ ends = false)
    (waited : ∀ message, selected message → ends = false → Waits message.deliveryState)
    (found : ledger.desk.client.messages.any selected) : LedgerSound
      { desk := { ledger.desk with
          client := { ledger.desk.client with
            messages := Lists.updateFirst selected change ledger.desk.client.messages }
          rows :=
            if written then
              ledger.desk.rows.map fun row =>
                if row.clientMessageId = clientMessageId then change row else row
            else ledger.desk.rows }
        outbox :=
          if written ∧ ends then ledger.outbox.filter fun queued => queued ≠ clientMessageId
          else ledger.outbox } := by
  have ids : (Lists.updateFirst selected change ledger.desk.client.messages).map
      CreatedMessage.clientMessageId =
        ledger.desk.client.messages.map CreatedMessage.clientMessageId :=
    Lists.map_updateFirst keeps _
  have memberIds : ∀ message ∈ Lists.updateFirst selected change ledger.desk.client.messages,
      ∃ old ∈ ledger.desk.client.messages, old.clientMessageId = message.clientMessageId := by
    intro message member
    have known : message.clientMessageId ∈
        ledger.desk.client.messages.map CreatedMessage.clientMessageId :=
      ids ▸ mem_map_of_mem member
    exact mem_map.mp known
  -- A message in memory that may change although the sending goes on waits with its rows.
  have rowsWait : ends = false → ∀ row ∈ ledger.desk.rows,
      row.clientMessageId = clientMessageId → row.isPending ∧ row.clientMessageId < 0 := by
    intro goesOn row member under
    obtain ⟨message, memberMessage, chosen⟩ := any_eq_true.mp found
    obtain ⟨negative, pending⟩ := sound.memory message memberMessage (waited message chosen goesOn)
    have same := selects message chosen
    exact ⟨pending row member (under.trans same.symm), by rw [under, ← same]; exact negative⟩
  have changedPending : ∀ row ∈ ledger.desk.rows, row.clientMessageId = clientMessageId →
      ((change row).isPending ↔ ends = false) := by
    intro row member under
    rw [isPending_iff, state, and_iff_right_iff_imp, direction]
    exact fun goesOn => (isPending_iff.mp (rowsWait goesOn row member under).1).1
  constructor
  · intro other
    cases written with
    | false => exact sound.listed other
    | true =>
      rw [if_pos rfl]
      by_cases same : other = clientMessageId
      · subst same
        have here : (∃ row ∈ ledger.desk.rows.map fun row =>
            if row.clientMessageId = other then change row else row,
              row.clientMessageId = other ∧ row.isPending) ↔
            ends = false ∧ ∃ row ∈ ledger.desk.rows, row.clientMessageId = other := by
          constructor
          · grind
          · grind
        rw [here]
        cases ends with
        | false =>
          rw [if_neg fun both => absurd both.2 Bool.false_ne_true, sound.listed, and_iff_right rfl]
          refine ⟨fun ⟨row, member, under, _⟩ => ⟨row, member, under⟩,
            fun ⟨row, member, under⟩ => ?_⟩
          exact ⟨row, member, under, (rowsWait rfl row member under).1⟩
        | true =>
          simp
      rw [pending_map_withState keeps same, ← sound.listed]
      split
      · rw [mem_filter, and_iff_left (decide_eq_true same)]
      · rfl
  · dsimp only
    split
    · rw [ids_map keeps]
      exact sound.ids
    · exact sound.ids
  · exact ids ▸ sound.distinct
  · dsimp only
    split
    · intro row member waits
      obtain ⟨old, memberOld, equal⟩ := mem_map.mp member
      split at equal
      · grind
      · subst equal
        exact sound.rows old memberOld waits
    · exact sound.rows
  · have before : ∀ message ∈ Lists.updateFirst selected change ledger.desk.client.messages,
        Waits message.deliveryState → message.clientMessageId < 0 ∧
          ∀ row ∈ ledger.desk.rows, row.clientMessageId = message.clientMessageId →
            row.isPending := by
      refine Lists.forall_mem_updateFirst sound.memory fun old chosen waits => ?_
      have isSelected := find?_some chosen
      rw [keeps]
      exact sound.memory old (mem_of_find?_eq_some chosen)
        (waited old isSelected ((state old).mp waits))
    intro message member waits
    obtain ⟨negative, pending⟩ := before message member waits
    have goesOn : message.clientMessageId = clientMessageId → ends = false := by
      intro under
      obtain ⟨old, rfl⟩ := eq_change_of_mem sound.distinct (under ▸ negative) selects found member
        under
      exact (state old).mp waits
    refine ⟨negative, ?_⟩
    dsimp only
    split
    · intro row memberRow under
      obtain ⟨old, memberOld, equal⟩ := mem_map.mp memberRow
      split at equal
      · grind
      · subst equal
        exact pending old memberOld under
    · exact pending
  refine ⟨sound.counter.1, fun message member => ?_⟩
  obtain ⟨old, memberOld, same⟩ := memberIds message member
  rw [← same]
  exact sound.counter.2 old memberOld

theorem LedgerSound.sendText (message : CreatedMessage) :
    LedgerSound (ledger.sendText message) := by
  unfold Ledger.sendText Desk.sendText
  split
  · exact { sound with }
  · exact sound

theorem LedgerSound.withSession (session : Session) : LedgerSound (ledger.withSession session) :=
  { sound with }

theorem LedgerSound.updateMessageState (clientMessageId : Int) (state : MessageDeliveryState)
    (written : Bool) : LedgerSound (ledger.updateMessageState clientMessageId state written) := by
  unfold Ledger.updateMessageState Desk.updateMessageState
  by_cases found : ledger.desk.client.messages.any (Ledger.MayChange clientMessageId state)
  · rw [if_pos (by exact found)]
    simp only [found, true_and]
    refine sound.change _ _ _ _ (fun message chosen => (of_decide_eq_true chosen).1)
      (fun _ => rfl) (fun _ => rfl) (fun _ => ?_) (fun message chosen goesOn => ?_) found
    · rw [← Bool.not_eq_true, leavesOutbox_iff, not_not]
      rfl
    · rw [← Bool.not_eq_true, leavesOutbox_iff, not_not] at goesOn
      exact waits_of_canTransition (of_decide_eq_true chosen).2 goesOn
  · rw [if_neg (by exact found), if_neg fun all => found all.1]
    exact sound

end

theorem not_waits_withAccepted (message : CreatedMessage) (messageId conversationSeq : Nat) :
    ¬ Waits (message.withAccepted messageId conversationSeq).deliveryState := by
  rintro (wrong | wrong | wrong | wrong) <;> cases wrong

section

variable (sound : LedgerSound ledger)
include sound

theorem LedgerSound.acceptOutgoing (clientMessageId : Int) (messageId conversationSeq : Nat)
    (written : Bool) :
    LedgerSound (ledger.acceptOutgoing clientMessageId messageId conversationSeq written) := by
  unfold Ledger.acceptOutgoing Desk.acceptOutgoing
  by_cases found : ledger.desk.client.messages.any fun message =>
      message.clientMessageId = clientMessageId
  · simp only [found, if_true, true_and]
    have ended := sound.change (fun message => message.clientMessageId = clientMessageId)
      (fun message => message.withAccepted messageId conversationSeq) true written
      (fun message chosen => of_decide_eq_true chosen) (fun _ => rfl) (fun _ => rfl)
      (fun message => iff_of_false (not_waits_withAccepted message messageId conversationSeq)
        fun wrong => absurd wrong.symm Bool.false_ne_true)
      (fun _ _ wrong => absurd wrong.symm Bool.false_ne_true) found
    simpa only [and_true] using ended
  · simp only [found]
    exact sound

theorem LedgerSound.handleGatewayResponse (clientMessageId : Int) (response : SendResponse)
    (written : Bool) :
    LedgerSound (ledger.handleGatewayResponse clientMessageId response written) := by
  unfold Ledger.handleGatewayResponse
  split
  · exact sound.acceptOutgoing _ _ _ _
  · exact sound.updateMessageState _ _ _

theorem LedgerSound.retryMessage (clientMessageId : Int) (written : Bool) :
    LedgerSound (ledger.retryMessage clientMessageId written) := by
  unfold Ledger.retryMessage
  split
  · exact sound
  split
  · exact (sound.updateMessageState _ _ _).sendText _
  · exact sound

theorem LedgerSound.resume (written : Int → Bool) (message : CreatedMessage) :
    LedgerSound (Ledger.resume written ledger message) := by
  unfold Ledger.resume
  split
  · split
    · exact (sound.updateMessageState _ _ _).sendText _
    · exact sound.sendText _
  · exact sound

theorem LedgerSound.resumePendingOutgoing (written : Int → Bool) :
    LedgerSound (ledger.resumePendingOutgoing written) := by
  unfold Ledger.resumePendingOutgoing
  generalize ledger.desk.client.messages = messages
  induction messages generalizing ledger with
  | nil => exact sound
  | cons message rest inductionHypothesis =>
    exact inductionHypothesis (sound.resume written message)

theorem LedgerSound.distinct_drawn
    (drawn : message.clientMessageId = ledger.desk.client.nextClientMessageId) :
    ((ledger.desk.client.messages ++ [message]).map CreatedMessage.clientMessageId).Pairwise
      fun one other => one = other → 0 ≤ one := by
  rw [map_append]
  refine pairwise_append.mpr ⟨sound.distinct, pairwise_singleton _ _, ?_⟩
  intro one member other last same
  obtain ⟨old, memberOld, rfl⟩ := mem_map.mp member
  have above := sound.counter.2 old memberOld
  rw [same, mem_singleton.mp last, drawn] at above
  exact absurd above (lt_irrefl _)

theorem LedgerSound.ids_concat
    (fresh : ∀ row ∈ ledger.desk.rows, row.clientMessageId ≠ message.clientMessageId) :
    ((ledger.desk.rows ++ [message]).map CreatedMessage.clientMessageId).Nodup := by
  rw [map_append]
  refine nodup_append.mpr ⟨sound.ids, nodup_singleton _, fun one member other last => ?_⟩
  obtain ⟨row, memberRow, rfl⟩ := mem_map.mp member
  rw [mem_singleton.mp last]
  exact fresh row memberRow

/-- A message with a new id is written to both tables. -/
theorem LedgerSound.enqueued
    (drawn : message.clientMessageId = ledger.desk.client.nextClientMessageId)
    (pending : message.isPending)
    (fresh : ∀ row ∈ ledger.desk.rows, row.clientMessageId ≠ message.clientMessageId) :
    LedgerSound (ledger.enqueued message) where
  listed := by
    intro clientMessageId
    simp only [Ledger.enqueued, mem_append, mem_singleton, sound.listed, or_and_right,
      exists_or, exists_eq_left]
    refine or_congr_right ⟨fun same => ⟨same.symm, pending⟩, fun same => same.1.symm⟩
  ids := sound.ids_concat fresh
  distinct := sound.distinct_drawn drawn
  rows := by
    intro row member waits
    rcases mem_append.mp member with before | last
    · exact sound.rows row before waits
    · rw [mem_singleton.mp last]
      exact ⟨pending, drawn ▸ sound.counter.1⟩
  memory := by
    intro other member waits
    rcases mem_append.mp member with before | last
    · obtain ⟨negative, rows⟩ := sound.memory other before waits
      refine ⟨negative, fun row memberRow same => ?_⟩
      rcases mem_append.mp memberRow with old | new
      · exact rows row old same
      · rw [mem_singleton.mp new]
        exact pending
    rw [mem_singleton.mp last]
    refine ⟨drawn ▸ sound.counter.1, fun row memberRow same => ?_⟩
    rcases mem_append.mp memberRow with old | new
    · exact absurd same (fresh row old)
    · rw [mem_singleton.mp new]
      exact pending
  counter := by
    refine ⟨(sub_lt_self _ one_pos).trans sound.counter.1, fun other member => ?_⟩
    refine (sub_lt_self _ one_pos).trans_le ?_
    rcases mem_append.mp member with before | last
    · exact (sound.counter.2 other before).le
    · rw [mem_singleton.mp last, drawn]

theorem LedgerSound.remember {added : List CreatedMessage} {nextClientMessageId : Int}
    (still : ∀ message ∈ added, ¬ Waits message.deliveryState)
    (counter : nextClientMessageId ≤ ledger.desk.client.nextClientMessageId)
    (above : ∀ message ∈ added, nextClientMessageId < message.clientMessageId)
    (distinct : ((ledger.desk.client.messages ++ added).map
      CreatedMessage.clientMessageId).Pairwise fun one other => one = other → 0 ≤ one) :
    LedgerSound { ledger with
      desk := { ledger.desk with
        client := { ledger.desk.client with
          nextClientMessageId
          messages := ledger.desk.client.messages ++ added } } } :=
  { sound with
    distinct
    memory := forall_mem_append.mpr
      ⟨sound.memory, fun message new waits => absurd waits (still message new)⟩
    counter := ⟨counter.trans_lt sound.counter.1, forall_mem_append.mpr
      ⟨fun message before => counter.trans_lt (sound.counter.2 message before), above⟩⟩ }

theorem LedgerSound.refused
    (drawn : message.clientMessageId = ledger.desk.client.nextClientMessageId) :
    LedgerSound (ledger.refused message) := by
  refine sound.remember (fun other member => ?_) (sub_le_self _ zero_le_one)
    (fun other member => ?_) (sound.distinct_drawn (by exact drawn))
  · rw [mem_singleton.mp member]
    rintro (wrong | wrong | wrong | wrong) <;> cases wrong
  · rw [mem_singleton.mp member]
    exact (sub_lt_self _ one_pos).trans_eq drawn.symm

theorem LedgerSound.sendMessage (conversationId body timestamp : String) (enqueues written : Bool) :
    LedgerSound (ledger.sendMessage conversationId body timestamp enqueues written) := by
  unfold Ledger.sendMessage
  split
  · exact sound
  dsimp only
  split
  · rename_i taken
    have stored := sound.enqueued rfl (isPending_iff.mpr ⟨rfl, .inl rfl⟩)
      (ne_of_not_collides taken.2.1)
    split
    · exact stored.updateMessageState _ _ _
    split
    · exact stored.updateMessageState _ _ _
    · exact (stored.updateMessageState _ _ _).sendText _
  · exact sound.refused rfl

end

def Arrived (message : CreatedMessage) : Prop :=
  ¬ Waits message.deliveryState ∧ 0 ≤ message.clientMessageId

theorem LedgerSound.insertOrIgnore (sound : LedgerSound ledger) (arrived : Arrived message) :
    LedgerSound { ledger with
      desk := { ledger.desk with rows := Ledger.insertOrIgnore ledger.desk.rows message } } := by
  unfold Ledger.insertOrIgnore
  split
  · exact sound
  rename_i free
  constructor
  · intro clientMessageId
    rw [sound.listed]
    refine ⟨fun ⟨row, member, found⟩ => ⟨row, mem_append_left _ member, found⟩, ?_⟩
    rintro ⟨row, member, same, pending⟩
    rcases mem_append.mp member with before | last
    · exact ⟨row, before, same, pending⟩
    · rw [mem_singleton.mp last] at pending
      exact absurd (isPending_iff.mp pending).2 arrived.1
  · exact sound.ids_concat (ne_of_not_collides free)
  · exact sound.distinct
  · intro row member waits
    rcases mem_append.mp member with before | last
    · exact sound.rows row before waits
    · rw [mem_singleton.mp last] at waits
      exact absurd waits arrived.1
  · intro other member waits
    obtain ⟨negative, rows⟩ := sound.memory other member waits
    refine ⟨negative, fun row memberRow same => ?_⟩
    rcases mem_append.mp memberRow with before | last
    · exact rows row before same
    · rw [mem_singleton.mp last] at same
      exact absurd (same ▸ arrived.2) (not_le.mpr negative)
  · exact sound.counter

theorem LedgerSound.insertAll (sound : LedgerSound ledger) {added : List CreatedMessage}
    (arrived : ∀ message ∈ added, Arrived message) :
    LedgerSound { ledger with
      desk := { ledger.desk with
        rows := added.foldl Ledger.insertOrIgnore ledger.desk.rows } } := by
  induction added generalizing ledger with
  | nil => exact sound
  | cons message rest inductionHypothesis =>
    obtain ⟨first, later⟩ := forall_mem_cons.mp arrived
    exact inductionHypothesis (sound.insertOrIgnore first) later

theorem LedgerSound.receive (sound : LedgerSound ledger) (conversationId : String)
    {records : List MessageRecord} (written : Bool)
    (arrived : ∀ record ∈ records, ¬ Waits record.deliveryState ∧ 0 ≤ record.clientMessageId) :
    LedgerSound (ledger.receive conversationId records written) := by
  unfold Ledger.receive
  split
  · have added : ∀ message ∈ ledger.additions conversationId records, Arrived message := by
      intro message member
      obtain ⟨record, memberRecord, rfl⟩ := mem_map.mp member
      exact arrived record (mem_of_mem_filter memberRecord)
    refine (sound.insertAll added).remember (fun message member => (added message member).1)
      le_rfl (fun message member => ?_) ?_
    · exact sound.counter.1.trans_le (added message member).2
    rw [map_append]
    refine pairwise_append.mpr ⟨sound.distinct, ?_, fun one _ other new same => ?_⟩
    · refine pairwise_of_forall_mem_list fun one memberOne _ _ _ => ?_
      obtain ⟨message, member, rfl⟩ := mem_map.mp memberOne
      exact (added message member).2
    · obtain ⟨message, member, rfl⟩ := mem_map.mp new
      exact same ▸ (added message member).2
  · exact sound

theorem foldl_counter_le (messages : List CreatedMessage) (start : Int) :
    messages.foldl (fun next message => min next (message.clientMessageId - 1)) start ≤ start ∧
      ∀ message ∈ messages,
        messages.foldl (fun next message => min next (message.clientMessageId - 1)) start <
          message.clientMessageId := by
  induction messages generalizing start with
  | nil => exact ⟨le_rfl, fun _ absent => by cases absent⟩
  | cons head rest inductionHypothesis => grind

/-- After a start, memory is what the rows are, or nothing. -/
theorem LedgerSound.restart (sound : LedgerSound ledger) (loaded : Bool) :
    LedgerSound (ledger.restart loaded) := by
  have member : ∀ message ∈ (if loaded then ledger.desk.rows else []),
      message ∈ ledger.desk.rows := by
    split
    · exact fun _ => id
    · exact fun _ absent => by cases absent
  have below := foldl_counter_le (if loaded then ledger.desk.rows else []) (-1000)
  refine ⟨sound.listed, sound.ids, ?_, sound.rows, fun message loaded waits => ?_, ?_, below.2⟩
  · have nodup : ((if loaded then ledger.desk.rows else []).map
        CreatedMessage.clientMessageId).Nodup := by
      split
      · exact sound.ids
      · exact nodup_nil
    exact nodup.imp fun different same => absurd same different
  · obtain ⟨pending, negative⟩ := sound.rows message (member message loaded) waits
    refine ⟨negative, fun row memberRow same => ?_⟩
    rw [inj_on_of_nodup_map sound.ids memberRow (member message loaded) same]
    exact pending
  · exact below.1.trans_lt (by decide)

theorem not_waits_pageRecord (uid : Nat) (item : Server.ChatMessage) :
    ¬ Waits (Controller.pageRecord uid item).deliveryState := by
  unfold Controller.pageRecord Controller.stateOfStatus
  cases item.status <;> rintro (wrong | wrong | wrong | wrong) <;> cases wrong

theorem LedgerSound.step {next : Ledger} {action : LedgerAction} (sound : LedgerSound ledger)
    (taken : ledgerStep ledger action = some next) : LedgerSound next := by
  cases action with
  | restart loaded =>
    cases taken
    exact sound.restart loaded
  | signInSucceeded uid =>
    cases taken
    exact sound.withSession _
  | authenticated written =>
    simp only [ledgerStep] at taken
    split at taken
    · cases taken
      exact (sound.withSession _).resumePendingOutgoing written
    · cases taken
  | disconnected =>
    simp only [ledgerStep] at taken
    split at taken
    · cases taken
      exact sound.withSession _
    · cases taken
  | sendMessage conversationId body timestamp enqueues written =>
    cases taken
    exact sound.sendMessage conversationId body timestamp enqueues written
  | retryMessage clientMessageId written =>
    cases taken
    exact sound.retryMessage clientMessageId written
  | handleGatewayResponse clientMessageId response written =>
    cases taken
    exact sound.handleGatewayResponse clientMessageId response written
  | handleGatewayFailure clientMessageId errorCode outcomeUnknown written =>
    cases taken
    exact sound.updateMessageState clientMessageId _ written
  | page conversationId items written =>
    cases taken
    refine sound.receive conversationId written fun record member => ?_
    obtain ⟨item, -, rfl⟩ := mem_map.mp member
    exact ⟨not_waits_pageRecord _ item, Int.natCast_nonneg _⟩
  | push conversationId packet now written =>
    cases taken
    refine sound.receive conversationId written fun record member => ?_
    rw [mem_singleton.mp member]
    refine ⟨?_, Int.natCast_nonneg _⟩
    rintro (wrong | wrong | wrong | wrong) <;> cases wrong

end Rules

/-! ### The desk of a ledger -/

theorem Ledger.sendMessage_desk (ledger : Ledger) (conversationId body timestamp : String)
    (enqueues written : Bool) :
    (ledger.sendMessage conversationId body timestamp enqueues written).desk =
      ledger.desk.sendMessage receivable conversationId body timestamp
        (enqueues ∧ (ledger.desk.newMessage conversationId body timestamp).clientMessageId ∉
          ledger.outbox) written := by
  unfold Ledger.sendMessage Desk.sendMessage
  split
  · rfl
  dsimp only
  split
  · rename_i taken
    rw [ite_cond_eq_true _ _ (eq_true
      (And.intro (decide_eq_true (And.intro taken.1 taken.2.2)) taken.2.1))]
    split
    · rfl
    · split <;> rfl
  rename_i refused
  symm
  refine if_neg fun taken => refused ⟨(of_decide_eq_true taken.1).1, taken.2,
    (of_decide_eq_true taken.1).2⟩

theorem Ledger.retryMessage_desk (ledger : Ledger) (clientMessageId : Int) (written : Bool) :
    (ledger.retryMessage clientMessageId written).desk =
      ledger.desk.retryMessage receivable clientMessageId written := by
  unfold Ledger.retryMessage Desk.retryMessage
  cases ledger.desk.client.messages.find? fun message =>
    message.clientMessageId = clientMessageId with
  | none => rfl
  | some message =>
    dsimp only
    split <;> rfl

theorem Ledger.foldl_resume_desk (written : Int → Bool) (messages : List CreatedMessage)
    (ledger : Ledger) :
    (messages.foldl (Ledger.resume written) ledger).desk =
      messages.foldl (Desk.resume receivable written) ledger.desk := by
  induction messages generalizing ledger with
  | nil => rfl
  | cons message rest inductionHypothesis =>
    rw [foldl_cons, foldl_cons, inductionHypothesis]
    unfold Ledger.resume Desk.resume
    split
    · split <;> rfl
    · rfl

theorem LedgerSound.isPending_iff_mem {ledger : Ledger} (sound : LedgerSound ledger)
    {row : CreatedMessage} (member : row ∈ ledger.desk.rows) :
    row.isPending ↔ row.clientMessageId ∈ ledger.outbox := by
  rw [sound.listed]
  refine ⟨fun pending => ⟨row, member, rfl, pending⟩, ?_⟩
  rintro ⟨other, memberOther, same, pending⟩
  rw [← inj_on_of_nodup_map sound.ids memberOther member same]
  exact pending

/-- After a restart the login of an account sends the rows in `outbox` whose conversation has a
receiver, each once and in order. -/
theorem LedgerSound.resumes {ledger : Ledger} (sound : LedgerSound ledger) (uid : Nat)
    (written : Int → Bool) :
    ∃ resumed, run ledgerStep ledger
        [.restart true, .signInSucceeded uid, .authenticated written] = some resumed ∧
      resumed.desk.sends = ledger.desk.sends ++
        (ledger.desk.rows.filter fun row => receivable row.stored.conversationId ∧
          row.clientMessageId ∈ ledger.outbox).map (ledger.desk.client.wireSend uid) := by
  have listed : (ledger.desk.rows.filter fun row =>
        receivable row.stored.conversationId ∧ row.isPending) =
      ledger.desk.rows.filter fun row =>
        receivable row.stored.conversationId ∧ row.clientMessageId ∈ ledger.outbox := by
    refine filter_congr fun row member => ?_
    rw [decide_eq_decide, sound.isPending_iff_mem member]
  refine ⟨_, rfl, ?_⟩
  rw [Ledger.resumePendingOutgoing, Ledger.foldl_resume_desk, ← listed]
  exact Desk.foldl_resume_sends receivable written _ _ rfl

/-- In every database that a client writes to, starting with an empty one, a message is in
`outbox` exactly if its row is outgoing and waits; and after a restart exactly the messages in
`outbox` are sent again whose conversation has a receiver. -/
theorem outbox_lists_waiting_messages {ledger : Ledger} {actions : List LedgerAction}
    (taken : run ledgerStep newLedger actions = some ledger) :
    (ledger.desk.rows.map CreatedMessage.clientMessageId).Nodup ∧
    (∀ clientMessageId, clientMessageId ∈ ledger.outbox ↔
      ∃ row ∈ ledger.desk.rows, row.clientMessageId = clientMessageId ∧
        row.stored.record.outgoing ∧ Waits row.deliveryState) ∧
    ∀ uid written, ∃ resumed, run ledgerStep ledger
        [.restart true, .signInSucceeded uid, .authenticated written] = some resumed ∧
      resumed.desk.sends = ledger.desk.sends ++
        (ledger.desk.rows.filter fun row => receivable row.stored.conversationId ∧
          row.clientMessageId ∈ ledger.outbox).map (ledger.desk.client.wireSend uid) := by
  have sound : LedgerSound ledger :=
    run_invariant LedgerSound (fun _ _ _ sound taken => sound.step taken)
      ledgerSound_new taken
  refine ⟨sound.ids, fun clientMessageId => ?_, sound.resumes⟩
  rw [sound.listed]
  simp only [isPending_iff]

def acceptedAndWaiting : List LedgerAction :=
  [.signInSucceeded 1, .authenticated fun _ => true,
    .sendMessage "direct:2" "hello" "" true true, .sendMessage "direct:2" "there" "" true false,
    .handleGatewayResponse (-1000)
      { errorCode := .success, messageId := some 7, conversationId := some 5,
        conversationSeq := some 1 } true]

def ledgerAfter (actions : List LedgerAction) : Ledger :=
  (run ledgerStep newLedger actions).getD newLedger

theorem outbox_lists_waiting_messages_accepted :
    (ledgerAfter acceptedAndWaiting).outbox = [-1001] ∧
      ∀ clientMessageId, clientMessageId ∈ (ledgerAfter acceptedAndWaiting).outbox ↔
        ∃ row ∈ (ledgerAfter acceptedAndWaiting).desk.rows,
          row.clientMessageId = clientMessageId ∧ row.stored.record.outgoing ∧
            Waits row.deliveryState := by
  have taken : run ledgerStep newLedger acceptedAndWaiting =
      some (ledgerAfter acceptedAndWaiting) := rfl
  exact ⟨by decide +kernel, (outbox_lists_waiting_messages taken).2.1⟩

end Wimi.Client.Outbox
