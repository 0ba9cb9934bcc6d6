/-
This file proves when the timeline of a conversation is in the order of its sequence
numbers.

The schema says of `conversation_seq` that it is the number the timeline is shown by.
No code sorts by it. The list in memory grows at its end with every push and every
page, the list that is loaded after a restart is in the order in which the rows were
inserted, and a message that was sent gets its number where it stands. So both lists
are in order as long as every number arrives above all that are there, and a number
for a sent message fits between its neighbours.
-/

import Wimi.Lib.Transition
import Wimi.Client.Controller

namespace Wimi.Client

open Function List Option Transition Repository

/-! ### Runs of the controller -/

inductive TimelineAction where
  | sendMessage (body timestamp : String) (ready : Bool)
  | handleSendResponse (requestId : Nat) (response : SendResponse)
  | handleGatewayFailure (requestId : Nat) (errorCode : ErrorCode) (outcomeUnknown : Bool)
  | handlePullResponse (requestId : Nat) (response : Server.PullResponse)
  | handleGatewayPush (packet : PushPacket) (now : String)
  | authenticated
  | restart

def timelineStep (controller : Controller) : TimelineAction → Option Controller
  | .sendMessage body timestamp ready => some (controller.sendMessage body timestamp ready)
  | .handleSendResponse requestId response =>
    some (controller.handleSendResponse requestId response)
  | .handleGatewayFailure requestId errorCode outcomeUnknown =>
    some (controller.handleGatewayFailure requestId errorCode outcomeUnknown)
  | .handlePullResponse requestId response =>
    some (controller.handlePullResponse requestId response)
  | .handleGatewayPush packet now => some (controller.handleGatewayPush packet now)
  | .authenticated => some controller.authenticated
  | .restart => some controller.restart

/-! ### Order -/

def sequenceNumbers (messages : List MessageRecord) : List Nat :=
  messages.filterMap MessageRecord.conversationSeq

def Controller.restored (controller : Controller) : List MessageRecord :=
  controller.repository.load controller.localConversationId

open Controller

/-- Both lists of the conversation are in increasing order of their sequence numbers. -/
def InOrder (controller : Controller) : Prop :=
  (sequenceNumbers controller.messages).Pairwise (· < ·) ∧
    (sequenceNumbers controller.restored).Pairwise (· < ·)

def Above (controller : Controller) (seq : Nat) : Prop :=
  (∀ message ∈ controller.messages, ∀ known ∈ message.conversationSeq, known < seq) ∧
    ∀ message ∈ controller.restored, ∀ known ∈ message.conversationSeq, known < seq

def FitsAt (clientMessageId : Int) (seq : Nat) (messages : List MessageRecord) : Prop :=
  messages.Pairwise fun first second =>
    (second.clientMessageId = clientMessageId → ∀ known ∈ first.conversationSeq, known < seq) ∧
      (first.clientMessageId = clientMessageId → ∀ known ∈ second.conversationSeq, seq < known)

def newItems (controller : Controller) (response : Server.PullResponse) :
    List Server.ChatMessage :=
  response.messageList.filter fun item =>
    ¬ controller.messages.any fun message => message.messageId = some item.messageId

/-- What arrives goes behind all that is there, and what is accepted fits where it stands. -/
def ArrivesInOrder (controller : Controller) : TimelineAction → Prop
  | .handleSendResponse requestId response =>
    ∀ clientMessageId ∈ controller.outgoingRequestMessages requestId,
      ∀ seq ∈ response.conversationSeq,
        FitsAt clientMessageId seq controller.messages ∧
          FitsAt clientMessageId seq controller.restored
  | .handlePullResponse _ response =>
    ((newItems controller response).Pairwise fun first second =>
        first.conversationSeq < second.conversationSeq) ∧
      ∀ item ∈ newItems controller response, Above controller item.conversationSeq
  | .handleGatewayPush packet _ =>
    (∀ message ∈ controller.messages,
        message.messageId ≠ some (packet.messageId.getD packet.seq)) →
      ∀ seq ∈ packet.conversationSeq, Above controller seq
  | .sendMessage .. | .handleGatewayFailure .. | .authenticated | .restart => True

instance (controller : Controller) (seq : Nat) : Decidable (Above controller seq) :=
  inferInstanceAs (Decidable (_ ∧ _))

instance (clientMessageId : Int) (seq : Nat) (messages : List MessageRecord) :
    Decidable (FitsAt clientMessageId seq messages) :=
  inferInstanceAs (Decidable (messages.Pairwise _))

instance (controller : Controller) : ∀ action, Decidable (ArrivesInOrder controller action)
  | .handleSendResponse requestId response =>
    inferInstanceAs (Decidable (∀ clientMessageId ∈ controller.outgoingRequestMessages requestId,
      ∀ seq ∈ response.conversationSeq, FitsAt clientMessageId seq controller.messages ∧
        FitsAt clientMessageId seq controller.restored))
  | .handlePullResponse _ response =>
    inferInstanceAs (Decidable (((newItems controller response).Pairwise fun first second =>
        first.conversationSeq < second.conversationSeq) ∧
      ∀ item ∈ newItems controller response, Above controller item.conversationSeq))
  | .handleGatewayPush packet _ =>
    inferInstanceAs (Decidable ((∀ message ∈ controller.messages,
        message.messageId ≠ some (packet.messageId.getD packet.seq)) →
      ∀ seq ∈ packet.conversationSeq, Above controller seq))
  | .sendMessage .. | .handleGatewayFailure .. | .authenticated | .restart => isTrue trivial

def Precedes (first second : MessageRecord) : Prop :=
  ∀ earlier ∈ first.conversationSeq, ∀ later ∈ second.conversationSeq, earlier < later

theorem sequenceNumbers_pairwise_iff (messages : List MessageRecord) :
    (sequenceNumbers messages).Pairwise (· < ·) ↔ messages.Pairwise Precedes :=
  pairwise_filterMap

theorem precedes_unsequenced {first second : MessageRecord}
    (plain : second.conversationSeq = none) :
    Precedes first second := by
  intro earlier _ later member
  rw [plain] at member
  cases member

theorem pairwise_concat {messages : List MessageRecord} {last : MessageRecord}
    (ordered : messages.Pairwise Precedes) (behind : ∀ message ∈ messages, Precedes message last) :
    (messages ++ [last]).Pairwise Precedes := by
  rw [pairwise_append]
  refine ⟨ordered, pairwise_singleton _ _, fun message member other only => ?_⟩
  rw [mem_singleton.mp only]
  exact behind message member

/-! ### Numbers for sent messages -/

variable {message : MessageRecord}

section Accept

variable {clientMessageId : Int} {messageId seq : Nat} {messages : List MessageRecord}

theorem acceptRecord_eq_some {after : MessageRecord}
    (accepted : acceptRecord clientMessageId messageId seq message = some after) :
    message.clientMessageId = clientMessageId ∧ after.conversationSeq = some seq := by
  simp only [acceptRecord] at accepted
  split_ifs at accepted with own
  exact ⟨own, by rw [← some.inj accepted]⟩

theorem pairwise_acceptRecord (ordered : messages.Pairwise Precedes)
    (fits : FitsAt clientMessageId seq messages) :
    (messages.replaceF (acceptRecord clientMessageId messageId seq)).Pairwise Precedes := by
  induction messages with
  | nil => exact List.Pairwise.nil
  | cons message rest inductionHypothesis =>
    obtain ⟨before, later⟩ := pairwise_cons.mp ordered
    obtain ⟨around, others⟩ := pairwise_cons.mp fits
    cases replaced : acceptRecord clientMessageId messageId seq message with
    | none =>
      rw [replaceF_cons_of_none _ replaced]
      refine pairwise_cons.mpr
        ⟨Lists.forall_mem_replaceF before ?_, inductionHypothesis later others⟩
      intro other member after accepted earlier known final number
      obtain ⟨own, numbered⟩ := acceptRecord_eq_some accepted
      obtain rfl : seq = final := some.inj (numbered.symm.trans number)
      exact (around other member).1 own earlier known
    | some after =>
      obtain ⟨own, numbered⟩ := acceptRecord_eq_some replaced
      rw [replaceF_cons_of_some _ replaced]
      refine pairwise_cons.mpr ⟨fun other member first number final known => ?_, later⟩
      obtain rfl : seq = first := some.inj (numbered.symm.trans number)
      exact (around other member).2 own final known

theorem pairwise_acceptedRow {rows : List StoredMessage} {conversationId : String}
    (distinct : (rows.map fun row => row.record.clientMessageId).Nodup)
    (ordered : ((rows.filter fun row => row.conversationId = conversationId).map
      StoredMessage.record).Pairwise Precedes)
    (fits : FitsAt clientMessageId seq
      ((rows.filter fun row => row.conversationId = conversationId).map StoredMessage.record)) :
    (((rows.map fun row => if row.record.clientMessageId = clientMessageId then
        acceptedRow messageId seq row else row).filter
          fun row => row.conversationId = conversationId).map
      StoredMessage.record).Pairwise Precedes := by
  have kept : (fun row : StoredMessage => decide (row.conversationId = conversationId)) ∘
      (fun row => if row.record.clientMessageId = clientMessageId then
        acceptedRow messageId seq row else row) =
      fun row => decide (row.conversationId = conversationId) := by
    funext row
    simp only [comp_apply]
    split_ifs <;> rfl
  rw [List.filter_map, kept, pairwise_map, pairwise_map]
  have apart := (pairwise_map.mp distinct).filter fun row => row.conversationId = conversationId
  refine ((pairwise_map.mp ordered).and ((pairwise_map.mp fits).and apart)).imp ?_
  rintro first second ⟨before, ⟨above, below⟩, different⟩
  split_ifs with ownFirst ownSecond ownSecond
  · exact absurd (ownFirst.trans ownSecond.symm) different
  · intro earlier number later known
    obtain rfl : seq = earlier := some.inj number
    exact below ownFirst later known
  · intro earlier known later number
    obtain rfl : seq = later := some.inj number
    exact above ownSecond earlier known
  · exact before

end Accept

/-! ### Rows -/

structure RowsInOrder (conversationId : String) (repository : Repository) : Prop where
  distinct : (repository.messages.map fun row => row.record.clientMessageId).Nodup
  ordered : (repository.load conversationId).Pairwise Precedes

section Rows

variable {conversationId : String} {repository inserted : Repository}

theorem insertMessage_fresh {ignoreDuplicate : Bool}
    (written : repository.insertMessage conversationId message ignoreDuplicate = some inserted) :
    inserted = repository ∨
      inserted = { repository with
        messages := repository.messages ++ [⟨conversationId, message⟩] } ∧
      message.clientMessageId ∉ repository.messages.map fun row => row.record.clientMessageId := by
  simp only [insertMessage] at written
  split_ifs at written with collision ignored known
  · exact .inl (some.inj written).symm
  refine .inr ⟨(some.inj written).symm, fun present => collision ?_⟩
  obtain ⟨row, member, same⟩ := mem_map.mp present
  exact any_eq_true.mpr ⟨row, member, decide_eq_true (.inl same.symm)⟩

theorem load_concat (message : MessageRecord) :
    load { repository with
        messages := repository.messages ++ [⟨conversationId, message⟩] } conversationId =
      repository.load conversationId ++ [message] := by
  simp [load]

section

variable (rows : RowsInOrder conversationId repository)
include rows

theorem RowsInOrder.insertMessage {ignoreDuplicate : Bool}
    (behind : ∀ stored ∈ repository.load conversationId, Precedes stored message)
    (written : repository.insertMessage conversationId message ignoreDuplicate = some inserted) :
    RowsInOrder conversationId inserted := by
  obtain rfl | ⟨rfl, fresh⟩ := insertMessage_fresh written
  · exact rows
  constructor
  · rw [map_append]
    exact (nodup_append_comm.mp (nodup_cons.mpr ⟨fresh, rows.distinct⟩))
  · rw [load_concat]
    exact pairwise_concat rows.ordered behind

theorem RowsInOrder.insertAll {messages : List MessageRecord} (ordered : messages.Pairwise Precedes)
    (behind : ∀ message ∈ messages, ∀ stored ∈ repository.load conversationId,
      Precedes stored message)
    (written : insertAll conversationId messages repository = some inserted) :
    RowsInOrder conversationId inserted := by
  induction messages generalizing repository with
  | nil =>
    obtain rfl := some.inj written
    exact rows
  | cons message rest inductionHypothesis =>
    obtain ⟨first, later⟩ := pairwise_cons.mp ordered
    obtain ⟨here, others⟩ := forall_mem_cons.mp behind
    simp only [insertAll] at written
    split at written
    · cases written
    rename_i next stored
    refine inductionHypothesis (rows.insertMessage here stored) later
      (fun other member => ?_) written
    obtain rfl | ⟨rfl, -⟩ := insertMessage_fresh stored
    · exact others other member
    · rw [load_concat, forall_mem_append, forall_mem_singleton]
      exact ⟨others other member, first other member⟩

theorem RowsInOrder.applyIncomingBatch {messages : List MessageRecord} {nextCursor : Nat}
    (ordered : messages.Pairwise Precedes)
    (behind : ∀ message ∈ messages, ∀ stored ∈ repository.load conversationId,
      Precedes stored message)
    (written : repository.applyIncomingBatch conversationId messages nextCursor = some inserted) :
    RowsInOrder conversationId inserted := by
  obtain ⟨all, stored, rfl⟩ := map_eq_some_iff.mp written
  have ordered := rows.insertAll ordered behind stored
  exact ⟨ordered.distinct, ordered.ordered⟩

theorem RowsInOrder.enqueueOutgoing (plain : message.conversationSeq = none)
    (written : repository.enqueueOutgoing conversationId message = some inserted) :
    RowsInOrder conversationId inserted := by
  simp only [Repository.enqueueOutgoing] at written
  split at written
  · cases written
  rename_i stored first
  split_ifs at written
  obtain rfl := some.inj written
  have ordered := rows.insertMessage (fun _ _ => precedes_unsequenced plain) first
  exact ⟨ordered.distinct, ordered.ordered⟩

end

theorem map_clientMessageId {rows : List StoredMessage} {change : StoredMessage → StoredMessage}
    (same : ∀ row, (change row).record.clientMessageId = row.record.clientMessageId) :
    ((rows.map change).map fun row => row.record.clientMessageId) =
      rows.map fun row => row.record.clientMessageId := by
  rw [List.map_map]
  exact map_congr_left fun row _ => same row

theorem RowsInOrder.updateDeliveryState (rows : RowsInOrder conversationId repository)
    (clientMessageId : Int) (state : MessageDeliveryState) :
    RowsInOrder conversationId (repository.updateDeliveryState clientMessageId state) := by
  constructor
  · simp only [Repository.updateDeliveryState]
    rw [map_clientMessageId fun row => by split_ifs <;> rfl]
    exact rows.distinct
  have numbers : sequenceNumbers ((repository.updateDeliveryState clientMessageId state).load
      conversationId) = sequenceNumbers (repository.load conversationId) := by
    simp only [Repository.updateDeliveryState, Repository.load, sequenceNumbers, List.filter_map,
      filterMap_map]
    congr 1
    · grind
    congr 1
    funext row
    simp only [comp_apply]
    split_ifs <;> rfl
  rw [← sequenceNumbers_pairwise_iff, numbers, sequenceNumbers_pairwise_iff]
  exact rows.ordered

theorem RowsInOrder.acceptOutgoing (rows : RowsInOrder conversationId repository)
    {clientMessageId : Int} {messageId seq : Nat}
    (fits : FitsAt clientMessageId seq (repository.load conversationId)) :
    RowsInOrder conversationId
      ((repository.acceptOutgoing clientMessageId messageId conversationId seq).getD
        repository) := by
  simp only [Repository.acceptOutgoing]
  split_ifs
  · exact rows
  rw [getD_some]
  constructor
  · simp only [Repository.raiseCursor]
    rw [map_clientMessageId fun row => by split_ifs <;> rfl]
    exact rows.distinct
  · exact pairwise_acceptedRow rows.distinct rows.ordered fits

end Rows

/-! ### Steps -/

structure TimelineSound (controller : Controller) : Prop where
  memory : controller.messages.Pairwise Precedes
  rows : RowsInOrder controller.localConversationId controller.repository

namespace TimelineSound

variable {controller : Controller}

section

variable (sound : TimelineSound controller)
include sound

theorem inOrder : InOrder controller :=
  ⟨(sequenceNumbers_pairwise_iff _).mpr sound.memory,
    (sequenceNumbers_pairwise_iff _).mpr sound.rows.ordered⟩

theorem attachRemoteConversation (remoteConversationId : Int) :
    TimelineSound (controller.attachRemoteConversation remoteConversationId) := by
  simp only [Controller.attachRemoteConversation]
  split_ifs
  · exact sound
  · exact { sound with }

theorem updateMessageState (clientMessageId : Int) (state : MessageDeliveryState) :
    TimelineSound (controller.updateMessageState clientMessageId state) := by
  simp only [Controller.updateMessageState]
  split_ifs
  · refine ⟨?_, sound.rows.updateDeliveryState clientMessageId state⟩
    rw [← sequenceNumbers_pairwise_iff, sequenceNumbers, Lists.filterMap_replaceF]
    · exact sound.inOrder.1
    · simp
  · exact sound

theorem sendText (clientMessageId : Int) (body : String) :
    TimelineSound (controller.sendText clientMessageId body) :=
  { sound with }

theorem sendMessage (body timestamp : String) (ready : Bool) :
    TimelineSound (controller.sendMessage body timestamp ready) := by
  simp only [Controller.sendMessage]
  split
  · exact sound
  split
  · exact ⟨pairwise_concat sound.memory fun _ _ => precedes_unsequenced rfl, sound.rows⟩
  rename_i repository written
  have stored : TimelineSound
      { controller with
        nextClientMessageId := controller.nextClientMessageId - 1
        repository
        messages := controller.messages ++
          [{ clientMessageId := controller.nextClientMessageId, senderId := "me",
             body, timestamp, outgoing := true,
             deliveryState := .pendingLocal }] } :=
    ⟨pairwise_concat sound.memory fun _ _ => precedes_unsequenced rfl,
      sound.rows.enqueueOutgoing rfl written⟩
  split
  · exact (stored.updateMessageState _ _).sendText _ _
  · exact stored.updateMessageState _ _

theorem handleSendResponse {requestId : Nat} {response : SendResponse}
    (fits : ArrivesInOrder controller (.handleSendResponse requestId response)) :
    TimelineSound (controller.handleSendResponse requestId response) := by
  simp only [Controller.handleSendResponse]
  split
  · exact sound
  rename_i clientMessageId waits
  split
  · rename_i messageId conversationId seq _ _ _ numbered
    obtain ⟨inMemory, inTables⟩ := fits clientMessageId waits seq numbered
    split_ifs
    · exact TimelineSound.attachRemoteConversation
        ⟨pairwise_acceptRecord sound.memory inMemory, sound.rows.acceptOutgoing inTables⟩ _
    · exact { sound with }
  · refine TimelineSound.updateMessageState ?_ _ _
    exact { sound with }

theorem handleGatewayFailure (requestId : Nat) (errorCode : ErrorCode) (outcomeUnknown : Bool) :
    TimelineSound (controller.handleGatewayFailure requestId errorCode outcomeUnknown) := by
  simp only [Controller.handleGatewayFailure]
  split
  · exact { sound with }
  · refine TimelineSound.updateMessageState ?_ _ _
    exact { sound with }

theorem storePage {response : Server.PullResponse}
    (ordered : (newItems controller response).Pairwise fun first second =>
      first.conversationSeq < second.conversationSeq)
    (above : ∀ item ∈ newItems controller response, Above controller item.conversationSeq) :
    TimelineSound (controller.storePage response) := by
  have additions : (controller.additions response.messageList).Pairwise Precedes := by
    refine pairwise_map.mpr (ordered.imp fun smaller earlier first later second => ?_)
    obtain rfl := some.inj first
    obtain rfl := some.inj second
    exact smaller
  have behind : ∀ message ∈ controller.additions response.messageList,
      (∀ known ∈ controller.messages, Precedes known message) ∧
        ∀ known ∈ controller.restored, Precedes known message := by
    intro message member
    obtain ⟨item, new, rfl⟩ := mem_map.mp member
    obtain ⟨memory, restored⟩ := above item new
    constructor
    · intro known present earlier number later own
      obtain rfl := some.inj own
      exact memory known present earlier number
    intro known present earlier number later own
    obtain rfl := some.inj own
    exact restored known present earlier number
  simp only [Controller.storePage]
  split
  · exact sound
  rename_i repository written
  have stored : TimelineSound
      { controller with
        repository
        messages := controller.messages ++ controller.additions response.messageList } := by
    refine ⟨pairwise_append.mpr ⟨sound.memory, additions, ?_⟩,
      sound.rows.applyIncomingBatch additions (fun message member => (behind message member).2)
        written⟩
    exact fun known present message member => (behind message member).1 known present
  split
  · exact { stored with }
  · exact stored

theorem handlePullResponse {requestId : Nat} {response : Server.PullResponse}
    (arrives : ArrivesInOrder controller (.handlePullResponse requestId response)) :
    TimelineSound (controller.handlePullResponse requestId response) := by
  simp only [Controller.handlePullResponse]
  split_ifs
  · exact { sound with }
  obtain ⟨remote, attached⟩ := Controller.attachRemoteConversation_spec
    { controller with
      syncRequestConversations :=
        update controller.syncRequestConversations requestId false }
    (response.conversationId.getD 0)
  rw [attached]
  refine storePage ?_ ?_ ?_
  · exact { sound with }
  · exact arrives.1
  · exact arrives.2

theorem handleGatewayPush {packet : PushPacket} {now : String}
    (arrives : ArrivesInOrder controller (.handleGatewayPush packet now)) :
    TimelineSound (controller.handleGatewayPush packet now) := by
  simp only [Controller.handleGatewayPush]
  obtain ⟨remote, attached⟩ :=
    controller.attachRemoteConversation_spec (packet.conversationId.getD 0)
  rw [attached]
  split
  · exact { sound with }
  rename_i new
  have above := arrives fun message member same =>
    new (any_eq_true.mpr ⟨message, member, decide_eq_true same⟩)
  split
  · exact { sound with }
  rename_i repository written
  refine ⟨pairwise_concat sound.memory fun known present earlier number later own => ?_,
    sound.rows.applyIncomingBatch (pairwise_singleton _ _)
      (fun message member known present earlier number later own => ?_) written⟩
  · exact (above later own).1 known present earlier number
  · rw [mem_singleton.mp member] at own
    exact (above later own).2 known present earlier number

theorem authenticated : TimelineSound controller.authenticated :=
  authenticated_rule (fun _ _ _ _ _ sound => { sound with })
    (fun _ sound => sound.updateMessageState _ _) sound

theorem restart : TimelineSound controller.restart :=
  ⟨sound.rows.ordered, sound.rows⟩

/-- A step keeps the order if what arrives with it arrives in order. -/
theorem step {action : TimelineAction} {next : Controller}
    (arrives : ArrivesInOrder controller action)
    (taken : timelineStep controller action = some next) : TimelineSound next := by
  cases action with
  | sendMessage body timestamp ready =>
    exact some.inj taken ▸ sound.sendMessage body timestamp ready
  | handleSendResponse requestId response =>
    exact some.inj taken ▸ sound.handleSendResponse arrives
  | handleGatewayFailure requestId errorCode outcomeUnknown =>
    exact some.inj taken ▸ sound.handleGatewayFailure requestId errorCode outcomeUnknown
  | handlePullResponse requestId response =>
    exact some.inj taken ▸ sound.handlePullResponse arrives
  | handleGatewayPush packet now =>
    exact some.inj taken ▸ sound.handleGatewayPush arrives
  | authenticated => exact some.inj taken ▸ sound.authenticated
  | restart => exact some.inj taken ▸ sound.restart

end

end TimelineSound

/-! ### Runs -/

/-- Every run from a client whose lists are in order and whose tables have one row for each
client id, in which every number arrives above all that are there: both lists stay in order,
so two such runs that end with the same numbers show them in the same order. -/
theorem timeline_in_order {start final : Controller} {actions : List TimelineAction}
    (ordered : InOrder start)
    (distinct : (start.repository.messages.map fun row => row.record.clientMessageId).Nodup)
    (arrives : Along timelineStep ArrivesInOrder start actions)
    (taken : run timelineStep start actions = some final) :
    InOrder final ∧ ∀ other, InOrder other →
      ((∀ seq, seq ∈ sequenceNumbers final.messages ↔ seq ∈ sequenceNumbers other.messages) →
        sequenceNumbers final.messages = sequenceNumbers other.messages) ∧
      ((∀ seq, seq ∈ sequenceNumbers final.restored ↔ seq ∈ sequenceNumbers other.restored) →
        sequenceNumbers final.restored = sequenceNumbers other.restored) := by
  have sound : TimelineSound final :=
    run_invariant_along TimelineSound ArrivesInOrder
      (fun _ _ _ sound arrives taken => sound.step arrives taken)
      ⟨(sequenceNumbers_pairwise_iff _).mp ordered.1, distinct,
        (sequenceNumbers_pairwise_iff _).mp ordered.2⟩ arrives taken
  refine ⟨sound.inOrder, fun other otherOrdered => ⟨fun same => ?_, fun same => ?_⟩⟩
  · exact sound.inOrder.1.eq_of_mem_iff otherOrdered.1 same
  · exact sound.inOrder.2.eq_of_mem_iff otherOrdered.2 same

def emptyTimeline : Controller where
  authenticatedUid := 1
  localConversationId := "direct:2"
  repository := { conversations := ["direct:2"] }

def numberedPush (seq : Nat) : TimelineAction :=
  .handleGatewayPush
    { fromUid := 2, messageId := some (40 + seq), conversationId := some 9,
      conversationSeq := some seq, data := "hello", sendDateTime := "2026-01-01 10:00:00" } "10:00"

def acceptedAs (seq : Nat) : TimelineAction :=
  .handleSendResponse 0
    { errorCode := .success, messageId := some (40 + seq), conversationId := some 9,
      conversationSeq := some seq }

def timelineAfter (actions : List TimelineAction) : Controller :=
  (run timelineStep emptyTimeline actions).getD emptyTimeline

/-- A text is sent and accepted, then two pushes and a restart follow in order. -/
theorem timeline_in_order_pushes :
    let actions : List TimelineAction :=
      [.sendMessage "hello" "10:00" true, acceptedAs 1, numberedPush 2, numberedPush 3, .restart]
    InOrder (timelineAfter actions) ∧
      sequenceNumbers (timelineAfter actions).messages = [1, 2, 3] := by
  intro actions
  have taken : run timelineStep emptyTimeline actions = some (timelineAfter actions) :=
    rfl
  exact ⟨(timeline_in_order ⟨by decide, by decide⟩ (by decide) (by decide +kernel) taken).1,
    by decide +kernel⟩

/-- Two pushes in the wrong order: the timeline is shown as it arrived, and restored so after a
restart. In the right order it is another. And a text that is accepted after a push with a
smaller number stays in front of it. -/
theorem timeline_out_of_order :
    sequenceNumbers (timelineAfter [numberedPush 2, numberedPush 1]).messages = [2, 1] ∧
      sequenceNumbers (timelineAfter [numberedPush 2, numberedPush 1, .restart]).messages = [2, 1] ∧
      sequenceNumbers (timelineAfter [numberedPush 1, numberedPush 2]).messages = [1, 2] ∧
      ¬ InOrder (timelineAfter [numberedPush 2, numberedPush 1]) ∧
      sequenceNumbers (timelineAfter
        [.sendMessage "hello" "10:00" true, numberedPush 1, acceptedAs 2]).messages = [2, 1] := by
  refine ⟨by decide +kernel, by decide +kernel, by decide +kernel, fun ordered => ?_,
    by decide +kernel⟩
  exact absurd ordered.1 (by decide +kernel)

end Wimi.Client
