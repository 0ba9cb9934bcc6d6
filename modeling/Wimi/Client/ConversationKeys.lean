/-
This file models the keys under which the client keeps its conversations, and proves
for which conversations a text reaches the peer or the group of its conversation.

A key is a kind, `direct:` or `group:`, and the number of the peer or the group. It
is read back at each send. The reader takes the length of the kind from the size of
the pointer to it, which is eight bytes whatever it points to. This is the length of
`direct:` with its final zero, and one more than that of `group:`. So the number of
a group is always read without its first digit: a text to a group reaches another
group, or nobody.
-/

import Wimi.Client.Outbox
import Wimi.Client.Requests

namespace Wimi.Client

open Function List Option

/-! ### Writing and reading a key -/

def directConversationId (peerUid : Int) : String := "direct:" ++ toString peerUid

def groupConversationId (groupId : Int) : String := "group:" ++ toString groupId

def pointerSize : Nat := 8

def keyNumber (kind key : String) : Option Int :=
  if kind.toList <+: key.toList then
    (toLongLong (key.toList.drop (pointerSize - 1))).filter (0 < ·)
  else none

def directPeerUid (conversationId : String) : Option Int := keyNumber "direct:" conversationId

def groupId (conversationId : String) : Option Int := keyNumber "group:" conversationId

inductive Conversation where
  | direct (peerUid : Int)
  | group (groupId : Int)
deriving DecidableEq, Repr

namespace Conversation

def number : Conversation → Int
  | .direct peerUid => peerUid
  | .group groupId => groupId

def key : Conversation → String
  | .direct peerUid => directConversationId peerUid
  | .group groupId => groupConversationId groupId

def isDirect : Conversation → Bool
  | .direct _ => true
  | .group _ => false

/-- The key is read back as the number of the conversation, and not as a key of the other
kind. -/
def ParsesBack : Conversation → Prop
  | .direct peerUid => directPeerUid (directConversationId peerUid) = some peerUid ∧
      groupId (directConversationId peerUid) = none
  | .group number => groupId (groupConversationId number) = some number ∧
      directPeerUid (groupConversationId number) = none

end Conversation

def receiver (conversationId : String) : Option Conversation :=
  match directPeerUid conversationId with
  | some peerUid => some (.direct peerUid)
  | none => (groupId conversationId).map .group

def receivable (conversationId : String) : Bool := (receiver conversationId).isSome

/-! ### Which keys are read back -/

theorem keyNumber_of_not_isPrefix {kind key : String} (other : ¬ kind.toList <+: key.toList) :
    keyNumber kind key = none := if_neg other

theorem keyNumber_append (kind : String) (text : String) :
    keyNumber kind (kind ++ text) =
      (toLongLong ((kind ++ text).toList.drop (pointerSize - 1))).filter (0 < ·) := by
  rw [keyNumber, if_pos]
  rw [String.toList_append]
  exact prefix_append _ _

theorem not_isPrefix_of_head_ne {kind other text : String} (first : kind.toList.head? ≠ none)
    (differ : kind.toList.head? ≠ (other ++ text).toList.head?) :
    ¬ kind.toList <+: (other ++ text).toList := by
  rintro ⟨rest, joined⟩
  rw [← joined, head?_append, or_of_isSome (isSome_iff_ne_none.mpr first)] at differ
  exact differ rfl

theorem directPeerUid_groupConversationId (number : Int) :
    directPeerUid (groupConversationId number) = none := by
  refine keyNumber_of_not_isPrefix (not_isPrefix_of_head_ne (by decide) ?_)
  rw [String.toList_append]
  exact (by decide : some 'd' ≠ some 'g')

theorem groupId_directConversationId (peerUid : Int) :
    groupId (directConversationId peerUid) = none := by
  refine keyNumber_of_not_isPrefix (not_isPrefix_of_head_ne (by decide) ?_)
  rw [String.toList_append]
  exact (by decide : some 'g' ≠ some 'd')

theorem directPeerUid_directConversationId {peerUid : Int} (positive : 0 < peerUid)
    (bounded : peerUid < 2 ^ 63) : directPeerUid (directConversationId peerUid) = some peerUid := by
  have behind : ("direct:" ++ toString peerUid).toList.drop (pointerSize - 1) =
      (toString peerUid).toList := by
    rw [String.toList_append]
    rfl
  rw [directPeerUid, directConversationId, keyNumber_append, behind,
    toLongLong_toString (by omega) bounded, filter_some, if_pos (decide_eq_true positive)]

/-- What is read of the key of a group: its number without the first digit. -/
theorem groupId_groupConversationId (number : Nat) :
    groupId (groupConversationId number) =
      (toLongLong (Nat.toDigits 10 number).tail).filter (0 < ·) := by
  have behind : ("group:" ++ toString (number : Int)).toList.drop (pointerSize - 1) =
      (Nat.toDigits 10 number).tail := by
    change ("group:" ++ Nat.repr number).toList.drop 7 = _
    rw [String.toList_append, Nat.toList_repr, ← drop_one]
    rfl
  rw [groupId, groupConversationId, keyNumber_append, behind]

/-- The number of a group is never read back. -/
theorem groupId_groupConversationId_ne {number : Int} (positive : 0 < number) :
    groupId (groupConversationId number) ≠ some number := by
  obtain ⟨number, rfl⟩ := Int.eq_ofNat_of_zero_le positive.le
  rw [groupId_groupConversationId]
  intro parsed
  obtain ⟨parsed, _⟩ := filter_eq_some_iff.mp parsed
  obtain ⟨parsed, _⟩ := filter_eq_some_iff.mp parsed
  exact Decimal.parseInt_tail_toDigits_ne number parsed

theorem receiver_direct {peerUid : Int} (positive : 0 < peerUid) (bounded : peerUid < 2 ^ 63) :
    receiver (directConversationId peerUid) = some (.direct peerUid) := by
  rw [receiver, directPeerUid_directConversationId positive bounded]

theorem receiver_group_ne {number : Int} (positive : 0 < number) :
    receiver (groupConversationId number) ≠ some (.group number) := by
  rw [receiver, directPeerUid_groupConversationId]
  intro same
  obtain ⟨parsed, found, ⟨⟩⟩ := map_eq_some_iff.mp same
  exact groupId_groupConversationId_ne positive found

variable {conversation : Conversation}

theorem parsesBack_iff (positive : 0 < conversation.number)
    (bounded : conversation.number < 2 ^ 63) :
    conversation.ParsesBack ↔ conversation.isDirect := by
  cases conversation with
  | direct peerUid =>
    exact iff_of_true ⟨directPeerUid_directConversationId positive bounded,
      groupId_directConversationId peerUid⟩ rfl
  | group number =>
    exact iff_of_false (fun parses => groupId_groupConversationId_ne positive parses.1)
      Bool.false_ne_true

/-! ### Where texts are sent -/

namespace Outbox

def Installation.wireSend (client : Installation) (uid : Nat) (message : CreatedMessage) :
    WireSend where
  database := client.database
  origin := message.origin
  actorUid := uid
  clientMessageId := wireClientMessageId uid message.clientMessageId
  conversationId := message.stored.conversationId
  body := message.stored.record.body

section Sends

variable {desk : Desk} {uid : Nat}

theorem Desk.sendText_sends (ready : desk.client.session = .ready uid) (message : CreatedMessage) :
    (desk.sendText message).sends = desk.sends ++ [desk.client.wireSend uid message] := by
  rw [Desk.sendText, ready]
  rfl

theorem Desk.sendText_client (message : CreatedMessage) :
    (desk.sendText message).client = desk.client := by
  rw [Desk.sendText]
  split <;> rfl

section

variable (clientMessageId : Int) (state : MessageDeliveryState) (written : Bool)

theorem Desk.updateMessageState_sends :
    (desk.updateMessageState clientMessageId state written).sends = desk.sends := by
  rw [Desk.updateMessageState]
  split <;> rfl

theorem Desk.updateMessageState_session :
    (desk.updateMessageState clientMessageId state written).client.session =
      desk.client.session := by
  rw [Desk.updateMessageState]
  split <;> rfl

theorem Desk.updateMessageState_wireSend (message : CreatedMessage) :
    (desk.updateMessageState clientMessageId state written).client.wireSend uid message =
      desk.client.wireSend uid message := by
  rw [Desk.updateMessageState]
  split <;> rfl

end

theorem Desk.updateMessageState_sendText_sends (ready : desk.client.session = .ready uid)
    (clientMessageId : Int) (state : MessageDeliveryState) (written : Bool)
    (message : CreatedMessage) :
    ((desk.updateMessageState clientMessageId state written).sendText message).sends =
      desk.sends ++ [desk.client.wireSend uid message] := by
  rw [Desk.sendText_sends ((desk.updateMessageState_session clientMessageId state written).trans
    ready), Desk.updateMessageState_sends, Desk.updateMessageState_wireSend]

variable {conversationId body : String}

section

variable (receivable : String → Bool)
include receivable

theorem Desk.sendMessage_sends (ready : desk.client.session = .ready uid) (text : body ≠ "")
    (timestamp : String) (written : Bool)
    (free : ¬ desk.rows.any fun row =>
      (desk.newMessage conversationId body timestamp).stored.collides row.stored) :
    (desk.sendMessage receivable conversationId body timestamp true written).sends =
      if receivable conversationId then
        desk.sends ++
          [desk.client.wireSend uid (desk.newMessage conversationId body timestamp)]
      else desk.sends := by
  have connected : desk.client.session.isReady := by rw [ready]; rfl
  rw [Desk.sendMessage, if_neg text]
  rw [if_pos ⟨rfl, free⟩]
  by_cases known : receivable conversationId
  · rw [if_neg (not_not.mpr known), if_neg (not_not.mpr connected), if_pos known]
    exact Desk.updateMessageState_sendText_sends (by exact ready) _ _ _ _
  · rw [if_pos known, if_neg known, Desk.updateMessageState_sends]

theorem Desk.retryMessage_sends (ready : desk.client.session = .ready uid) {clientMessageId : Int}
    {message : CreatedMessage}
    (found : (desk.client.messages.find? fun message =>
      message.clientMessageId = clientMessageId) = some message)
    (outgoing : message.stored.record.outgoing) (failed : message.deliveryState = .retryableFailed)
    (keyed : message.stored.conversationId ≠ "") (written : Bool) :
    (desk.retryMessage receivable clientMessageId written).sends =
      if receivable message.stored.conversationId then
        desk.sends ++ [desk.client.wireSend uid message]
      else desk.sends := by
  have connected : desk.client.session.isReady := by rw [ready]; rfl
  rw [Desk.retryMessage, found]
  simp only [outgoing, failed, keyed, connected, ne_eq, not_false_eq_true, true_and]
  split
  · exact Desk.updateMessageState_sendText_sends ready _ _ _ _
  · rfl

theorem Desk.resume_sends (written : Int → Bool) (ready : desk.client.session = .ready uid)
    (message : CreatedMessage) : (Desk.resume receivable written desk message).sends = desk.sends ++
        (if receivable message.stored.conversationId ∧ message.isPending then
          [desk.client.wireSend uid message] else []) ∧
      (Desk.resume receivable written desk message).client.session = desk.client.session ∧
      ∀ other, (Desk.resume receivable written desk message).client.wireSend uid other =
        desk.client.wireSend uid other := by
  rw [Desk.resume]
  split
  · grind [Desk.sendText_client, Desk.updateMessageState_session,
      Desk.updateMessageState_wireSend, Desk.updateMessageState_sendText_sends, Desk.sendText_sends]
  · exact ⟨(append_nil _).symm, rfl, fun _ => rfl⟩

theorem Desk.foldl_resume_sends (written : Int → Bool) (messages : List CreatedMessage)
    (desk : Desk) (ready : desk.client.session = .ready uid) :
    (messages.foldl (Desk.resume receivable written) desk).sends = desk.sends ++
      (messages.filter fun message =>
        receivable message.stored.conversationId ∧ message.isPending).map
          (desk.client.wireSend uid) := by
  induction messages generalizing desk with
  | nil => exact (append_nil _).symm
  | cons message rest inductionHypothesis =>
    obtain ⟨sent, session, same⟩ := desk.resume_sends receivable written ready message
    rw [foldl_cons, inductionHypothesis _ (session.trans ready), sent, append_assoc, funext same,
      filter_cons]
    split
    next pending => rw [if_pos (decide_eq_true pending)]; rfl
    next resting => rw [if_neg (by simpa using resting)]; rfl

/-- The loops send the pending messages whose conversation has a receiver, each once and in
order. -/
theorem Desk.resumePendingOutgoing_sends (written : Int → Bool)
    (ready : desk.client.session = .ready uid) :
    (desk.resumePendingOutgoing receivable written).sends = desk.sends ++
      (desk.client.messages.filter fun message =>
        receivable message.stored.conversationId ∧ message.isPending).map
          (desk.client.wireSend uid) :=
  Desk.foldl_resume_sends receivable written desk.client.messages desk ready

end

end Sends

def WireSend.receiver (send : WireSend) : Option Conversation :=
  Client.receiver send.conversationId

/-- The three methods that send address the texts of a conversation to the conversation: a new
text, a text sent again by hand, and the pending texts after a login, each of these once. -/
structure SendsReach (conversation : Conversation) : Prop where
  sendMessage : ∀ (desk : Desk) (uid : Nat) (body timestamp : String) (written : Bool),
    desk.client.session = .ready uid → body ≠ "" →
      (¬ desk.rows.any fun row =>
        (desk.newMessage conversation.key body timestamp).stored.collides row.stored) →
      ∃ send, (desk.sendMessage receivable conversation.key body timestamp true written).sends =
          desk.sends ++ [send] ∧ send.receiver = some conversation
  retryMessage : ∀ (desk : Desk) (uid : Nat) (message : CreatedMessage) (written : Bool),
    desk.client.session = .ready uid →
      (desk.client.messages.find? fun other =>
        other.clientMessageId = message.clientMessageId) = some message →
      message.stored.record.outgoing → message.deliveryState = .retryableFailed →
      message.stored.conversationId = conversation.key →
      ∃ send, (desk.retryMessage receivable message.clientMessageId written).sends =
          desk.sends ++ [send] ∧ send.receiver = some conversation
  resumePendingOutgoing : ∀ (desk : Desk) (uid : Nat) (written : Int → Bool),
    desk.client.session = .ready uid →
      ∃ sends, (desk.resumePendingOutgoing receivable written).sends = desk.sends ++ sends ∧
        (sends.filter fun send => send.conversationId = conversation.key).map
            (fun send => (send.origin, send.receiver)) =
          (desk.client.messages.filter fun message =>
            message.stored.conversationId = conversation.key ∧ message.isPending).map
              fun message => (message.origin, some conversation)

theorem filter_wireSend {key : String} (known : receivable key) (client : Installation) (uid : Nat)
    (messages : List CreatedMessage) :
    ((messages.filter fun message =>
      receivable message.stored.conversationId ∧ message.isPending).map
        (client.wireSend uid)).filter (fun send => send.conversationId = key) =
      (messages.filter fun message =>
        message.stored.conversationId = key ∧ message.isPending).map (client.wireSend uid) := by
  rw [List.filter_map, List.filter_filter]
  congr 1
  refine List.filter_congr fun message _ => ?_
  rw [comp_apply, ← Bool.decide_and, decide_eq_decide]
  constructor
  · rintro ⟨here, _, pending⟩
    exact ⟨here, pending⟩
  · rintro ⟨here, pending⟩
    exact ⟨here, here ▸ known, pending⟩

theorem key_ne_empty (conversation : Conversation) : conversation.key ≠ "" := by
  intro empty
  have letters := congrArg String.toList empty
  cases conversation <;>
    exact absurd ((String.toList_append ..).symm.trans letters) (cons_ne_nil _ _)

theorem sendsReach_of_receiver (found : receiver conversation.key = some conversation) :
    SendsReach conversation where
  sendMessage := by
    intro desk uid body timestamp written ready text free
    have known : receivable conversation.key := isSome_iff_exists.mpr ⟨_, found⟩
    exact ⟨_, (Desk.sendMessage_sends receivable ready text timestamp written free).trans
      (if_pos known), found⟩
  retryMessage := by
    intro desk uid message written ready stored outgoing failed here
    have known : receivable message.stored.conversationId :=
      isSome_iff_exists.mpr ⟨_, here ▸ found⟩
    exact ⟨_, (Desk.retryMessage_sends receivable ready stored outgoing failed
      (here ▸ key_ne_empty conversation) written).trans (if_pos known),
      (congrArg receiver here).trans found⟩
  resumePendingOutgoing := by
    intro desk uid written ready
    have known : receivable conversation.key := isSome_iff_exists.mpr ⟨_, found⟩
    refine ⟨_, Desk.resumePendingOutgoing_sends receivable written ready, ?_⟩
    rw [filter_wireSend known, List.map_map]
    refine map_congr_left fun message member => ?_
    have here : message.stored.conversationId = conversation.key :=
      (of_decide_eq_true (mem_filter.mp member).2).1
    exact congrArg (Prod.mk message.origin) ((congrArg receiver here).trans found)

def connectedDesk : Desk where
  origin := 0
  client := { database := 0, messages := [], nextClientMessageId := -1000, session := .ready 1 }
  rows := []
  sends := []

theorem receiver_of_sendsReach (reach : SendsReach conversation) :
    receiver conversation.key = some conversation := by
  have ready : connectedDesk.client.session = .ready 1 := rfl
  have free : ¬ connectedDesk.rows.any fun row =>
      (connectedDesk.newMessage conversation.key "hello" "").stored.collides row.stored :=
    Bool.false_ne_true
  obtain ⟨send, sent, addressed⟩ := reach.sendMessage connectedDesk 1 "hello" "" true ready
    (by decide) free
  rw [Desk.sendMessage_sends receivable ready (by decide) "" true free] at sent
  split at sent
  · cases sent
    exact addressed
  · cases sent

theorem sendsReach_iff (positive : 0 < conversation.number)
    (bounded : conversation.number < 2 ^ 63) : SendsReach conversation ↔ conversation.isDirect := by
  cases conversation with
  | direct peerUid =>
    exact iff_of_true (sendsReach_of_receiver (receiver_direct positive bounded)) rfl
  | group number =>
    exact iff_of_false (fun reach => receiver_group_ne positive (receiver_of_sendsReach reach))
      Bool.false_ne_true

/-- The key of a conversation is read back, and its texts reach it, exactly when it is a
conversation with a peer. -/
theorem conversation_key_round_trip_iff (conversation : Conversation)
    (positive : 0 < conversation.number) (bounded : conversation.number < 2 ^ 63) :
    (conversation.ParsesBack ↔ conversation.isDirect) ∧
      (SendsReach conversation ↔ conversation.isDirect) :=
  ⟨parsesBack_iff positive bounded, sendsReach_iff positive bounded⟩

theorem conversation_key_round_trip_peer :
    (Conversation.direct 12).ParsesBack ∧ SendsReach (.direct 12) := by
  obtain ⟨parses, reaches⟩ := conversation_key_round_trip_iff (.direct 12) (by decide) (by decide)
  exact ⟨parses.mpr rfl, reaches.mpr rfl⟩

/-- The first text to group 12 goes to group 2, and the first to group 5 to nobody. -/
theorem group_text_goes_elsewhere :
    (connectedDesk.sendMessage receivable (groupConversationId 12) "hello" "" true true).sends.map
        WireSend.receiver = [some (.group 2)] ∧
      (connectedDesk.sendMessage receivable (groupConversationId 5) "hello" "" true true).sends =
        [] := by
  constructor <;> decide +kernel

end Outbox

end Wimi.Client
