/-
This file models the tables of the Message service and what a transaction that
accepts a message can have written to them.

The tables are lists of rows. A transaction keeps its writes to itself until it
commits; `Store.apply` is the store with them. The counter `latestSeq` of a
conversation and the sequence numbers of its messages are read off here, and the
lemmas say what each kind of write does to them.
-/

import Mathlib

namespace Wimi.Server

open Function List Option

/-! ### The tables -/

/-- The column `type` of `conversations`. -/
inductive ConversationType where
  | direct
  | group
deriving DecidableEq, Repr

/-- `Message::Type`. -/
inductive MessageType where
  | text
  | image
  | audio
  | video
  | file
deriving DecidableEq, Repr

/-- `Message::Status`. -/
inductive MessageStatus where
  | withdraw
  | wait
  | delivered
  | read
deriving DecidableEq, Repr

/-- A row of `friends`. -/
structure FriendRow where
  uidA : Nat
  uidB : Nat
  sessionId : Nat
deriving DecidableEq, Repr

/-- A row of `groupInfo`. -/
structure GroupInfoRow where
  gid : Nat
  sessionKey : Nat
deriving DecidableEq, Repr

/-- A row of `groupMembers`. -/
structure GroupMemberRow where
  gid : Nat
  uid : Nat
  speech : Nat := 0
deriving DecidableEq, Repr

/-- A row of `conversations`. -/
structure ConversationRow where
  conversationId : Nat
  type : ConversationType
  businessId : Nat
  latestSeq : Nat := 0
  createTime : String := ""
deriving DecidableEq, Repr

/-- A row of `conversationMembers`. -/
structure MemberRow where
  conversationId : Nat
  uid : Nat
  joinedSeq : Nat := 1
  leftSeq : Option Nat := none
  deliveredSeq : Nat := 0
  readSeq : Nat := 0
deriving DecidableEq, Repr

/-- A row of `messages`. -/
structure MessageRow where
  messageId : Nat
  senderId : Nat
  receiverId : Nat
  conversationId : Option Nat := none
  conversationSeq : Option Nat := none
  clientMessageId : Option String := none
  sessionKey : String := ""
  type : MessageType := .text
  content : String
  status : MessageStatus := .wait
  sendDateTime : String := ""
  readDateTime : String := ""
deriving DecidableEq, Repr

/-- The tables, and the counter of the column `messageId`, which is not transactional. -/
structure Store where
  friends : List FriendRow := []
  groupInfo : List GroupInfoRow := []
  groupMembers : List GroupMemberRow := []
  conversations : List ConversationRow := []
  conversationMembers : List MemberRow := []
  messages : List MessageRow := []
  autoIncrement : Nat := 1
deriving DecidableEq, Repr

/-- The counter of a conversation in a table; a missing row counts as zero. -/
def latestSeqIn (conversations : List ConversationRow) (conversationId : Nat) : Nat :=
  ((conversations.find? fun row => row.conversationId = conversationId).map
    ConversationRow.latestSeq).getD 0

variable {conversationId : Nat}

namespace Store

variable (store : Store)

/-- The row of a conversation. -/
def conversation (conversationId : Nat) : Option ConversationRow :=
  store.conversations.find? fun row => row.conversationId = conversationId

/-- The counter of a conversation. -/
def latestSeq (conversationId : Nat) : Nat := latestSeqIn store.conversations conversationId

theorem latestSeq_of_conversation {store : Store} {row : ConversationRow}
    (read : store.conversation conversationId = some row) :
    store.latestSeq conversationId = row.latestSeq :=
  congrArg (fun row : Option ConversationRow => (row.map ConversationRow.latestSeq).getD 0) read

/-- The messages of a conversation. -/
def messagesOf (conversationId : Nat) : List MessageRow :=
  store.messages.filter fun message => message.conversationId = some conversationId

/-- Their sequence numbers. -/
def sequences (conversationId : Nat) : List (Option Nat) :=
  (store.messagesOf conversationId).map MessageRow.conversationSeq

end Store

/-! ### The writes of a transaction -/

/-- What `INSERT ... ON DUPLICATE KEY UPDATE conversationId = VALUES(conversationId)` did to
the table: a new row, or another id for the row that has the type and the business id. -/
inductive Upsert where
  | insert (row : ConversationRow)
  | rekey (conversationId : Nat)
deriving DecidableEq, Repr

/-- What a transaction has written and not committed. -/
structure Writes where
  upsert : Option Upsert := none
  members : List MemberRow := []
  latestSeq : Option Nat := none
  message : Option MessageRow := none
deriving DecidableEq, Repr

/-- The table after the upsert of a conversation. -/
def upsertConversation (conversations : List ConversationRow) (conversationId : Nat) :
    Option Upsert → List ConversationRow
  | none => conversations
  | some (.insert row) => conversations ++ [row]
  | some (.rekey old) =>
    conversations.map fun row =>
      if row.conversationId = old then { row with conversationId } else row

/-- `UPDATE conversations SET latestSeq = ? WHERE conversationId = ?`. -/
def updateLatestSeq (conversations : List ConversationRow) (conversationId : Nat) :
    Option Nat → List ConversationRow
  | none => conversations
  | some latestSeq =>
    conversations.map fun row =>
      if row.conversationId = conversationId then { row with latestSeq } else row

/-- The store with the writes of a transaction on a conversation. -/
def Store.apply (store : Store) (conversationId : Nat) (writes : Writes) : Store :=
  { store with
    conversations := updateLatestSeq
      (upsertConversation store.conversations conversationId writes.upsert) conversationId
      writes.latestSeq
    conversationMembers := store.conversationMembers ++ writes.members
    messages := store.messages ++ writes.message.toList }

/-! ### What the writes do to the counters -/

section

variable (conversations : List ConversationRow)
include conversations

/-- A new row starts at zero, as a missing one counts. -/
theorem latestSeqIn_append_zero (row : ConversationRow) (zero : row.latestSeq = 0)
    (conversationId : Nat) : latestSeqIn (conversations ++ [row]) conversationId =
      latestSeqIn conversations conversationId := by
  unfold latestSeqIn
  rw [find?_append]
  cases conversations.find? fun row => decide (row.conversationId = conversationId) with
  | some found => rfl
  | none => grind

theorem find?_updateLatestSeq (conversationId latestSeq : Nat) (other : Nat) :
    ((updateLatestSeq conversations conversationId (some latestSeq)).find?
        fun row => row.conversationId = other) =
      (conversations.find? fun row => row.conversationId = other).map fun row =>
        if row.conversationId = conversationId then { row with latestSeq } else row := by
  unfold updateLatestSeq
  rw [find?_map]
  congr 2
  funext row
  simp only [comp]
  split <;> rfl

/-- The update of one counter leaves the rows of the other conversations. -/
theorem find?_updateLatestSeq_of_ne {other : Nat} (latestSeq : Option Nat)
    (different : other ≠ conversationId) :
    ((updateLatestSeq conversations conversationId latestSeq).find?
        fun row => row.conversationId = other) =
      conversations.find? fun row => row.conversationId = other := by
  cases latestSeq with
  | none => rfl
  | some latestSeq =>
    rw [find?_updateLatestSeq]
    cases found : conversations.find? fun row => decide (row.conversationId = other) with
    | none => rfl
    | some row => grind

theorem latestSeqIn_update_of_ne {other : Nat} (latestSeq : Option Nat)
    (different : other ≠ conversationId) :
    latestSeqIn (updateLatestSeq conversations conversationId latestSeq) other =
      latestSeqIn conversations other := by
  unfold latestSeqIn
  rw [find?_updateLatestSeq_of_ne _ _ different]

end

/-- The counter of a row that is there is the one written. -/
theorem latestSeqIn_update_self {conversations : List ConversationRow} (latestSeq : Nat)
    (present : (conversations.find? fun row => row.conversationId = conversationId).isSome) :
    latestSeqIn (updateLatestSeq conversations conversationId (some latestSeq)) conversationId =
      latestSeq := by
  unfold latestSeqIn
  rw [find?_updateLatestSeq]
  obtain ⟨row, found⟩ := isSome_iff_exists.mp present
  have key : row.conversationId = conversationId := by simpa using find?_some found
  rw [found, map_some, if_pos key]
  rfl

end Wimi.Server
