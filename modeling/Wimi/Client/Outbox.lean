/-
This file models the outbox of the client across accounts, databases and restarts,
and proves when a text keeps its idempotency key.

The key of a text is built anew at each send, from the account that is signed in
and the client message id of the text. The id comes from a counter that is read
back from the rows of the database when the program starts. Neither the row nor
the database knows an account. So the key follows a text through retries and
restarts exactly as long as one account uses the database, and two texts of one
account have two keys as long as it uses one database.

The method of the proof is one rule for each operation of the controller on the
messages in memory, the rows and the wire; the methods are composed of these.
-/

import Wimi.Server.Density
import Wimi.Client.Controller

namespace Wimi.Client

open Function List Option Transition

/-! ### The key as a text -/

theorem colon_notMem_toDigits (number : Nat) : ':' ∉ Nat.toDigits 10 number := by
  intro member
  exact absurd (Nat.isDigit_of_mem_toDigits (by decide) (by decide) member) (by decide)

theorem colon_notMem_toString (number : Int) : ':' ∉ (toString number).toList := by
  cases number with
  | ofNat number =>
    change ':' ∉ (Nat.repr number).toList
    rw [Nat.toList_repr]
    exact colon_notMem_toDigits number
  | negSucc number =>
    change ':' ∉ ("-" ++ Nat.repr (number + 1)).toList
    rw [String.toList_append, Nat.toList_repr, mem_append, not_or]
    exact ⟨by decide, colon_notMem_toDigits (number + 1)⟩

theorem wireClientMessageId_inj {uid otherUid : Nat} {clientMessageId otherId : Int}
    (equal : wireClientMessageId uid clientMessageId = wireClientMessageId otherUid otherId) :
    uid = otherUid ∧ clientMessageId = otherId := by
  have lists := congrArg String.toList equal
  simp only [wireClientMessageId, String.toList_append, append_assoc] at lists
  obtain ⟨sameUid, _, sameId⟩ := (append_cons_inj_of_notMem
    (colon_notMem_toString uid) (colon_notMem_toString (-clientMessageId))).mp lists
  exact ⟨Nat.repr_injective (String.toList_injective sameUid),
    Int.neg_inj.mp (Int.repr_injective (String.toList_injective sameId))⟩

variable {installation : Nat} {rows : List CreatedMessage}

namespace Outbox

/-! ### Messages, installations and the wire -/

/-- A message in memory or in a row of `messages`. The number `origin` is drawn when the
message is written or received; the program does not have it. -/
structure CreatedMessage where
  origin : Nat
  stored : StoredMessage
deriving DecidableEq, Repr

namespace CreatedMessage

variable (message : CreatedMessage)

def clientMessageId : Int := message.stored.record.clientMessageId

def deliveryState : MessageDeliveryState := message.stored.record.deliveryState

def key : Nat × Int := (message.origin, message.clientMessageId)

def isPending : Bool := Controller.isPending message.stored.record

def withState (state : MessageDeliveryState) : CreatedMessage :=
  { message with
    stored := { message.stored with
      record := { message.stored.record with deliveryState := state } } }

def withAccepted (messageId conversationSeq : Nat) : CreatedMessage :=
  { message with stored := Repository.acceptedRow messageId conversationSeq message.stored }

end CreatedMessage

open CreatedMessage

inductive Session where
  | signedOut
  | connecting (uid : Nat)
  | ready (uid : Nat)
deriving DecidableEq, Repr

def Session.uid : Session → Option Nat
  | .signedOut => none
  | .connecting uid => some uid
  | .ready uid => some uid

def Session.isReady : Session → Bool
  | .ready _ => true
  | _ => false

structure Installation where
  database : Nat
  messages : List CreatedMessage
  nextClientMessageId : Int
  session : Session
deriving DecidableEq, Repr

structure WireSend where
  database : Nat
  origin : Nat
  actorUid : Nat
  clientMessageId : String
  conversationId : String
  body : String
deriving DecidableEq, Repr

/-- What a method of the controller works on: the client, the rows of its database and the
wire. A message it creates gets the number `origin`. -/
structure Desk where
  origin : Nat
  client : Installation
  rows : List CreatedMessage
  sends : List WireSend

/-! ### The methods of the controller -/

def loadScenario (client : Installation) (rows : List CreatedMessage) (loaded : Bool) :
    Installation :=
  let messages := if loaded then rows else []
  { client with
    messages
    nextClientMessageId :=
      messages.foldl (fun next message => min next (message.clientMessageId - 1)) (-1000) }

namespace Desk

variable (receivable : String → Bool) (desk : Desk)

def updateMessageState (clientMessageId : Int) (state : MessageDeliveryState) (written : Bool) :
    Desk :=
  if desk.client.messages.any fun message =>
      message.clientMessageId = clientMessageId ∧ canTransition message.deliveryState state then
    { desk with
      client := { desk.client with
        messages := Lists.updateFirst
          (fun message => message.clientMessageId = clientMessageId ∧
            canTransition message.deliveryState state)
          (fun message => message.withState state) desk.client.messages }
      rows :=
        if written then
          desk.rows.map fun row =>
            if row.clientMessageId = clientMessageId then row.withState state else row
        else desk.rows }
  else desk

/-- `SendText` or `SendGroupText` with the key of the message under the current account. -/
def sendText (message : CreatedMessage) : Desk :=
  match desk.client.session with
  | .ready uid =>
    { desk with
      sends := desk.sends ++
        [{ database := desk.client.database
           origin := message.origin
           actorUid := uid
           clientMessageId := wireClientMessageId uid message.clientMessageId
           conversationId := message.stored.conversationId
           body := message.stored.record.body }] }
  | _ => desk

def newMessage (conversationId body timestamp : String) : CreatedMessage where
  origin := desk.origin
  stored :=
    { conversationId := conversationId
      record :=
        { clientMessageId := desk.client.nextClientMessageId, senderId := "me", body,
          timestamp, outgoing := true, deliveryState := .pendingLocal } }

/-- `sendMessage` with a text already trimmed; `receivable` says which conversations have a
receiver. `EnqueueOutgoing` fails on a key that is taken, and may fail otherwise. -/
def sendMessage (conversationId body timestamp : String) (enqueued written : Bool) : Desk :=
  if body = "" then desk
  else
    let message := desk.newMessage conversationId body timestamp
    let drawn := { desk.client with
      nextClientMessageId := desk.client.nextClientMessageId - 1 }
    if enqueued ∧ ¬ desk.rows.any fun row => message.stored.collides row.stored then
      let stored := { desk with
        client := { drawn with messages := desk.client.messages ++ [message] }
        rows := desk.rows ++ [message] }
      if ¬ receivable conversationId then
        stored.updateMessageState message.clientMessageId .permanentFailed written
      else if ¬ desk.client.session.isReady then
        stored.updateMessageState message.clientMessageId .unknown written
      else
        (stored.updateMessageState message.clientMessageId .waitingAccept written).sendText message
    else
      { desk with
        client := { drawn with
          messages := desk.client.messages ++ [message.withState .permanentFailed] } }

def retryMessage (clientMessageId : Int) (written : Bool) : Desk :=
  match desk.client.messages.find? fun message => message.clientMessageId = clientMessageId with
  | none => desk
  | some message =>
    if message.stored.record.outgoing ∧ message.deliveryState = .retryableFailed ∧
        message.stored.conversationId ≠ "" ∧ desk.client.session.isReady ∧
        receivable message.stored.conversationId then
      (desk.updateMessageState clientMessageId .waitingAccept written).sendText message
    else desk

def resume (written : Int → Bool) (desk : Desk) (message : CreatedMessage) : Desk :=
  if receivable message.stored.conversationId ∧ message.isPending then
    let waiting :=
      if message.deliveryState ≠ .waitingAccept then
        desk.updateMessageState message.clientMessageId .waitingAccept
          (written message.clientMessageId)
      else desk
    waiting.sendText message
  else desk

def resumePendingOutgoing (written : Int → Bool) : Desk :=
  desk.client.messages.foldl (resume receivable written) desk

def acceptOutgoing (clientMessageId : Int) (messageId conversationSeq : Nat) (written : Bool) :
    Desk :=
  if desk.client.messages.any fun message => message.clientMessageId = clientMessageId then
    { desk with
      client := { desk.client with
        messages := Lists.updateFirst (fun message => message.clientMessageId = clientMessageId)
          (fun message => message.withAccepted messageId conversationSeq) desk.client.messages }
      rows :=
        if written then
          desk.rows.map fun row =>
            if row.clientMessageId = clientMessageId then
              row.withAccepted messageId conversationSeq
            else row
        else desk.rows }
  else desk

/-- A message from a page or a push, once the database has taken it: a row under one of its
keys keeps it out of the table. -/
def receive (conversationId : String) (record : MessageRecord) : Desk :=
  let message : CreatedMessage :=
    { origin := desk.origin, stored := { conversationId, record } }
  if desk.client.messages.any fun other => other.stored.conversationId = conversationId ∧
      other.stored.record.messageId = record.messageId then desk
  else
    { desk with
      client := { desk.client with messages := desk.client.messages ++ [message] }
      rows :=
        if desk.rows.any fun row => message.stored.collides row.stored then desk.rows
        else desk.rows ++ [message] }

end Desk

/-! ### The clients and their databases -/

/-- The running clients, the databases, the sign-ins there have been as pairs of a database and
an account, and the wire. -/
structure System where
  clients : Nat → Option Installation := fun _ => none
  databases : Nat → List CreatedMessage := fun _ => []
  signIns : List (Nat × Nat) := []
  sends : List WireSend := []
  nextOrigin : Nat := 0

inductive Action where
  | start (installation database : Nat) (loaded : Bool)
  | loadScenario (installation : Nat) (loaded : Bool)
  | signInSucceeded (installation uid : Nat)
  | authenticated (installation : Nat) (written : Int → Bool)
  | disconnected (installation : Nat)
  | sendMessage (installation : Nat) (conversationId body timestamp : String)
      (enqueued written : Bool)
  | retryMessage (installation : Nat) (clientMessageId : Int) (written : Bool)
  | updateMessageState (installation : Nat) (clientMessageId : Int)
      (state : MessageDeliveryState) (written : Bool)
  | acceptOutgoing (installation : Nat) (clientMessageId : Int) (messageId conversationSeq : Nat)
      (written : Bool)
  | receive (installation : Nat) (conversationId : String) (record : MessageRecord)

def hasArrived (record : MessageRecord) : Bool :=
  record.deliveryState = .accepted ∨ record.deliveryState = .delivered ∨
    record.deliveryState = .read

namespace System

variable (system : System)

def desk (client : Installation) : Desk where
  origin := system.nextOrigin
  client := client
  rows := system.databases client.database
  sends := system.sends

def put (installation : Nat) (desk : Desk) : System :=
  { system with
    clients := update system.clients installation (some desk.client)
    databases := update system.databases desk.client.database desk.rows
    sends := desk.sends
    nextOrigin := system.nextOrigin + 1 }

def call (installation : Nat) (method : Desk → Desk) : Option System :=
  (system.clients installation).map fun client =>
    system.put installation (method (system.desk client))

end System

def Desk.withSession (desk : Desk) (session : Session) : Desk :=
  { desk with client := { desk.client with session } }

/-- A restart is a start under the same number. Several clients may run on one database. A
sign-in opens the connection of the new account; a lost connection is opened again for the
same. -/
def step (receivable : String → Bool) (system : System) : Action → Option System
  | .start installation database loaded =>
    let client : Installation :=
      { database, messages := [], nextClientMessageId := -1000,
        session := .signedOut }
    some (system.put installation
      (system.desk (loadScenario client (system.databases database) loaded)))
  | .loadScenario installation loaded =>
    system.call installation fun desk =>
      { desk with client := loadScenario desk.client desk.rows loaded }
  | .signInSucceeded installation uid =>
    match system.clients installation with
    | none => none
    | some client =>
      let noted := { system with signIns := system.signIns ++ [(client.database, uid)] }
      some (noted.put installation ((noted.desk client).withSession (.connecting uid)))
  | .authenticated installation written =>
    match system.clients installation with
    | none => none
    | some client =>
      match client.session with
      | .connecting uid =>
        some (system.put installation
          (((system.desk client).withSession (.ready uid)).resumePendingOutgoing receivable
            written))
      | _ => none
  | .disconnected installation =>
    match system.clients installation with
    | none => none
    | some client =>
      match client.session with
      | .ready uid =>
        some (system.put installation ((system.desk client).withSession (.connecting uid)))
      | _ => none
  | .sendMessage installation conversationId body timestamp enqueued written =>
    system.call installation fun desk =>
      desk.sendMessage receivable conversationId body timestamp enqueued written
  | .retryMessage installation clientMessageId written =>
    system.call installation fun desk => desk.retryMessage receivable clientMessageId written
  | .updateMessageState installation clientMessageId state written =>
    system.call installation fun desk => desk.updateMessageState clientMessageId state written
  | .acceptOutgoing installation clientMessageId messageId conversationSeq written =>
    system.call installation fun desk =>
      desk.acceptOutgoing clientMessageId messageId conversationSeq written
  | .receive installation conversationId record =>
    if hasArrived record then
      system.call installation fun desk => desk.receive conversationId record
    else none

/-! ### What the operations do to memory and rows -/

theorem not_isPending_of_hasArrived {record : MessageRecord} (arrived : hasArrived record) :
    ¬ Controller.isPending record := by
  intro pending
  obtain ⟨_, waits⟩ := of_decide_eq_true pending
  rcases of_decide_eq_true arrived with state | state | state <;> rw [state] at waits <;>
    exact absurd waits (by decide)

def Desk.keys (desk : Desk) : List (Nat × Int) := desk.rows.map key

def System.keys (system : System) (database : Nat) : List (Nat × Int) :=
  (system.databases database).map key

theorem keys_write {clientMessageId : Int} {written : Bool}
    {change : CreatedMessage → CreatedMessage} (same : ∀ row, (change row).key = row.key) :
    (if written then
        rows.map fun row => if row.clientMessageId = clientMessageId then change row else row
      else rows).map key = rows.map key := by
  split
  · rw [List.map_map]
    refine map_congr_left fun row _ => ?_
    by_cases chosen : row.clientMessageId = clientMessageId
    · simp only [comp, if_pos chosen, same]
    · simp only [comp, if_neg chosen]
  · rfl

theorem notMem_ids_of_not_collides {message : CreatedMessage}
    (free : ¬ rows.any fun row => message.stored.collides row.stored) :
    message.clientMessageId ∉ (rows.map key).map Prod.snd := by
  intro member
  rw [List.map_map] at member
  obtain ⟨row, stored, same⟩ := mem_map.mp member
  exact free (any_eq_true.mpr ⟨row, stored, decide_eq_true (.inl same.symm)⟩)

/-! ### What a method leaves -/

def Carries (signIns : List (Nat × Nat)) (keys : List (Nat × Int)) (send : WireSend) : Prop :=
  (send.database, send.actorUid) ∈ signIns ∧ ∃ clientMessageId,
    (send.origin, clientMessageId) ∈ keys ∧
      send.clientMessageId = wireClientMessageId send.actorUid clientMessageId

structure Kept (system : System) (desk : Desk) : Prop where
  origin : desk.origin = system.nextOrigin
  grown : ∃ added : Option Int,
    desk.keys = system.keys desk.client.database ++
      (added.map fun clientMessageId => (system.nextOrigin, clientMessageId)).toList ∧
    ∀ clientMessageId ∈ added,
      clientMessageId ∉ (system.keys desk.client.database).map Prod.snd
  stored : ∀ message ∈ desk.client.messages, message.isPending → message.key ∈ desk.keys
  account : ∀ uid, desk.client.session.uid = some uid →
    (desk.client.database, uid) ∈ system.signIns
  sent : ∀ send ∈ desk.sends, send ∈ system.sends ∨
    send.database = desk.client.database ∧ Carries system.signIns desk.keys send

namespace Kept

variable {system : System} {desk : Desk}

section

variable (kept : Kept system desk)
include kept

theorem update {messages : List CreatedMessage} (same : rows.map key = desk.keys)
    (stored : ∀ message ∈ messages, message.isPending → message.key ∈ desk.keys) : Kept system
      { desk with client := { desk.client with messages }, rows } where
  origin := kept.origin
  grown := by
    obtain ⟨added, equal, free⟩ := kept.grown
    exact ⟨added, same.trans equal, free⟩
  stored message member pending := by
    change message.key ∈ rows.map key
    rw [same]
    exact stored message member pending
  account := kept.account
  sent send member := by
    refine (kept.sent send member).imp id fun ⟨own, carries⟩ => ⟨own, ?_⟩
    change Carries system.signIns (rows.map key) send
    rwa [same]

theorem updateMessageState (clientMessageId : Int) (state : MessageDeliveryState) (written : Bool) :
    Kept system (desk.updateMessageState clientMessageId state written) := by
  unfold Desk.updateMessageState
  split
  · refine kept.update (keys_write fun row => rfl) ?_
    refine Lists.forall_mem_updateFirst kept.stored fun message found pending => ?_
    have selected := find?_some found
    simp only [decide_eq_true_eq] at selected
    exact kept.stored message (mem_of_find?_eq_some found)
      (isPending_of_transition selected.2 pending)
  · exact kept

theorem acceptOutgoing (clientMessageId : Int) (messageId conversationSeq : Nat) (written : Bool) :
    Kept system (desk.acceptOutgoing clientMessageId messageId conversationSeq written) := by
  unfold Desk.acceptOutgoing
  split
  · refine kept.update (keys_write fun row => rfl) ?_
    refine Lists.forall_mem_updateFirst kept.stored fun message found pending => ?_
    exact absurd pending (not_isPending_of_hasArrived rfl)
  · exact kept

theorem sendText {message : CreatedMessage} (stored : message.key ∈ desk.keys) :
    Kept system (desk.sendText message) := by
  unfold Desk.sendText
  split
  · rename_i uid ready
    refine { kept with sent := forall_mem_append.mpr ⟨kept.sent, ?_⟩ }
    refine forall_mem_singleton.mpr (.inr ⟨rfl, kept.account uid ?_, ?_⟩)
    · rw [ready]
      rfl
    · exact ⟨message.clientMessageId, stored, rfl⟩
  · exact kept

theorem remember {message : CreatedMessage} (settled : ¬ message.isPending) : Kept system
      { desk with
        client := { desk.client with messages := desk.client.messages ++ [message] } } :=
  kept.update rfl (forall_mem_append.mpr
    ⟨kept.stored, forall_mem_singleton.mpr fun pending => absurd pending settled⟩)

theorem insert (message : CreatedMessage) (none : desk.keys = system.keys desk.client.database)
    (origin : message.origin = system.nextOrigin)
    (free : ¬ desk.rows.any fun row => message.stored.collides row.stored) : Kept system
      { desk with
        client := { desk.client with messages := desk.client.messages ++ [message] }
        rows := desk.rows ++ [message] } := by
  have keys : (desk.rows ++ [message]).map CreatedMessage.key = desk.keys ++ [message.key] :=
    map_append
  refine ⟨kept.origin, ⟨some message.clientMessageId, ?_, ?_⟩, ?_, kept.account, ?_⟩
  · rw [← origin]
    exact keys.trans (congrArg (· ++ [message.key]) none)
  · intro clientMessageId member
    obtain rfl := mem_some_iff.mp member
    exact none ▸ notMem_ids_of_not_collides free
  · change ∀ other ∈ desk.client.messages ++ [message], other.isPending →
      other.key ∈ (desk.rows ++ [message]).map CreatedMessage.key
    rw [keys]
    refine forall_mem_append.mpr ⟨fun other member pending => ?_, ?_⟩
    · exact mem_append_left _ (kept.stored other member pending)
    · simp
  refine fun send member => (kept.sent send member).imp id ?_
  rintro ⟨own, signedIn, clientMessageId, row, key⟩
  refine ⟨own, signedIn, clientMessageId, ?_, key⟩
  change _ ∈ (desk.rows ++ [message]).map CreatedMessage.key
  rw [keys]
  exact mem_append_left _ row

theorem counter (nextClientMessageId : Int) : Kept system
      { desk with client := { desk.client with nextClientMessageId } } :=
  { kept with }

end

end Kept

/-! ### The methods -/

@[simp] theorem Desk.keys_updateMessageState (desk : Desk) (clientMessageId : Int)
    (state : MessageDeliveryState) (written : Bool) :
    (desk.updateMessageState clientMessageId state written).keys = desk.keys := by
  unfold Desk.updateMessageState
  split
  · exact keys_write fun row => rfl
  · rfl

@[simp] theorem Desk.keys_sendText (desk : Desk) (message : CreatedMessage) :
    (desk.sendText message).keys = desk.keys := by
  unfold Desk.sendText
  split <;> rfl

namespace Kept

variable {system : System} {desk : Desk} {receivable : String → Bool}

section

variable (kept : Kept system desk)
include kept

theorem sendMessage (none : desk.keys = system.keys desk.client.database)
    (conversationId body timestamp : String) (enqueued written : Bool) :
    Kept system (desk.sendMessage receivable conversationId body timestamp enqueued written) := by
  unfold Desk.sendMessage
  split
  · exact kept
  dsimp only
  split
  · rename_i free
    have stored := (kept.counter (desk.client.nextClientMessageId - 1)).insert
      (desk.newMessage conversationId body timestamp) none kept.origin free.2
    split
    · exact stored.updateMessageState _ _ _
    split
    · exact stored.updateMessageState _ _ _
    refine (stored.updateMessageState _ _ _).sendText ?_
    rw [Desk.keys_updateMessageState]
    exact mem_map_of_mem (mem_append_right _ (mem_singleton_self _))
  · exact (kept.counter (desk.client.nextClientMessageId - 1)).remember Bool.false_ne_true

theorem retryMessage (clientMessageId : Int) (written : Bool) :
    Kept system (desk.retryMessage receivable clientMessageId written) := by
  unfold Desk.retryMessage
  split
  · exact kept
  rename_i message found
  split
  · rename_i retryable
    refine (kept.updateMessageState _ _ _).sendText ?_
    rw [Desk.keys_updateMessageState]
    refine kept.stored message (mem_of_find?_eq_some found) (decide_eq_true ?_)
    exact ⟨retryable.1, .inr (.inr (.inr retryable.2.1))⟩
  · exact kept

theorem resume (written : Int → Bool) {message : CreatedMessage}
    (stored : message.isPending → message.key ∈ desk.keys) :
    Kept system (desk.resume receivable written message) ∧
      (desk.resume receivable written message).keys = desk.keys := by
  unfold Desk.resume
  split
  · rename_i sent
    split
    · refine ⟨(kept.updateMessageState _ _ _).sendText ?_, ?_⟩
      · rw [Desk.keys_updateMessageState]
        exact stored sent.2
      · rw [Desk.keys_sendText, Desk.keys_updateMessageState]
    · exact ⟨kept.sendText (stored sent.2), Desk.keys_sendText _ _⟩
  · exact ⟨kept, rfl⟩

theorem foldl_resume (written : Int → Bool) {messages : List CreatedMessage}
    (stored : ∀ message ∈ messages, message.isPending → message.key ∈ desk.keys) :
    Kept system (messages.foldl (Desk.resume receivable written) desk) := by
  induction messages generalizing desk with
  | nil => exact kept
  | cons message rest inductionHypothesis =>
    obtain ⟨first, later⟩ := forall_mem_cons.mp stored
    obtain ⟨keptFirst, same⟩ : Kept system (desk.resume receivable written message) ∧
        (desk.resume receivable written message).keys = desk.keys := kept.resume written first
    exact inductionHypothesis keptFirst (same ▸ later)

theorem resumePendingOutgoing (written : Int → Bool) :
    Kept system (desk.resumePendingOutgoing receivable written) :=
  kept.foldl_resume written kept.stored

theorem receive (none : desk.keys = system.keys desk.client.database) (conversationId : String)
    {record : MessageRecord} (arrived : hasArrived record) :
    Kept system (desk.receive conversationId record) := by
  unfold Desk.receive
  dsimp only
  split
  · exact kept
  split
  · exact kept.remember (not_isPending_of_hasArrived arrived)
  · rename_i free
    exact kept.insert _ none kept.origin free

theorem loadScenario (loaded : Bool) :
    Kept system { desk with client := loadScenario desk.client desk.rows loaded } := by
  have stored : ∀ message ∈ (if loaded then desk.rows else []), message.isPending →
      message.key ∈ desk.keys := by
    split
    · exact fun message member _ => mem_map_of_mem member
    · exact nofun
  exact (kept.counter
    (Outbox.loadScenario desk.client desk.rows loaded).nextClientMessageId).update rfl stored

end

end Kept

/-! ### The system -/

structure Sound (system : System) : Prop where
  ids : ∀ database, ((system.keys database).map Prod.snd).Nodup
  origins : ∀ database other origin clientMessageId otherId,
    (origin, clientMessageId) ∈ system.keys database → (origin, otherId) ∈ system.keys other →
    database = other ∧ clientMessageId = otherId
  fresh : ∀ database, ∀ key ∈ system.keys database, key.1 < system.nextOrigin
  stored : ∀ installation client, system.clients installation = some client →
    ∀ message ∈ client.messages, message.isPending → message.key ∈ system.keys client.database
  account : ∀ installation client, system.clients installation = some client →
    ∀ uid, client.session.uid = some uid → (client.database, uid) ∈ system.signIns
  paired : ∀ signIn ∈ system.signIns, ∀ other ∈ system.signIns,
    signIn.1 = other.1 ↔ signIn.2 = other.2
  sent : ∀ send ∈ system.sends, Carries system.signIns (system.keys send.database) send

section Put

variable {system : System} {desk : Desk}

theorem System.keys_put_self (installation : Nat) :
    (system.put installation desk).keys desk.client.database = desk.keys :=
  congrArg (map key) (update_self _ _ _)

theorem System.keys_put_of_ne (installation : Nat) {database : Nat}
    (different : database ≠ desk.client.database) :
    (system.put installation desk).keys database = system.keys database :=
  congrArg (map key) (update_of_ne different _ _)

theorem System.clients_put {other : Nat} {client : Installation}
    (found : (system.put installation desk).clients other = some client) :
    client = desk.client ∨ system.clients other = some client :=
  (update_eq_some found).imp And.right And.right

section

variable (kept : Kept system desk)
include kept

theorem Kept.keys_put (installation : Nat) : ∃ added : Option Int,
      (∀ clientMessageId ∈ added,
        clientMessageId ∉ (system.keys desk.client.database).map Prod.snd) ∧
      ∀ database, (system.put installation desk).keys database = system.keys database ++
        if database = desk.client.database then
          (added.map fun clientMessageId => (system.nextOrigin, clientMessageId)).toList
        else [] := by
  obtain ⟨added, equal, free⟩ := kept.grown
  refine ⟨added, free, fun database => ?_⟩
  by_cases own : database = desk.client.database
  · subst own
    rw [System.keys_put_self, if_pos rfl, equal]
  · rw [System.keys_put_of_ne installation own, if_neg own, append_nil]

theorem Kept.keys_put_mono (installation database : Nat) {key : Nat × Int}
    (member : key ∈ system.keys database) : key ∈ (system.put installation desk).keys database := by
  obtain ⟨added, _, equal⟩ := kept.keys_put installation
  rw [equal]
  exact mem_append_left _ member

theorem Kept.ids_put (sound : Sound system) (installation database : Nat) :
    (((system.put installation desk).keys database).map Prod.snd).Nodup := by
  obtain ⟨added, free, equal⟩ := kept.keys_put installation
  rw [equal]
  split
  · rename_i own
    subst own
    cases added with
    | none => simpa using sound.ids desk.client.database
    | some clientMessageId =>
      have absent := free clientMessageId rfl
      rw [map_append]
      exact concat_eq_append ▸ (sound.ids desk.client.database).concat absent
  · simpa using sound.ids database

theorem Kept.origins_put (sound : Sound system) (installation : Nat) {database other origin : Nat}
    {clientMessageId otherId : Int}
    (member : (origin, clientMessageId) ∈ (system.put installation desk).keys database)
    (otherMember : (origin, otherId) ∈ (system.put installation desk).keys other) :
    database = other ∧ clientMessageId = otherId := by
  obtain ⟨added, _, equal⟩ := kept.keys_put installation
  have knownOrAdded : ∀ {database : Nat} {key : Nat × Int},
      key ∈ (system.put installation desk).keys database →
      key ∈ system.keys database ∨ database = desk.client.database ∧
        key.1 = system.nextOrigin ∧ added = some key.2 := by
    intro database key found
    rw [equal, mem_append] at found
    refine found.imp id fun new => ?_
    split at new
    · grind [map_eq_some_iff]
    · cases new
  rcases knownOrAdded member with old | ⟨own, new, isAdded⟩ <;>
    rcases knownOrAdded otherMember with otherOld | ⟨otherOwn, otherNew, otherAdded⟩
  · exact sound.origins _ _ _ _ _ old otherOld
  · exact absurd otherNew (sound.fresh _ _ old).ne
  · exact absurd new (sound.fresh _ _ otherOld).ne
  · exact ⟨own.trans otherOwn.symm, some.inj (isAdded.symm.trans otherAdded)⟩

/-- A method that leaves what it may leaves the system sound. -/
theorem Kept.put (sound : Sound system) (installation : Nat) :
    Sound (system.put installation desk) where
  ids := kept.ids_put sound installation
  origins _ _ _ _ _ member otherMember := kept.origins_put sound installation member otherMember
  fresh database key member := by
    obtain ⟨added, _, equal⟩ := kept.keys_put installation
    rw [equal, mem_append] at member
    rcases member with old | new
    · exact Nat.lt_succ_of_lt (sound.fresh database key old)
    split at new
    · obtain ⟨_, _, rfl⟩ := map_eq_some_iff.mp (mem_toList.mp new)
      exact Nat.lt_succ_self _
    · cases new
  stored other client found message member pending := by
    rcases System.clients_put found with rfl | before
    · rw [System.keys_put_self]
      exact kept.stored message member pending
    · exact kept.keys_put_mono installation _
        (sound.stored other client before message member pending)
  account other client found := by
    rcases System.clients_put found with rfl | before
    · exact kept.account
    · exact sound.account other client before
  paired := sound.paired
  sent send member := by
    rcases kept.sent send member with old | ⟨own, carries⟩
    · obtain ⟨signedIn, clientMessageId, row, key⟩ := sound.sent send old
      exact ⟨signedIn, clientMessageId, kept.keys_put_mono installation _ row, key⟩
    · rw [own, System.keys_put_self]
      exact carries

end

end Put

/-! ### Every step -/

section Step

variable {receivable : String → Bool} {system next : System}

/-- A client that signs in is the first account on its database, or the same, and its account
is on no other database. -/
def OneAccount (system : System) : Action → Prop
  | .signInSucceeded installation uid =>
    ∀ client, system.clients installation = some client →
      ∀ signIn ∈ system.signIns, signIn.1 = client.database ↔ signIn.2 = uid
  | _ => True

theorem Sound.desk (sound : Sound system) {client : Installation}
    (running : system.clients installation = some client) : Kept system (system.desk client) where
  origin := rfl
  grown := ⟨none, (append_nil _).symm, nofun⟩
  stored := sound.stored installation client running
  account := sound.account installation client running
  sent _ member := .inl member

theorem Sound.call (sound : Sound system) {method : Desk → Desk}
    (taken : system.call installation method = some next)
    (leaves : ∀ client, Kept system (system.desk client) →
      Kept system (method (system.desk client))) : Sound next := by
  obtain ⟨client, running, rfl⟩ := map_eq_some_iff.mp taken
  exact (leaves client (sound.desk running)).put sound installation

theorem Kept.withSession {desk : Desk} (kept : Kept system desk) {session : Session}
    (account : ∀ uid, session.uid = some uid → (desk.client.database, uid) ∈ system.signIns) :
    Kept system (desk.withSession session) :=
  { kept with account }

theorem Sound.signIn (sound : Sound system) {database uid : Nat}
    (one : ∀ signIn ∈ system.signIns, signIn.1 = database ↔ signIn.2 = uid) :
    Sound { system with signIns := system.signIns ++ [(database, uid)] } where
  ids := sound.ids
  origins := sound.origins
  fresh := sound.fresh
  stored := sound.stored
  account installation client running uid current :=
    mem_append_left _ (sound.account installation client running uid current)
  paired := by
    refine forall_mem_append.mpr ⟨fun signIn member => ?_, ?_⟩
    · exact forall_mem_append.mpr
        ⟨sound.paired signIn member, forall_mem_singleton.mpr (one signIn member)⟩
    refine forall_mem_singleton.mpr (forall_mem_append.mpr ⟨fun other member => ?_, ?_⟩)
    · exact eq_comm.trans ((one other member).trans eq_comm)
    · exact forall_mem_singleton.mpr (iff_of_true rfl rfl)
  sent send member :=
    ⟨mem_append_left _ (sound.sent send member).1, (sound.sent send member).2⟩

theorem sound_step {action : Action} (sound : Sound system) (one : OneAccount system action)
    (taken : step receivable system action = some next) : Sound next := by
  cases action with simp only [step] at taken
  | start installation database loaded =>
    cases taken
    have empty : Kept system (system.desk
        { database, messages := [], nextClientMessageId := -1000,
          session := .signedOut }) :=
      ⟨rfl, ⟨none, (append_nil _).symm, nofun⟩, nofun, nofun, fun _ => .inl⟩
    exact (empty.loadScenario loaded).put sound installation
  | loadScenario installation loaded =>
    exact sound.call taken fun client kept => kept.loadScenario loaded
  | signInSucceeded installation uid =>
    split at taken
    · cases taken
    rename_i client running
    cases taken
    have noted := sound.signIn (one client running)
    refine ((noted.desk running).withSession ?_).put noted installation
    rintro _ ⟨⟩
    exact mem_append_right _ (mem_singleton_self _)
  | authenticated installation written =>
    split at taken
    · cases taken
    rename_i client running
    split at taken
    · rename_i uid connecting
      cases taken
      refine (((sound.desk running).withSession ?_).resumePendingOutgoing written).put sound
        installation
      rintro _ ⟨⟩
      exact sound.account installation client running uid (congrArg Session.uid connecting)
    · cases taken
  | disconnected installation =>
    split at taken
    · cases taken
    rename_i client running
    split at taken
    · rename_i uid ready
      cases taken
      refine ((sound.desk running).withSession ?_).put sound installation
      rintro _ ⟨⟩
      exact sound.account installation client running uid (congrArg Session.uid ready)
    · cases taken
  | sendMessage installation conversationId body timestamp enqueued written =>
    exact sound.call taken fun client kept => kept.sendMessage rfl _ _ _ _ _
  | retryMessage installation clientMessageId written =>
    exact sound.call taken fun client kept => kept.retryMessage _ _
  | updateMessageState installation clientMessageId state written =>
    exact sound.call taken fun client kept => kept.updateMessageState _ _ _
  | acceptOutgoing installation clientMessageId messageId conversationSeq written =>
    exact sound.call taken fun client kept => kept.acceptOutgoing _ _ _ _
  | receive installation conversationId record =>
    split at taken
    · rename_i arrived
      exact sound.call taken fun client kept => kept.receive rfl _ arrived
    · cases taken

theorem sound_init : Sound {} :=
  ⟨fun _ => nodup_nil, nofun, nofun, nofun, nofun, nofun, nofun⟩

/-- Along a run in which each account keeps to one database and each database to one account,
the system stays sound. -/
theorem sound_run {actions : List Action}
    (along : Along (step receivable) OneAccount {} actions)
    (taken : run (step receivable) {} actions = some system) : Sound system :=
  run_invariant_along Sound OneAccount
    (fun _ _ _ sound one taken => sound_step sound one taken) sound_init along taken

end Step

/-! ### The key of a text -/

section Law

variable {system : System} {send other : WireSend}

theorem Sound.same_key (sound : Sound system) (member : send ∈ system.sends)
    (otherMember : other ∈ system.sends) (same : send.origin = other.origin) :
    send.actorUid = other.actorUid ∧ send.clientMessageId = other.clientMessageId := by
  obtain ⟨signedIn, clientMessageId, row, key⟩ := sound.sent send member
  obtain ⟨otherSignedIn, otherId, otherRow, otherKey⟩ := sound.sent other otherMember
  obtain ⟨sameDatabase, sameId⟩ := sound.origins _ _ _ _ _ row (same ▸ otherRow)
  have sameUid : send.actorUid = other.actorUid :=
    (sound.paired _ signedIn _ otherSignedIn).mp sameDatabase
  exact ⟨sameUid, by rw [key, otherKey, sameUid, sameId]⟩

theorem Sound.same_origin (sound : Sound system) (member : send ∈ system.sends)
    (otherMember : other ∈ system.sends) (same : send.clientMessageId = other.clientMessageId) :
    send.origin = other.origin := by
  obtain ⟨signedIn, clientMessageId, row, key⟩ := sound.sent send member
  obtain ⟨otherSignedIn, otherId, otherRow, otherKey⟩ := sound.sent other otherMember
  rw [key, otherKey] at same
  obtain ⟨sameUid, rfl⟩ := wireClientMessageId_inj same
  have sameDatabase : send.database = other.database :=
    (sound.paired _ signedIn _ otherSignedIn).mpr sameUid
  rw [sameDatabase] at row
  exact congrArg Prod.fst (inj_on_of_nodup_map (sound.ids other.database) row otherRow rfl)

def Separates (collate : String → String) : Prop :=
  ∀ uid otherUid clientMessageId otherId,
    collate (wireClientMessageId uid clientMessageId) =
      collate (wireClientMessageId otherUid otherId) →
    wireClientMessageId uid clientMessageId = wireClientMessageId otherUid otherId

theorem Sound.found_once (sound : Sound system) {collate : String → String}
    (separates : Separates collate) (member : send ∈ system.sends)
    (otherMember : other ∈ system.sends) {row : Server.MessageRow}
    (found : Server.hasClientId collate send.actorUid send.clientMessageId row)
    (otherFound : Server.hasClientId collate other.actorUid other.clientMessageId row) :
    send.origin = other.origin := by
  refine sound.same_origin member otherMember ?_
  obtain ⟨_, _, _, key⟩ := sound.sent send member
  obtain ⟨_, _, _, otherKey⟩ := sound.sent other otherMember
  have collated := (of_decide_eq_true found).2.symm.trans (of_decide_eq_true otherFound).2
  rw [key, otherKey] at collated ⊢
  exact separates _ _ _ _ (some.inj collated)

end Law

/-- In every run in which a database sees one account and an account one database, all sends of
one message carry one account and one key, two messages never carry the same key, and no
message on the server is found for both. -/
theorem texts_keep_their_key (receivable : String → Bool) {actions : List Action}
    {system : System} (along : Along (step receivable) OneAccount {} actions)
    (taken : run (step receivable) {} actions = some system) :
    (∀ send ∈ system.sends, ∀ other ∈ system.sends, send.origin = other.origin →
      send.actorUid = other.actorUid ∧ send.clientMessageId = other.clientMessageId) ∧
    (∀ send ∈ system.sends, ∀ other ∈ system.sends, send.origin ≠ other.origin →
      send.clientMessageId ≠ other.clientMessageId ∧
      ∀ collate, Separates collate → ∀ row : Server.MessageRow,
        Server.hasClientId collate send.actorUid send.clientMessageId row →
        ¬ Server.hasClientId collate other.actorUid other.clientMessageId row) := by
  have sound := sound_run along taken
  refine ⟨fun send member other otherMember => sound.same_key member otherMember, ?_⟩
  intro send member other otherMember different
  refine ⟨fun same => different (sound.same_origin member otherMember same), ?_⟩
  intro collate separates row found otherFound
  exact different (sound.found_once separates member otherMember found otherFound)

def outboxAfter (actions : List Action) : System :=
  (run (step fun _ => true) {} actions).getD {}

def textTo (installation : Nat) (body : String) : Action :=
  .sendMessage installation "direct:2" body "10:00" true true

def sentAgain : List Action :=
  [.start 0 0 true, .signInSucceeded 0 1, .authenticated 0 fun _ => true, textTo 0 "hello",
    .disconnected 0, .updateMessageState 0 (-1000) .unknown true,
    .authenticated 0 fun _ => true, .start 0 0 true, .signInSucceeded 0 1,
    .authenticated 0 fun _ => true, textTo 0 "again"]

theorem oneAccount_sentAgain :
    Along (step fun _ => true) OneAccount {} sentAgain := by
  refine along_cons trivial rfl ?_
  refine along_cons (fun _ _ => nofun) rfl ?_
  iterate 6 refine along_cons trivial rfl ?_
  refine along_cons ?_ rfl ?_
  · rintro _ ⟨⟩
    exact forall_mem_singleton.mpr (by decide)
  · exact along_cons trivial rfl (along_cons trivial rfl trivial)

theorem texts_keep_their_key_again :
    (outboxAfter sentAgain).sends.map (fun send => (send.origin, send.clientMessageId)) =
        [(3, "1:1000"), (3, "1:1000"), (3, "1:1000"), (10, "1:1001")] ∧
      ∀ send ∈ (outboxAfter sentAgain).sends, ∀ other ∈ (outboxAfter sentAgain).sends,
        if send.origin = other.origin then
          send.actorUid = other.actorUid ∧ send.clientMessageId = other.clientMessageId
        else send.clientMessageId ≠ other.clientMessageId := by
  refine ⟨by decide +kernel, fun send member other otherMember => ?_⟩
  obtain ⟨sameKey, otherKey⟩ := texts_keep_their_key (fun _ => true) oneAccount_sentAgain rfl
  split_ifs with same
  · exact sameKey send member other otherMember same
  · exact (otherKey send member other otherMember same).1

def switchedAccount : List Action :=
  [.start 0 0 true, .signInSucceeded 0 1, .authenticated 0 fun _ => true, textTo 0 "hello",
    .signInSucceeded 0 3, .updateMessageState 0 (-1000) .unknown true,
    .authenticated 0 fun _ => true,
    .start 1 1 true, .signInSucceeded 1 1, .authenticated 1 fun _ => true, textTo 1 "again"]

def commandOf (send : WireSend) : Server.AcceptCommand where
  type := .direct
  senderId := send.actorUid
  receiverId := 2
  clientMessageId := send.clientMessageId
  content := send.body
  sendDateTime := ""

def textOf (database origin actorUid : Nat) (clientMessageId body : String) : WireSend where
  database := database
  origin := origin
  actorUid := actorUid
  clientMessageId := clientMessageId
  conversationId := "direct:2"
  body := body

/-- The text of account 1 goes out a second time from account 3 under another key, and the
first key of account 1 is used for another text, which the server refuses as a conflict. -/
theorem account_switch_changes_key :
    (outboxAfter switchedAccount).sends =
        [textOf 0 3 1 "1:1000" "hello", textOf 0 3 3 "3:1000" "hello",
          textOf 1 10 1 "1:1000" "again"] ∧
      ((Server.acceptAfter Server.friendsStore
        ((commandOf (textOf 0 3 1 "1:1000" "hello")).script 0 ++
          .begin 1 (commandOf (textOf 1 10 1 "1:1000" "again")) ::
            replicate 4 (.execute 1))).calls 1).map (fun call => call.accepted.error) =
        some .idempotencyConflict := by
  constructor <;> decide +kernel

end Outbox

end Wimi.Client
