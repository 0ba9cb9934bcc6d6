/-
This file proves when the snapshot of the client and the models behind its views hold
the same conversations and contacts.

Almost every handler changes both: a conversation is put in front of both lists, a
preview, an unread count and a number of the server are set in both, and the contacts
are replaced in both. The three toggles of the user change the model only. From then
on the snapshot has the old pin, mute or favorite, and it is the snapshot that
`SaveConversation` writes and from which `PullFriendList` takes the favorites.

The list positions are never a problem: the selected index moves when a conversation
is put in front, with or without toggles.
-/

import Wimi.Client.PushReplay

namespace Wimi.Client.Push

open List Option Transition ConversationRecord Lists PushClient

/-! ### Contacts and positions -/

structure ContactRecord where
  userId : String
  displayName : String
  statusText : String
  avatarColor : String
  online : Bool := false
  favorite : Bool := false
deriving DecidableEq, Repr

structure FriendInfo where
  uid : Int
  name : String
deriving DecidableEq, Repr

def recordAt {Record : Type} (records : List Record) (index : Int) : Option Record :=
  if index < 0 then none else records[index.toNat]?

def changeAt {Record : Type} (change : Record → Record) (records : List Record) (index : Int) :
    List Record :=
  if index < 0 then records else records.modify index.toNat change

/-- What the client keeps of conversations and contacts, and the conversation that was selected
last, which the program knows by its position only. -/
structure AppLists where
  client : PushClient := {}
  contacts : List ContactRecord := []
  contactModel : List ContactRecord := []
  nextClientMessageId : Int := -1000
  lastSelected : Option String := none

namespace PushClient

variable (client : PushClient)

def selectedId : Option String :=
  (recordAt client.conversationModel client.selectedConversationIndex).map conversationId

def indexOf (conversationId : String) : Int :=
  match client.conversationModel.findIdx? fun record => record.conversationId = conversationId with
  | some index => index
  | none => -1

/-- `markRead`: the model by its position, the snapshot by the id of the conversation, whose
record is saved. -/
def markRead (index : Int) : PushClient :=
  match recordAt client.conversationModel index with
  | none => client
  | some record =>
    let conversations :=
      updateFirst (fun other => other.conversationId = record.conversationId)
        (fun other => { other with unreadCount := 0 }) client.conversations
    { client with
      conversationModel :=
        changeAt (fun other => { other with unreadCount := 0 }) client.conversationModel index
      conversations
      database :=
        match conversations.find? fun other => other.conversationId = record.conversationId with
        | some saved => (client.database.saveConversation saved).getD client.database
        | none => client.database }

def selectConversation (index : Int) : PushClient :=
  match recordAt client.conversationModel index with
  | none => client
  | some record =>
    { client with
      selectedConversationIndex := index
      messageModel := client.messagesByConversation record.conversationId }.markRead index

end PushClient

/-- `EnqueueOutgoing`: the message, its entry in the outbox and the preview. -/
def LocalDatabase.enqueueOutgoing (database : LocalDatabase) (conversationId : String)
    (message : MessageRecord) : Option LocalDatabase :=
  if database.ready then
    (database.repository.enqueueOutgoing conversationId message).map fun written =>
      { database with
        messages := written.messages
        outbox := written.outbox
        conversations := updateFirst (fun row => row.conversationId = conversationId)
          (fun row => { row with preview := message.body, timestamp := message.timestamp })
          database.conversations }
  else none

namespace AppLists

variable (lists : AppLists)

def loadScenario (conversations : List ConversationRecord) (contacts : List ContactRecord) :
    AppLists :=
  { lists with
    client := { lists.client with
      conversations
      conversationModel := conversations
      selectedConversationIndex := if conversations.isEmpty then -1 else 0 }
    contacts
    contactModel := contacts
    lastSelected := conversations.head?.map conversationId }

def selectConversation (index : Int) : AppLists :=
  { lists with
    client := lists.client.selectConversation index
    lastSelected :=
      match recordAt lists.client.conversationModel index with
      | some record => some record.conversationId
      | none => lists.lastSelected }

def sendMessage (trimmed timestamp : String) : AppLists :=
  match recordAt lists.client.conversationModel lists.client.selectedConversationIndex with
  | none => lists
  | some conversation =>
    if trimmed = "" then lists
    else
      let message : MessageRecord :=
        { clientMessageId := lists.nextClientMessageId, senderId := "me", body := trimmed,
          timestamp, outgoing := true, deliveryState := .pendingLocal }
      let enqueued := lists.client.database.enqueueOutgoing conversation.conversationId message
      let shown := if enqueued.isSome then message
        else { message with deliveryState := .permanentFailed }
      { lists with
        nextClientMessageId := lists.nextClientMessageId - 1
        client := { lists.client with
          database := enqueued.getD lists.client.database
          messagesByConversation :=
            Function.update lists.client.messagesByConversation conversation.conversationId
              (lists.client.messagesByConversation conversation.conversationId ++ [shown])
          messageModel := lists.client.messageModel ++ [shown]
          conversationModel := updatePreview conversation.conversationId trimmed
            timestamp lists.client.conversationModel
          conversations := updatePreview conversation.conversationId trimmed timestamp
            lists.client.conversations } }

def togglePinned (index : Int) : AppLists :=
  { lists with
    client := { lists.client with
      conversationModel := changeAt (fun record => { record with pinned := !record.pinned })
        lists.client.conversationModel index } }

def toggleMuted (index : Int) : AppLists :=
  { lists with
    client := { lists.client with
      conversationModel := changeAt (fun record => { record with muted := !record.muted })
        lists.client.conversationModel index } }

def toggleContactFavorite (index : Int) : AppLists :=
  { lists with
    contactModel := changeAt (fun record => { record with favorite := !record.favorite })
      lists.contactModel index }

def favoriteOf (contacts : List ContactRecord) (userId : String) : Bool :=
  match contacts.find? fun contact => contact.userId = userId with
  | some contact => contact.favorite
  | none => false

def colors : List String := ["#315FD6", "#7656A8", "#247B6B", "#A05A4E"]

def friendContacts (contacts : List ContactRecord) (friends : List FriendInfo) :
    List ContactRecord :=
  friends.map fun info =>
    let uid := toString info.uid
    { userId := uid
      displayName := if info.name = "" then "用户 " ++ uid else info.name
      statusText := "WIMI 用户 · " ++ uid
      avatarColor := colors.getD (info.uid % (colors.length : Int)).toNat ""
      favorite := favoriteOf contacts uid }

def handleFriendList (friends : List FriendInfo) (success : Bool) : AppLists :=
  if success then
    { lists with
      contacts := friendContacts lists.contacts friends
      contactModel := friendContacts lists.contacts friends }
  else lists

def openConversation (conversationId title avatarColor : String) : AppLists :=
  match lists.client.ensureConversation conversationId title avatarColor with
  | some ensured =>
    { lists with client := ensured }.selectConversation (ensured.indexOf conversationId)
  | none => lists.selectConversation (lists.client.indexOf "")

end AppLists

/-! ### Runs -/

inductive ListAction where
  | selectConversation (index : Int)
  | sendMessage (trimmed timestamp : String)
  | togglePinned (index : Int)
  | toggleMuted (index : Int)
  | markRead (index : Int)
  | toggleContactFavorite (index : Int)
  | ensureConversation (conversationId title avatarColor : String)
  | openConversation (conversationId title avatarColor : String)
  | attachRemoteConversation (conversationId : String) (remote : Int)
  | handleGatewayPush (service : PushService) (payload : Option PushedPacket) (now : String)
  | handleFriendList (friends : List FriendInfo) (success : Bool)

namespace AppLists

def step (lists : AppLists) : ListAction → Option AppLists
  | .selectConversation index => some (lists.selectConversation index)
  | .sendMessage trimmed timestamp => some (lists.sendMessage trimmed timestamp)
  | .togglePinned index => some (lists.togglePinned index)
  | .toggleMuted index => some (lists.toggleMuted index)
  | .markRead index => some { lists with client := lists.client.markRead index }
  | .toggleContactFavorite index => some (lists.toggleContactFavorite index)
  | .ensureConversation conversationId title avatarColor =>
    some { lists with
      client := (lists.client.ensureConversation conversationId title avatarColor).getD
        lists.client }
  | .openConversation conversationId title avatarColor =>
    some (lists.openConversation conversationId title avatarColor)
  | .attachRemoteConversation conversationId remote =>
    some { lists with client := lists.client.attachRemoteConversation conversationId remote }
  | .handleGatewayPush service payload now =>
    some { lists with client := (lists.client.handleGatewayPush service payload now).1 }
  | .handleFriendList friends success => some (lists.handleFriendList friends success)

/-- The lists agree, and the selected index denotes the conversation that was selected last; so
what is saved has the pin and the mute that are shown, and friends that are pulled keep the
favorite that is shown. -/
structure Agree (lists : AppLists) : Prop where
  conversations : lists.client.conversationModel = lists.client.conversations
  contacts : lists.contactModel = lists.contacts
  selected : lists.client.selectedId = lists.lastSelected
  saved : ∀ (index : Nat) (record : ConversationRecord),
    lists.client.conversations[index]? = some record →
    ∃ shown : ConversationRecord, lists.client.conversationModel[index]? = some shown ∧
      shown.conversationId = record.conversationId ∧ shown.pinned = record.pinned ∧
      shown.muted = record.muted
  pulled : ∀ friends, ∀ contact ∈ (lists.handleFriendList friends true).contactModel,
    contact.favorite = favoriteOf lists.contactModel contact.userId

/-- The action is not a toggle of a listed conversation or contact. -/
def NoToggle (lists : AppLists) : ListAction → Prop
  | .togglePinned index | .toggleMuted index =>
    recordAt lists.client.conversationModel index = none
  | .toggleContactFavorite index => recordAt lists.contactModel index = none
  | _ => True

end AppLists

/-! ### Two ways to change a record -/

section Change

variable {Record : Type} {change : Record → Record} {records : List Record} {index : Int}

theorem map_changeAt {Image : Type} {image : Record → Image}
    (same : ∀ record, image (change record) = image record) :
    (changeAt change records index).map image = records.map image := by
  simp only [changeAt]
  split_ifs
  · rfl
  refine ext_getElem? fun other => ?_
  rw [getElem?_map, getElem?_map, getElem?_modify]
  cases records[other]? with
  | none => rfl
  | some record => grind

theorem changeAt_eq_self_iff (moves : ∀ record, change record ≠ record) (records : List Record)
    (index : Int) :
    changeAt change records index = records ↔ recordAt records index = none := by
  simp only [changeAt, recordAt]
  split_ifs
  · exact iff_of_true rfl rfl
  constructor
  · grind
  · grind [modify_eq_self]

end Change

theorem recordAt_map {Record Image : Type} (image : Record → Image) (records : List Record)
    (index : Int) : recordAt (records.map image) index = (recordAt records index).map image := by
  simp only [recordAt]
  split_ifs
  · rfl
  · exact getElem?_map

theorem recordAt_cons {Record : Type} (first : Record) (records : List Record) (index : Int) :
    recordAt (first :: records) (if 0 ≤ index then index + 1 else index) =
      recordAt records index := by
  simp only [recordAt]
  by_cases inside : 0 ≤ index
  · grind
  · rw [if_pos (by omega), if_pos (by omega)]

/-! ### What holds with and without toggles -/

def Mirrors (client : PushClient) : Prop := client.conversationModel = client.conversations

structure Tracked (client : PushClient) (last : Option String) : Prop where
  ids : client.conversationModel.map conversationId =
    client.conversations.map conversationId
  distinct : (client.conversationModel.map conversationId).Nodup
  selected : client.selectedId = last

theorem selectedId_eq (client : PushClient) :
    client.selectedId = recordAt
      (client.conversationModel.map conversationId)
      client.selectedConversationIndex :=
  (recordAt_map _ _ _).symm

def Follows (before after : PushClient) : Prop :=
  ∀ last, Tracked before last → Tracked after last ∧ (Mirrors before → Mirrors after)

namespace Follows

theorem refl (client : PushClient) : Follows client client :=
  fun _ tracked => ⟨tracked, id⟩

theorem trans {first second third : PushClient} (early : Follows first second)
    (late : Follows second third) : Follows first third := by
  intro last tracked
  obtain ⟨middle, mirrors⟩ := early last tracked
  obtain ⟨final, mirrorsLater⟩ := late last middle
  exact ⟨final, fun same => mirrorsLater (mirrors same)⟩

/-- It is enough that the ids and the index stay. -/
theorem of_ids {before after : PushClient}
    (index : after.selectedConversationIndex = before.selectedConversationIndex)
    (model : after.conversationModel.map conversationId =
      before.conversationModel.map conversationId)
    (snapshot : after.conversations.map conversationId =
      before.conversations.map conversationId)
    (mirrors : (before.conversationModel.map conversationId).Nodup →
      Mirrors before → Mirrors after) : Follows before after := by
  intro last tracked
  refine ⟨⟨?_, ?_, ?_⟩, mirrors tracked.distinct⟩
  · rw [model, snapshot]
    exact tracked.ids
  · rw [model]
    exact tracked.distinct
  · rw [selectedId_eq, index, model, ← selectedId_eq]
    exact tracked.selected

end Follows

namespace PushClient

variable {client : PushClient} {conversationId : String}

theorem follows_ensureConversation {title avatarColor : String} {ensured : PushClient}
    (done : client.ensureConversation conversationId title avatarColor = some ensured) :
    Follows client ensured := by
  simp only [ensureConversation] at done
  split at done
  · obtain rfl := some.inj done
    exact .refl client
  rename_i listed
  obtain ⟨database, -, rfl⟩ := map_eq_some_iff.mp done
  intro last tracked
  refine ⟨⟨?_, ?_, ?_⟩, fun same => ?_⟩
  · rw [map_cons, map_cons, tracked.ids]
  · exact nodup_cons.mpr
      ⟨fun present => listed (decide_eq_true present), tracked.distinct⟩
  · rw [selectedId_eq, map_cons, recordAt_cons, ← selectedId_eq]
    exact tracked.selected
  · exact congrArg (cons _) same

section

variable (client : PushClient) (conversationId : String)

theorem follows_attachRemoteConversation (remote : Int) :
    Follows client (client.attachRemoteConversation conversationId remote) := by
  simp only [attachRemoteConversation]
  split
  · exact .refl client
  split
  · exact .refl client
  rename_i record found
  split
  · exact .refl client
  rename_i other
  refine .of_ids rfl (map_updateFirst (by intro record; rfl) _)
    (map_updateFirst (by intro record; rfl) _) fun _ same => ?_
  -- The model looks for a record that has not got the number; it is the same one.
  have named : record.conversationId = conversationId := by
    simpa using find?_some found
  simp only [show client.conversationModel = client.conversations from same]
  exact updateFirst_congr found (decide_eq_true ⟨named, other⟩)
    (fun row both => decide_eq_true (of_decide_eq_true both).1) rfl

theorem follows_attachPacket (packet : PushedPacket) :
    Follows client (client.attachPacket conversationId packet) := by
  simp only [attachPacket]
  split
  · exact client.follows_attachRemoteConversation conversationId _
  · exact .refl client

theorem follows_countUnread : Follows client (client.countUnread conversationId) := by
  simp only [countUnread]
  split
  · exact .refl client
  rename_i record found
  refine .of_ids rfl (map_updateFirst (by intro record; rfl) _)
    (map_updateFirst (by intro record; rfl) _) fun _ same => ?_
  have named : record.conversationId = conversationId := by simpa using find?_some found
  have more : record.unreadCount ≠ record.unreadCount + 1 := by omega
  simp only [show client.conversationModel = client.conversations from same]
  exact updateFirst_congr found (decide_eq_true ⟨named, more⟩)
    (fun row both => decide_eq_true (of_decide_eq_true both).1) rfl

theorem follows_receiveText (packet : PushedPacket) (now : String) (database : LocalDatabase) :
    Follows client (client.receiveText conversationId packet now database) := by
  have shown : Follows client (client.showIncoming conversationId
      (Outbox.pushRecord packet.toPushPacket now) now database) :=
    .of_ids rfl (map_updateFirst (by intro record; rfl) _)
      (map_updateFirst (by intro record; rfl) _) fun _ same =>
        congrArg (updatePreview conversationId _ _) same
  simp only [receiveText]
  split
  · exact shown.trans (follows_countUnread _ _)
  · exact shown

theorem follows_storeText (packet : PushedPacket) (now : String) :
    Follows client (client.storeText conversationId packet now).1 := by
  simp only [storeText]
  split
  · exact .refl client
  split
  · exact .refl client
  · exact client.follows_receiveText conversationId packet now _

end

theorem follows_prepareText (client : PushClient) (group : Bool) (packet : PushedPacket) :
    Follows client (client.prepareText group packet).1 := by
  have ensured : ∀ conversationId title avatarColor, Follows client
      ((client.ensureConversation conversationId title avatarColor).getD client) := by
    intro conversationId title avatarColor
    cases done : client.ensureConversation conversationId title avatarColor with
    | none => exact .refl client
    | some ensured => exact follows_ensureConversation done
  refine .trans ?_ (follows_attachPacket _ _ packet)
  split
  · exact ensured _ _ _
  split
  · rename_i done
    exact follows_ensureConversation done
  · exact .refl client

theorem follows_handleGatewayPush (client : PushClient) (service : PushService)
    (payload : Option PushedPacket) (now : String) :
    Follows client (client.handleGatewayPush service payload now).1 := by
  have text : ∀ group packet, Follows client (client.handleText group packet now).1 :=
    fun group packet => (client.follows_prepareText group packet).trans
      (follows_storeText _ _ packet now)
  have request : ∀ group packet, Follows client (client.handleRequest group packet).1 :=
    fun group packet => .of_ids rfl rfl rfl fun _ same => same
  cases payload with
  | none => exact .refl client
  | some packet =>
    cases service with
    | sendTextRequest => exact text false packet
    | sendGroupTextRequest => exact text true packet
    | addFriendRequest => exact request false packet
    | joinGroupRequest => exact request true packet
    | replyJoinGroupRequest =>
      simp only [handleGatewayPush, handleJoinReply]
      split
      · split
        · rename_i done
          exact follows_ensureConversation done
        · exact .refl client
      · exact .refl client
    | replyFriendRequest | other => exact .refl client

theorem follows_markRead (client : PushClient) (index : Int) :
    Follows client (client.markRead index) := by
  simp only [markRead]
  split
  · exact .refl client
  rename_i record found
  refine .of_ids rfl (map_changeAt (by intro record; rfl))
    (map_updateFirst (by intro record; rfl) _) fun distinct same => ?_
  simp only [recordAt] at found
  split_ifs at found with outside
  simp only [changeAt, if_neg outside]
  rw [← show client.conversationModel = client.conversations from same]
  exact (updateFirst_eq_modify distinct found).symm

end PushClient

/-! ### Steps -/

variable {action : ListAction}

namespace AppLists

variable {lists : AppLists}

def Same (lists : AppLists) : Prop :=
  Mirrors lists.client ∧ lists.contactModel = lists.contacts

theorem agree_iff_same (tracked : Tracked lists.client lists.lastSelected) :
    Agree lists ↔ lists.Same := by
  refine ⟨fun agree => ⟨agree.conversations, agree.contacts⟩, fun same => ?_⟩
  refine ⟨same.1, same.2, tracked.selected, fun index record found => ?_, ?_⟩
  · exact ⟨record, (congrArg (fun list => list[index]?) same.1).trans found, rfl, rfl, rfl⟩
  intro friends contact member
  obtain ⟨info, -, rfl⟩ := mem_map.mp member
  rw [same.2]

def Steps (lists : AppLists) (action : ListAction) (next : AppLists) : Prop :=
  Tracked next.client next.lastSelected ∧ (lists.Same → (next.Same ↔ lists.NoToggle action))

theorem tracked_selectConversation (lists : AppLists)
    (tracked : Tracked lists.client lists.lastSelected) (index : Int) :
    Tracked (lists.selectConversation index).client (lists.selectConversation index).lastSelected ∧
      (lists.Same → (lists.selectConversation index).Same) := by
  simp only [selectConversation, PushClient.selectConversation]
  cases found : recordAt lists.client.conversationModel index with
  | none => exact ⟨tracked, id⟩
  | some record =>
    have chosen : Tracked
        { lists.client with
          selectedConversationIndex := index
          messageModel := lists.client.messagesByConversation record.conversationId }
        (some record.conversationId) := by
      refine ⟨tracked.ids, tracked.distinct, ?_⟩
      exact congrArg (Option.map conversationId) found
    obtain ⟨after, mirrors⟩ := PushClient.follows_markRead _ index _ chosen
    exact ⟨after, fun same => ⟨mirrors same.1, same.2⟩⟩

theorem follows_sendMessage (lists : AppLists) (trimmed timestamp : String) :
    Follows lists.client (lists.sendMessage trimmed timestamp).client := by
  simp only [sendMessage]
  split
  · exact .refl _
  split
  · exact .refl _
  exact .of_ids rfl (map_updateFirst (by intro record; rfl) _)
    (map_updateFirst (by intro record; rfl) _) fun _ same =>
      congrArg (updatePreview _ _ _) same

theorem frame_sendMessage (lists : AppLists) (trimmed timestamp : String) :
    (lists.sendMessage trimmed timestamp).contacts = lists.contacts ∧
      (lists.sendMessage trimmed timestamp).contactModel = lists.contactModel ∧
      (lists.sendMessage trimmed timestamp).lastSelected = lists.lastSelected := by
  simp only [sendMessage]
  split
  · exact ⟨rfl, rfl, rfl⟩
  · split <;> exact ⟨rfl, rfl, rfl⟩

theorem steps_of_follows {client : PushClient} (tracked : Tracked lists.client lists.lastSelected)
    (follows : Follows lists.client client) (plain : lists.NoToggle action) :
    lists.Steps action { lists with client } := by
  obtain ⟨after, mirrors⟩ := follows _ tracked
  exact ⟨after, fun same => iff_of_true ⟨mirrors same.1, same.2⟩ plain⟩

theorem steps_of_toggle {change : ConversationRecord → ConversationRecord} {index : Int}
    (tracked : Tracked lists.client lists.lastSelected)
    (kept : ∀ record, (change record).conversationId = record.conversationId)
    (moves : ∀ record, change record ≠ record)
    (toggles : lists.NoToggle action ↔ recordAt lists.client.conversationModel index = none) :
    lists.Steps action
      { lists with
        client := { lists.client with
          conversationModel := changeAt change lists.client.conversationModel index } } := by
  have ids : (changeAt change lists.client.conversationModel index).map conversationId =
        lists.client.conversationModel.map conversationId := map_changeAt kept
  refine ⟨⟨?_, ?_, ?_⟩, fun same => ?_⟩
  · exact ids.trans tracked.ids
  · rw [ids]
    exact tracked.distinct
  · rw [selectedId_eq, ids, ← selectedId_eq]
    exact tracked.selected
  rw [toggles, ← changeAt_eq_self_iff moves]
  exact ⟨fun after => after.1.trans same.1.symm,
    fun unchanged => ⟨unchanged.trans same.1, same.2⟩⟩

theorem step_steps {next : AppLists} (tracked : Tracked lists.client lists.lastSelected)
    (taken : lists.step action = some next) : lists.Steps action next := by
  cases action with
  | selectConversation index =>
    obtain rfl := some.inj taken
    obtain ⟨after, same⟩ := tracked_selectConversation lists tracked index
    exact ⟨after, fun before => iff_of_true (same before) trivial⟩
  | sendMessage trimmed timestamp =>
    obtain rfl := some.inj taken
    obtain ⟨contacts, contactModel, last⟩ := lists.frame_sendMessage trimmed timestamp
    obtain ⟨after, mirrors⟩ := lists.follows_sendMessage trimmed timestamp _ tracked
    refine ⟨last ▸ after, fun before => iff_of_true ⟨mirrors before.1, ?_⟩ trivial⟩
    rw [contacts, contactModel]
    exact before.2
  | togglePinned index =>
    obtain rfl := some.inj taken
    exact steps_of_toggle tracked (fun _ => rfl)
      (fun record same => Bool.not_ne_self record.pinned (congrArg pinned same))
      Iff.rfl
  | toggleMuted index =>
    obtain rfl := some.inj taken
    exact steps_of_toggle tracked (fun _ => rfl)
      (fun record same => Bool.not_ne_self record.muted (congrArg muted same))
      Iff.rfl
  | markRead index =>
    obtain rfl := some.inj taken
    exact steps_of_follows tracked (lists.client.follows_markRead index) trivial
  | toggleContactFavorite index =>
    obtain rfl := some.inj taken
    refine ⟨tracked, fun before => ?_⟩
    have moves : ∀ record : ContactRecord, { record with favorite := !record.favorite } ≠ record :=
      fun record same =>
        Bool.not_ne_self record.favorite (congrArg ContactRecord.favorite same)
    refine Iff.trans ?_ (changeAt_eq_self_iff moves lists.contactModel index)
    exact ⟨fun after => after.2.trans before.2.symm,
      fun unchanged => ⟨before.1, unchanged.trans before.2⟩⟩
  | ensureConversation conversationId title avatarColor =>
    obtain rfl := some.inj taken
    refine steps_of_follows tracked ?_ trivial
    cases done : lists.client.ensureConversation conversationId title avatarColor with
    | none => exact .refl _
    | some ensured => exact follows_ensureConversation done
  | openConversation conversationId title avatarColor =>
    obtain rfl := some.inj taken
    simp only [openConversation]
    split
    · rename_i ensured done
      obtain ⟨middle, mirrors⟩ := follows_ensureConversation done _ tracked
      obtain ⟨after, same⟩ := tracked_selectConversation { lists with client := ensured } middle
        (ensured.indexOf conversationId)
      exact ⟨after, fun before => iff_of_true (same ⟨mirrors before.1, before.2⟩) trivial⟩
    · obtain ⟨after, same⟩ := tracked_selectConversation lists tracked (lists.client.indexOf "")
      exact ⟨after, fun before => iff_of_true (same before) trivial⟩
  | attachRemoteConversation conversationId remote =>
    obtain rfl := some.inj taken
    exact steps_of_follows tracked
      (lists.client.follows_attachRemoteConversation conversationId remote) trivial
  | handleGatewayPush service payload now =>
    obtain rfl := some.inj taken
    exact steps_of_follows tracked (lists.client.follows_handleGatewayPush service payload now)
      trivial
  | handleFriendList friends success =>
    obtain rfl := some.inj taken
    simp only [handleFriendList]
    split_ifs
    · exact ⟨tracked, fun before => iff_of_true ⟨before.1, rfl⟩ trivial⟩
    · exact ⟨tracked, fun before => iff_of_true before trivial⟩

/-! ### Runs from a loaded scenario -/

theorem tracked_loadScenario (lists : AppLists) {conversations : List ConversationRecord}
    (contacts : List ContactRecord)
    (distinct : (conversations.map conversationId).Nodup) :
    Tracked (lists.loadScenario conversations contacts).client
      (lists.loadScenario conversations contacts).lastSelected := by
  refine ⟨rfl, distinct, ?_⟩
  cases conversations with
  | nil | cons => rfl

/-- Every run after a scenario was loaded, in which the conversations have their primary key:
the snapshot and the models agree in every state of the run, with the selected index at the
conversation selected last, exactly if no listed conversation was pinned or muted and no listed
contact made a favorite, or back. -/
theorem lists_agree_iff_no_toggle (start : AppLists) {conversations : List ConversationRecord}
    (contacts : List ContactRecord)
    (distinct : (conversations.map conversationId).Nodup)
    {actions : List ListAction} {final : AppLists}
    (taken : run step (start.loadScenario conversations contacts) actions =
      some final) :
    (∀ early late reached, actions = early ++ late →
      run step (start.loadScenario conversations contacts) early = some reached →
      Agree reached) ↔
    Along step NoToggle (start.loadScenario conversations contacts) actions := by
  have tracked := start.tracked_loadScenario contacts distinct
  refine always_iff_along (fun lists => Tracked lists.client lists.lastSelected) Agree
    NoToggle (fun _ _ _ tracked taken => (step_steps tracked taken).1)
    (fun lists action next tracked agree taken => ?_) tracked
    ((agree_iff_same tracked).mpr ⟨rfl, rfl⟩) taken
  obtain ⟨after, exactly⟩ := step_steps tracked taken
  rw [agree_iff_same after]
  exact exactly ((agree_iff_same tracked).mp agree)

def oneFriend : AppLists :=
  AppLists.loadScenario {}
    [{ conversationId := "direct:2", title := "friend", avatarColor := "#315FD6" }]
    [{ userId := "2", displayName := "friend", statusText := "WIMI 用户 · 2",
       avatarColor := "#247B6B" }]

def listsAfter (actions : List ListAction) : AppLists :=
  (run step oneFriend actions).getD oneFriend

/-- A text is sent, a conversation is made and opened, a text is pushed to the other one and the
friends are pulled. -/
theorem lists_agree_iff_no_toggle_messages :
    let packet : PushedPacket :=
      { fromUid := 2, messageId := some 41, conversationId := some 9, conversationSeq := some 1,
        data := "hello" }
    let actions : List ListAction :=
      [.sendMessage "hello" "10:00", .openConversation "direct:3" "other" "#315FD6",
        .handleGatewayPush .sendTextRequest (some packet) "10:01",
        .handleFriendList [⟨2, "friend"⟩] true]
    Agree (listsAfter actions) := by
  intro packet actions
  have taken : run step oneFriend actions = some (listsAfter actions) := rfl
  have plain : Along step NoToggle oneFriend actions :=
    ⟨trivial, fun _ _ => ⟨trivial, fun _ _ => ⟨trivial, fun _ _ => ⟨trivial, fun _ _ =>
      trivial⟩⟩⟩⟩
  exact (lists_agree_iff_no_toggle {} _ (by decide) taken).mpr plain actions [] _
    (append_nil actions).symm taken

/-- A conversation is pinned and a contact made a favorite: the snapshot has neither, and when the
friends are pulled the favorite is gone from the view as well. -/
theorem toggles_not_in_snapshot :
    let toggled := listsAfter [.togglePinned 0, .toggleContactFavorite 0]
    let pulled := listsAfter [.togglePinned 0, .toggleContactFavorite 0,
      .handleFriendList [⟨2, "friend"⟩] true]
    toggled.client.conversationModel.map pinned = [true] ∧
      toggled.client.conversations.map pinned = [false] ∧
      toggled.contactModel.map ContactRecord.favorite = [true] ∧
      toggled.contacts.map ContactRecord.favorite = [false] ∧
      ¬ Agree toggled ∧
      pulled.contactModel.map ContactRecord.favorite = [false] := by
  refine ⟨by decide +kernel, by decide +kernel, by decide +kernel, by decide +kernel,
    fun agree => ?_, by decide +kernel⟩
  exact absurd (congrArg (map ContactRecord.favorite) agree.contacts) (by decide +kernel)

end AppLists

end Wimi.Client.Push
