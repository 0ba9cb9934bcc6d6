/-
This file proves when the reply to an application updates the entry it was made for.

`resolveRequest` remembers the position of the entry, and the entry shows in the
model behind the view that a reply is on its way; the snapshot does not have that.
When an application is pushed, the model is loaded from the snapshot again, and when
the applications are pulled, both lists are replaced. So an entry loses the sign that
its reply is on its way, and the response is written to whatever stands at the
position by then. As long as the lists are left alone while a reply is on its way,
the response finds its entry and changes nothing else.
-/

import Wimi.Client.FriendApplications
import Wimi.Client.PushReplay

namespace Wimi.Client

open Function List Option Transition RequestDesk

/-! ### Handlers -/

def RequestRecord.withStatus (status : RequestStatus) (record : RequestRecord) : RequestRecord :=
  { record with status }

open RequestRecord

namespace RequestDesk

variable (desk : RequestDesk)

def setRequestStatus (index : Nat) (status : RequestStatus) (persist written : Bool) :
    RequestDesk :=
  match desk.model[index]? with
  | none => desk
  | some record =>
    if record.status = status then desk
    else if persist ∧ index < desk.snapshot.length then
      let requests := desk.snapshot.modify index (withStatus status)
      { desk.setStatus index status with
        snapshot := requests
        table := if written then (replaceRequests requests).getD desk.table else desk.table }
    else desk.setStatus index status

def forget (requestId : String) : RequestDesk :=
  { desk with
    friendReplyRequests := update desk.friendReplyRequests requestId none }

def handleReplyResponse (requestId : String) (success written : Bool) : RequestDesk :=
  match desk.friendReplyRequests requestId with
  | none => desk
  | some encodedIndex =>
    if success then
      (desk.forget requestId).setRequestStatus (encodedIndex.natAbs - 1)
        (if 0 < encodedIndex then .accepted else .declined) true written
    else (desk.forget requestId).setRequestStatus (encodedIndex.natAbs - 1) .pending false written

def handleReplyFailure (requestId : String) (written : Bool) : RequestDesk :=
  match desk.friendReplyRequests requestId with
  | none => desk.forget requestId
  | some encodedIndex =>
    if encodedIndex ≠ 0 then
      (desk.forget requestId).setRequestStatus (encodedIndex.natAbs - 1) .pending false written
    else desk.forget requestId

def handleRequestPush (group : Bool) (packet : Push.PushedPacket) (written : Bool) : RequestDesk :=
  desk.setRequests (desk.snapshot ++ [Push.PushClient.pushedRequest group packet]) written

end RequestDesk

/-! ### Runs -/

structure PendingReply where
  requestId : String
  entryId : String
  accepted : Bool
deriving DecidableEq, Repr

structure ReplySystem where
  desk : RequestDesk := {}
  replies : List PendingReply := []

/-- What happens to the applications. A request gets an id that no other request on its way
has. -/
inductive ReplyAction where
  | resolveRequest (index : Nat) (accepted : Bool) (requestId : String) (ready : Bool)
  | response (requestId : String) (success written : Bool)
  | failure (requestId : String) (written : Bool)
  | push (group : Bool) (packet : Push.PushedPacket) (written : Bool)
  | applyList (response : FriendApplyResponse) (written : Bool)

namespace ReplySystem

def settled (system : ReplySystem) (requestId : String) : List PendingReply :=
  system.replies.filter fun reply => reply.requestId ≠ requestId

def step (system : ReplySystem) : ReplyAction → Option ReplySystem
  | .resolveRequest index accepted requestId ready =>
    if requestId ∈ system.replies.map PendingReply.requestId then none
    else if ready then
      match system.desk.model[index]?, system.desk.resolveRequest index accepted requestId with
      | some record, (desk, some _) =>
        some { desk, replies := system.replies ++ [⟨requestId, record.requestId, accepted⟩] }
      | _, (desk, _) => some { system with desk }
    else some system
  | .response requestId success written =>
    some { desk := system.desk.handleReplyResponse requestId success written,
           replies := system.settled requestId }
  | .failure requestId written =>
    some { desk := system.desk.handleReplyFailure requestId written,
           replies := system.settled requestId }
  | .push group packet written =>
    some { system with desk := system.desk.handleRequestPush group packet written }
  | .applyList response written =>
    some { system with desk := system.desk.handleFriendApplyList response written }

/-- The lists are not loaded again while a reply is on its way. -/
def Undisturbed (system : ReplySystem) : ReplyAction → Prop
  | .push .. => system.replies = []
  | .applyList response _ => response.error = .success → system.replies = []
  | .resolveRequest .. | .response .. | .failure .. => True

instance (system : ReplySystem) : ∀ action, Decidable (system.Undisturbed action)
  | .push .. => inferInstanceAs (Decidable (system.replies = []))
  | .applyList response _ =>
    inferInstanceAs (Decidable (response.error = .success → system.replies = []))
  | .resolveRequest .. | .response .. | .failure .. => isTrue trivial

end ReplySystem

open ReplySystem

/-! ### What a reply should do -/

def replyStatus (accepted : Bool) : RequestStatus := if accepted then .accepting else .declining

def repliedStatus (accepted : Bool) : RequestStatus := if accepted then .accepted else .declined

def Listed (requests : List RequestRecord) (entryId : String) : Prop :=
  ∃ record ∈ requests, record.requestId = entryId

def ShownAs (requests : List RequestRecord) (entryId : String) (status : RequestStatus) : Prop :=
  ∃ record ∈ requests, record.requestId = entryId ∧ record.status = status

instance (requests : List RequestRecord) (entryId : String) : Decidable (Listed requests entryId) :=
  inferInstanceAs (Decidable (∃ record ∈ requests, _))

instance (requests : List RequestRecord) (entryId : String) (status : RequestStatus) :
    Decidable (ShownAs requests entryId status) :=
  inferInstanceAs (Decidable (∃ record ∈ requests, _))

def OnlyChanges (entryId : String) (before after : List RequestRecord) : Prop :=
  after = before ∨ ∃ (index : Nat) (record : RequestRecord) (status : RequestStatus),
    before[index]? = some record ∧ record.requestId = entryId ∧
      after = before.modify index (withStatus status)

/-- The step changes no entry but that of the reply, which gets the status if it is listed. -/
structure Updates (reply : PendingReply) (status : RequestStatus) (before after : RequestDesk) :
    Prop where
  model : OnlyChanges reply.entryId before.model after.model
  snapshot : OnlyChanges reply.entryId before.snapshot after.snapshot
  shown : Listed before.model reply.entryId → ShownAs after.model reply.entryId status

/-! ### Positions -/

def encodedIndex (index : Nat) (accepted : Bool) : Int :=
  if accepted then (index : Int) + 1 else -((index : Int) + 1)

theorem natAbs_encodedIndex (index : Nat) (accepted : Bool) :
    (encodedIndex index accepted).natAbs - 1 = index := by
  cases accepted <;> simp only [encodedIndex] <;> grind

theorem encodedIndex_pos_iff (index : Nat) (accepted : Bool) :
    0 < encodedIndex index accepted ↔ accepted = true := by
  cases accepted <;> simp only [encodedIndex] <;> grind

theorem encodedIndex_ne_zero (index : Nat) (accepted : Bool) : encodedIndex index accepted ≠ 0 := by
  cases accepted <;> simp only [encodedIndex] <;> grind

theorem encodedIndex_inj {first second : Nat} {accepted : Bool}
    (equal : encodedIndex first accepted = encodedIndex second accepted) : first = second := by
  rw [← natAbs_encodedIndex first accepted, equal, natAbs_encodedIndex]

theorem map_requestId_modify (requests : List RequestRecord) (index : Nat)
    (status : RequestStatus) :
    (requests.modify index (withStatus status)).map requestId =
      requests.map requestId := by
  refine ext_getElem? fun other => ?_
  rw [getElem?_map, getElem?_map, getElem?_modify]
  cases requests[other]? with
  | none => rfl
  | some record =>
    split_ifs <;> rfl

theorem getElem?_modify_other {requests : List RequestRecord} {index other : Nat}
    (different : index ≠ other) (status : RequestStatus) :
    (requests.modify index (withStatus status))[other]? = requests[other]? :=
  getElem?_modify_ne _ _ different

theorem getElem?_modify_self {requests : List RequestRecord} {index : Nat} {record : RequestRecord}
    (found : requests[index]? = some record) (status : RequestStatus) :
    (requests.modify index (withStatus status))[index]? =
      some (record.withStatus status) := by
  rw [getElem?_modify_eq, found]
  rfl

namespace RequestDesk

variable {desk : RequestDesk} {index : Nat} {record : RequestRecord} {status : RequestStatus}

theorem setRequestStatus_friendReplyRequests (desk : RequestDesk) (index : Nat)
    (status : RequestStatus) (persist written : Bool) :
    (desk.setRequestStatus index status persist written).friendReplyRequests =
      desk.friendReplyRequests := by
  simp only [setRequestStatus]
  split
  · rfl
  · split_ifs <;> rfl

theorem setRequestStatus_model (found : desk.model[index]? = some record)
    (other : record.status ≠ status) (persist written : Bool) :
    (desk.setRequestStatus index status persist written).model =
      desk.model.modify index (withStatus status) := by
  simp only [setRequestStatus, found, if_neg other]
  split_ifs <;> rfl

theorem setRequestStatus_snapshot (desk : RequestDesk) (index : Nat) (status : RequestStatus)
    (persist written : Bool) :
    (desk.setRequestStatus index status persist written).snapshot = desk.snapshot ∨
      index < desk.snapshot.length ∧
        (desk.setRequestStatus index status persist written).snapshot =
          desk.snapshot.modify index (withStatus status) := by
  simp only [setRequestStatus]
  split
  · exact .inl rfl
  split
  · exact .inl rfl
  split
  · rename_i stored
    exact .inr ⟨stored.2, rfl⟩
  · exact .inl rfl

end RequestDesk

/-! ### The invariant -/

structure Placed (desk : RequestDesk) (reply : PendingReply) (index : Nat) : Prop where
  remembered : desk.friendReplyRequests reply.requestId =
    some (encodedIndex index reply.accepted)
  entry : ∃ record, desk.model[index]? = some record ∧ record.requestId = reply.entryId ∧
    record.status = replyStatus reply.accepted

structure ReplySound (system : ReplySystem) : Prop where
  same : system.desk.model.map requestId =
    system.desk.snapshot.map requestId
  distinct : (system.replies.map PendingReply.requestId).Nodup
  placed : ∀ reply ∈ system.replies, ∃ index, Placed system.desk reply index
  apart : ∀ first ∈ system.replies, ∀ second ∈ system.replies, ∀ index,
    Placed system.desk first index → Placed system.desk second index → first = second
  known : ∀ requestId encoded, system.desk.friendReplyRequests requestId = some encoded →
    requestId ∈ system.replies.map PendingReply.requestId

theorem replyStatus_ne {accepted : Bool} {status : RequestStatus}
    (settled : status = .accepted ∨ status = .declined ∨ status = .pending) :
    replyStatus accepted ≠ status := by
  cases accepted <;> obtain rfl | rfl | rfl := settled <;> decide

namespace ReplySound

variable {system : ReplySystem}

theorem forgotten (sound : ReplySound system) {requestId : String}
    (absent : requestId ∉ system.replies.map PendingReply.requestId) :
    system.desk.friendReplyRequests requestId = none := by
  cases remembered : system.desk.friendReplyRequests requestId with
  | none => rfl
  | some encoded => exact absurd (sound.known requestId encoded remembered) absent

theorem settled_of_absent {requestId : String}
    (absent : requestId ∉ system.replies.map PendingReply.requestId) :
    system.settled requestId = system.replies := by
  rw [settled, filter_eq_self]
  intro reply member
  exact decide_eq_true fun equal => absent (equal ▸ mem_map_of_mem member)

theorem mem_settled {requestId : String} {reply : PendingReply} :
    reply ∈ system.settled requestId ↔ reply ∈ system.replies ∧ reply.requestId ≠ requestId := by
  simp [settled]

section Settle

variable {reply : PendingReply} {index : Nat} {status : RequestStatus} (persist written : Bool)

def settledDesk (desk : RequestDesk) (reply : PendingReply) (index : Nat) (status : RequestStatus)
    (persist written : Bool) : RequestDesk :=
  (desk.forget reply.requestId).setRequestStatus index status persist written

theorem settledDesk_friendReplyRequests (desk : RequestDesk) (reply : PendingReply) (index : Nat)
    (status : RequestStatus) (persist written : Bool) :
    (settledDesk desk reply index status persist written).friendReplyRequests =
      update desk.friendReplyRequests reply.requestId none :=
  setRequestStatus_friendReplyRequests _ index status persist written

theorem settledDesk_model (placed : Placed system.desk reply index)
    (final : status = .accepted ∨ status = .declined ∨ status = .pending) :
    (settledDesk system.desk reply index status persist written).model =
      system.desk.model.modify index (withStatus status) := by
  obtain ⟨record, found, -, shown⟩ := placed.entry
  have same : (system.desk.forget reply.requestId).model[index]? = some record := found
  have other : record.status ≠ status := shown ▸ replyStatus_ne final
  exact setRequestStatus_model same other persist written

/-- The other replies keep their place. -/
theorem placed_settled_iff (sound : ReplySound system) (member : reply ∈ system.replies)
    (placed : Placed system.desk reply index)
    (final : status = .accepted ∨ status = .declined ∨ status = .pending) {other : PendingReply}
    (otherMember : other ∈ system.replies) (different : other.requestId ≠ reply.requestId)
    (place : Nat) :
    Placed (settledDesk system.desk reply index status persist written) other place ↔
      Placed system.desk other place := by
  have remembered : (settledDesk system.desk reply index status persist
      written).friendReplyRequests other.requestId =
        system.desk.friendReplyRequests other.requestId := by
    rw [settledDesk_friendReplyRequests, update_of_ne different]
  obtain ⟨record, found, named, shown⟩ := placed.entry
  by_cases here : index = place
  · -- At the place of the reply there is no other, before and after.
    subst here
    constructor
    · intro moved
      obtain ⟨after, present, -, waiting⟩ := moved.entry
      rw [settledDesk_model persist written placed final, getElem?_modify_self found] at present
      obtain rfl := some.inj present
      exact absurd waiting.symm (replyStatus_ne final)
    intro kept
    exact absurd (congrArg PendingReply.requestId
      (sound.apart other otherMember reply member index kept placed)) different
  have elsewhere : (settledDesk system.desk reply index status persist written).model[place]? =
      system.desk.model[place]? := by
    rw [settledDesk_model persist written placed final, getElem?_modify_other here]
  constructor
  · intro moved
    exact ⟨remembered ▸ moved.remembered, elsewhere ▸ moved.entry⟩
  · intro kept
    exact ⟨remembered.trans kept.remembered, elsewhere.symm ▸ kept.entry⟩

theorem updates_settled (sound : ReplySound system) (placed : Placed system.desk reply index)
    (final : status = .accepted ∨ status = .declined ∨ status = .pending) :
    Updates reply status system.desk
      (settledDesk system.desk reply index status persist written) := by
  obtain ⟨record, found, named, shown⟩ := placed.entry
  refine ⟨.inr ⟨index, record, status, found, named,
    settledDesk_model persist written placed final⟩, ?_, ?_⟩
  · obtain kept | ⟨inside, changed⟩ := setRequestStatus_snapshot
      (system.desk.forget reply.requestId) index status persist written
    · exact .inl kept
    obtain ⟨stored, present⟩ : ∃ stored, system.desk.snapshot[index]? = some stored :=
      ⟨_, getElem?_eq_getElem inside⟩
    have same := congrArg (fun entries => entries[index]?) sound.same
    simp only [getElem?_map, found, present, map_some, some.injEq] at same
    exact .inr ⟨index, stored, status, present, same.symm.trans named, changed⟩
  intro _
  refine ⟨record.withStatus status, ?_, named, rfl⟩
  rw [settledDesk_model persist written placed final]
  exact mem_of_getElem? (getElem?_modify_self found status)

theorem settle (sound : ReplySound system) (member : reply ∈ system.replies)
    (placed : Placed system.desk reply index)
    (final : status = .accepted ∨ status = .declined ∨ status = .pending) :
    ReplySound { desk := settledDesk system.desk reply index status persist written,
                 replies := system.settled reply.requestId } where
  same := by
    rw [settledDesk_model persist written placed final, map_requestId_modify]
    obtain kept | ⟨-, changed⟩ := setRequestStatus_snapshot
      (system.desk.forget reply.requestId) index status persist written
    · rw [settledDesk, kept]
      exact sound.same
    · rw [settledDesk, changed, map_requestId_modify]
      exact sound.same
  distinct := sound.distinct.sublist (filter_sublist.map _)
  placed := by
    intro other remains
    obtain ⟨present, different⟩ := mem_settled.mp remains
    obtain ⟨place, kept⟩ := sound.placed other present
    exact ⟨place, (sound.placed_settled_iff persist written member placed final present different
      place).mpr kept⟩
  apart := by
    intro first firstRemains second secondRemains place firstPlaced secondPlaced
    obtain ⟨firstPresent, firstDifferent⟩ := mem_settled.mp firstRemains
    obtain ⟨secondPresent, secondDifferent⟩ := mem_settled.mp secondRemains
    exact sound.apart first firstPresent second secondPresent place
      ((sound.placed_settled_iff persist written member placed final firstPresent firstDifferent
        place).mp firstPlaced)
      ((sound.placed_settled_iff persist written member placed final secondPresent secondDifferent
        place).mp secondPlaced)
  known := by
    intro requestId encoded remembered
    rw [settledDesk_friendReplyRequests, update_apply] at remembered
    split_ifs at remembered with equal
    obtain ⟨other, present, named⟩ := mem_map.mp (sound.known requestId encoded remembered)
    exact mem_map.mpr ⟨other, mem_settled.mpr ⟨present, named ▸ equal⟩, named⟩

end Settle

section

variable {reply : PendingReply} {index : Nat} (placed : Placed system.desk reply index)
include placed

/-- The response to a reply settles it, as the server took it or not. -/
theorem handleReplyResponse_eq (success written : Bool) :
    system.desk.handleReplyResponse reply.requestId success written =
      settledDesk system.desk reply index
        (if success then repliedStatus reply.accepted else .pending) success written := by
  simp only [handleReplyResponse, placed.remembered, natAbs_encodedIndex,
    encodedIndex_pos_iff]
  cases success <;> rfl

theorem handleReplyFailure_eq (written : Bool) :
    system.desk.handleReplyFailure reply.requestId written =
      settledDesk system.desk reply index .pending false written := by
  simp only [handleReplyFailure, placed.remembered, natAbs_encodedIndex]
  exact if_pos (encodedIndex_ne_zero index reply.accepted)

end

theorem response_final (accepted success : Bool) :
    (if success then repliedStatus accepted else .pending) = .accepted ∨
      (if success then repliedStatus accepted else .pending) = .declined ∨
      (if success then repliedStatus accepted else .pending) = .pending := by
  cases accepted <;> cases success <;> decide

theorem response (sound : ReplySound system) (requestId : String) (success written : Bool) :
    ReplySound { desk := system.desk.handleReplyResponse requestId success written,
                 replies := system.settled requestId } := by
  by_cases present : requestId ∈ system.replies.map PendingReply.requestId
  · obtain ⟨reply, member, rfl⟩ := mem_map.mp present
    obtain ⟨index, placed⟩ := sound.placed reply member
    rw [handleReplyResponse_eq placed]
    exact sound.settle success written member placed (response_final reply.accepted success)
  · rw [settled_of_absent present, handleReplyResponse, sound.forgotten present]
    exact sound

theorem failure (sound : ReplySound system) (requestId : String) (written : Bool) :
    ReplySound { desk := system.desk.handleReplyFailure requestId written,
                 replies := system.settled requestId } := by
  by_cases present : requestId ∈ system.replies.map PendingReply.requestId
  · obtain ⟨reply, member, rfl⟩ := mem_map.mp present
    obtain ⟨index, placed⟩ := sound.placed reply member
    rw [handleReplyFailure_eq placed]
    exact sound.settle false written member placed (.inr (.inr rfl))
  have same : system.desk.forget requestId = system.desk := by
    have kept : update system.desk.friendReplyRequests requestId none =
        system.desk.friendReplyRequests := by
      rw [← sound.forgotten present, update_eq_self]
    rw [forget, kept]
  rw [settled_of_absent present, handleReplyFailure, sound.forgotten present]
  rw [same]
  exact sound

theorem setRequests (sound : ReplySound system) (quiet : system.replies = [])
    (requests : List RequestRecord) (written : Bool) :
    ReplySound { system with desk := system.desk.setRequests requests written } where
  same := rfl
  distinct := sound.distinct
  placed := by
    intro reply member
    rw [quiet] at member
    cases member
  apart := by
    intro reply member
    rw [quiet] at member
    cases member
  known := sound.known

/-! ### A new reply -/

section Resolve

variable {index : Nat} {record : RequestRecord} {accepted : Bool} {requestId : String}

def startedDesk (desk : RequestDesk) (index : Nat) (accepted : Bool) (requestId : String) :
    RequestDesk :=
  { desk with
    friendReplyRequests := update desk.friendReplyRequests requestId
      (some (encodedIndex index accepted)) }.setStatus index (replyStatus accepted)

theorem resolveRequest_cases (desk : RequestDesk) (index : Nat) (accepted : Bool)
    (requestId : String) :
    (∃ record reply, desk.model[index]? = some record ∧ record.status = .pending ∧
      desk.resolveRequest index accepted requestId =
        (startedDesk desk index accepted requestId, some reply)) ∨
    desk.resolveRequest index accepted requestId = (desk, none) := by
  simp only [resolveRequest]
  split
  · exact .inr rfl
  rename_i record found
  split
  · exact .inr rfl
  rename_i pending
  split
  · exact .inr rfl
  · exact .inl ⟨record, _, found, not_not.mp pending, rfl⟩

theorem placed_started_iff (sound : ReplySound system)
    (found : system.desk.model[index]? = some record) (pending : record.status = .pending)
    {other : PendingReply} (member : other ∈ system.replies)
    (different : other.requestId ≠ requestId) (place : Nat) :
    Placed (startedDesk system.desk index accepted requestId) other place ↔
      Placed system.desk other place := by
  -- The entry of the other reply shows that its reply is on its way, so it is not this one.
  obtain ⟨kept, placed⟩ := sound.placed other member
  have away : index ≠ kept := by
    rintro rfl
    obtain ⟨entry, present, -, waiting⟩ := placed.entry
    rw [found] at present
    obtain rfl := some.inj present
    exact replyStatus_ne (.inr (.inr rfl)) (waiting.symm.trans pending)
  have remembered : (startedDesk system.desk index accepted requestId).friendReplyRequests
      other.requestId = system.desk.friendReplyRequests other.requestId :=
    update_of_ne different _ _
  have elsewhere : (startedDesk system.desk index accepted requestId).model[kept]? =
      system.desk.model[kept]? := getElem?_modify_other away (replyStatus accepted)
  constructor
  · intro moved
    have same := (remembered.symm.trans moved.remembered).symm.trans placed.remembered
    obtain rfl := encodedIndex_inj (some.inj same)
    exact placed
  intro here
  obtain rfl := encodedIndex_inj
    (some.inj (here.remembered.symm.trans placed.remembered))
  exact ⟨remembered.trans here.remembered, elsewhere.symm ▸ here.entry⟩

theorem resolve (sound : ReplySound system)
    (fresh : requestId ∉ system.replies.map PendingReply.requestId)
    (found : system.desk.model[index]? = some record) (pending : record.status = .pending) :
    ReplySound { desk := startedDesk system.desk index accepted requestId,
                 replies := system.replies ++ [⟨requestId, record.requestId, accepted⟩] } := by
  have different : ∀ other ∈ system.replies, other.requestId ≠ requestId :=
    fun other member equal => fresh (equal ▸ mem_map_of_mem member)
  have here : Placed (startedDesk system.desk index accepted requestId)
      ⟨requestId, record.requestId, accepted⟩ index :=
    ⟨update_self _ _ _, record.withStatus (replyStatus accepted),
      getElem?_modify_self found _, rfl, rfl⟩
  have away : ∀ other ∈ system.replies,
      ¬ Placed (startedDesk system.desk index accepted requestId) other index := by
    intro other member moved
    obtain ⟨entry, present, -, waiting⟩ :=
      ((sound.placed_started_iff found pending member (different other member) index).mp
        moved).entry
    rw [found] at present
    obtain rfl := some.inj present
    exact replyStatus_ne (.inr (.inr rfl)) (waiting.symm.trans pending)
  constructor
  · exact (map_requestId_modify _ _ _).trans sound.same
  · rw [map_append]
    exact nodup_append_comm.mp (nodup_cons.mpr ⟨fresh, sound.distinct⟩)
  · rw [forall_mem_append, forall_mem_singleton]
    refine ⟨fun other member => ?_, index, here⟩
    obtain ⟨place, kept⟩ := sound.placed other member
    exact ⟨place, (sound.placed_started_iff found pending member (different other member)
      place).mpr kept⟩
  · have only : ∀ place, Placed (startedDesk system.desk index accepted requestId)
        ⟨requestId, record.requestId, accepted⟩ place → place = index := fun place moved =>
      encodedIndex_inj (some.inj (moved.remembered.symm.trans here.remembered))
    intro first firstMember second secondMember place firstPlaced secondPlaced
    obtain firstOld | firstNew := mem_append.mp firstMember
    · obtain secondOld | secondNew := mem_append.mp secondMember
      · exact sound.apart first firstOld second secondOld place
          ((sound.placed_started_iff found pending firstOld (different first firstOld) place).mp
            firstPlaced)
          ((sound.placed_started_iff found pending secondOld (different second secondOld) place).mp
            secondPlaced)
      · grind
    · grind
  intro other encoded remembered
  rw [map_append, mem_append]
  by_cases equal : other = requestId
  · exact .inr (mem_singleton.mpr equal)
  refine .inl (sound.known other encoded ?_)
  rw [← remembered]
  exact (update_of_ne equal _ _).symm

end Resolve

/-- A step that does not load the lists while a reply is on its way keeps the invariant. -/
theorem step (sound : ReplySound system) {action : ReplyAction} {next : ReplySystem}
    (quiet : system.Undisturbed action) (taken : system.step action = some next) :
    ReplySound next := by
  cases action with
  | resolveRequest index accepted requestId ready =>
    simp only [ReplySystem.step] at taken
    split_ifs at taken with used
    · obtain ⟨record, reply, found, pending, resolved⟩ | ignored :=
        resolveRequest_cases system.desk index accepted requestId
      · rw [found, resolved] at taken
        obtain rfl := some.inj taken
        exact sound.resolve used found pending
      rw [ignored] at taken
      cases entry : system.desk.model[index]? with
      | none | some record =>
        rw [entry] at taken
        obtain rfl := some.inj taken
        exact sound
    · obtain rfl := some.inj taken
      exact sound
  | response requestId success written =>
    obtain rfl := some.inj taken
    exact sound.response requestId success written
  | failure requestId written =>
    obtain rfl := some.inj taken
    exact sound.failure requestId written
  | push group packet written =>
    obtain rfl := some.inj taken
    exact sound.setRequests quiet _ written
  | applyList response written =>
    obtain rfl := some.inj taken
    simp only [handleFriendApplyList]
    split_ifs with failed
    · exact sound
    · exact sound.setRequests (quiet (not_not.mp failed)) _ written

end ReplySound

/-! ### Runs -/

/-- Every run from lists that agree with no reply on its way, in which the lists are not loaded
again while one is: the entry of every reply on its way shows it, the response to a reply
changes no entry but its own, which it makes accepted or declined, or pending if the server did
not take it, and so does a failure. -/
theorem reply_updates_its_request {start final : ReplySystem} {actions : List ReplyAction}
    (agree : start.desk.model = start.desk.snapshot) (idle : start.replies = [])
    (forgotten : ∀ requestId, start.desk.friendReplyRequests requestId = none)
    (quiet : Along step ReplySystem.Undisturbed start actions)
    (taken : run step start actions = some final) :
    ∀ reply ∈ final.replies,
      (Listed final.desk.model reply.entryId →
        ShownAs final.desk.model reply.entryId (replyStatus reply.accepted)) ∧
      (∀ success written, Updates reply
        (if success then repliedStatus reply.accepted else .pending) final.desk
        (final.desk.handleReplyResponse reply.requestId success written)) ∧
      ∀ written, Updates reply .pending final.desk
        (final.desk.handleReplyFailure reply.requestId written) := by
  have initial : ReplySound start := by
    constructor
    · rw [agree]
    · rw [idle]
      exact nodup_nil
    · rw [idle]
      exact fun reply member => absurd member not_mem_nil
    · rw [idle]
      exact fun reply member => absurd member not_mem_nil
    · intro requestId encoded remembered
      rw [forgotten] at remembered
      cases remembered
  have sound : ReplySound final :=
    run_invariant_along ReplySound ReplySystem.Undisturbed
      (fun _ _ _ sound quiet taken => sound.step quiet taken) initial quiet taken
  intro reply member
  obtain ⟨index, placed⟩ := sound.placed reply member
  refine ⟨fun _ => ?_, fun success written => ?_, fun written => ?_⟩
  · obtain ⟨record, found, named, waiting⟩ := placed.entry
    exact ⟨record, mem_of_getElem? found, named, waiting⟩
  · rw [ReplySound.handleReplyResponse_eq placed]
    exact sound.updates_settled success written placed
      (ReplySound.response_final reply.accepted success)
  · rw [ReplySound.handleReplyFailure_eq placed]
    exact sound.updates_settled false written placed (.inr (.inr rfl))

def applicationOf (uid : Nat) : RequestRecord :=
  friendRequest { fromUid := uid, toUid := 1, status := .wait, content := "hello",
                  applyDateTime := "2026-01-01 10:00:00" }

def twoApplications : ReplySystem where
  desk :=
    { snapshot := [applicationOf 2, applicationOf 3], model := [applicationOf 2, applicationOf 3] }

def repliesAfter (actions : List ReplyAction) : ReplySystem :=
  (run step twoApplications actions).getD twoApplications

/-- Two replies on their way at once: the response to the second changes the second entry. -/
theorem reply_updates_its_request_second :
    let actions : List ReplyAction :=
      [.resolveRequest 0 true "first" true, .resolveRequest 1 false "second" true]
    Updates ⟨"second", "3", false⟩ .declined (repliesAfter actions).desk
      ((repliesAfter actions).desk.handleReplyResponse "second" true true) := by
  intro actions
  have taken : run step twoApplications actions =
      some (repliesAfter actions) := rfl
  have member : (⟨"second", "3", false⟩ : PendingReply) ∈ (repliesAfter actions).replies := by
    decide +kernel
  exact (reply_updates_its_request rfl rfl (fun _ => rfl) (by decide +kernel) taken _ member).2.1
    true true

/-- The list is pulled while the reply to the first entry is on its way, and the first entry is
gone: the response makes the other entry accepted. And an application that is pushed takes the
sign off an entry whose reply is on its way. -/
theorem reply_updates_other_request :
    let pulled : FriendApplyResponse :=
      { error := .success,
        applyList := [{ fromUid := 3, toUid := 1, status := .wait, content := "hello",
                        applyDateTime := "2026-01-01 10:00:00" }] }
    let replaced := repliesAfter [.resolveRequest 0 true "first" true, .applyList pulled true]
    let pushed := repliesAfter [.resolveRequest 0 true "first" true,
      .push false { fromUid := 4, data := "", requestMessage := "hello" } true]
    (replaced.replies = [⟨"first", "2", true⟩] ∧
      replaced.desk.model = [applicationOf 3] ∧
      (replaced.desk.handleReplyResponse "first" true true).model =
        [(applicationOf 3).withStatus .accepted] ∧
      ¬ Updates ⟨"first", "2", true⟩ .accepted replaced.desk
        (replaced.desk.handleReplyResponse "first" true true)) ∧
    pushed.replies = [⟨"first", "2", true⟩] ∧
      Listed pushed.desk.model "2" ∧ ¬ ShownAs pushed.desk.model "2" .accepting := by
  intro pulled replaced pushed
  have before : replaced.desk.model = [applicationOf 3] := by decide +kernel
  have after : (replaced.desk.handleReplyResponse "first" true true).model =
      [(applicationOf 3).withStatus .accepted] := by decide +kernel
  refine ⟨⟨by decide +kernel, before, after, fun updates => ?_⟩, by decide +kernel,
    by decide +kernel, by decide +kernel⟩
  have changes := updates.model
  obtain same | ⟨index, record, status, found, named, -⟩ := changes
  · exact absurd same (by decide +kernel)
  · have only : record = applicationOf 3 := mem_singleton.mp (mem_of_getElem? found)
    rw [only] at named
    exact absurd named (by decide +kernel)

end Wimi.Client
