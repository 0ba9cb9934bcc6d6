/-
This file follows a friend application from the table of the server to the list of
the client that is asked: `PullFriendApplyList`, the response, the list, and the reply
that the user sends from it.

An application is stored in both directions so that both sides can find it. The query
selects the rows that start with the caller, and the client takes the first user of
each row for the applicant, which is the caller itself. So the list is right exactly
when it has nothing to show and nothing to leave out.
-/

import Wimi.Protocol
import Wimi.Server.Friends
import Wimi.Client.Requests

namespace Wimi.Client

open Function List Transition Wimi.Server

/-! ### The response -/

/-- A number of the tables in an `int64` field of a packet. -/
@[irreducible] def int64 (value : Nat) : Int := Int.bmod value (2 ^ 64)

structure FriendApplyItem where
  fromUid : Int
  toUid : Int
  status : ApplyStatus
  content : String
  applyDateTime : String
deriving DecidableEq, Repr

structure FriendApplyResponse where
  error : ErrorCode
  applyList : List FriendApplyItem
deriving DecidableEq, Repr

def getFriendApplyList (friendApplys : List FriendApplyRow) (uid : Nat) : List FriendApplyRow :=
  friendApplys.filter fun row => row.status = .wait ∧ row.fromUid = uid

def applyItem (row : FriendApplyRow) : FriendApplyItem where
  fromUid := int64 row.fromUid
  toUid := int64 row.toUid
  status := row.status
  content := row.content
  applyDateTime := row.createTime

/-- `PullFriendApplyList`. A query that fails gives the same empty success as one without
rows. -/
def pullFriendApplyList (friendApplys : List FriendApplyRow) (uid : Nat) (failed : Bool) :
    FriendApplyResponse where
  error := .success
  applyList := if failed then [] else (getFriendApplyList friendApplys uid).map applyItem

def requestStatus : ApplyStatus → RequestStatus
  | .wait => .pending
  | .agree => .accepted
  | .refuse => .declined

def friendRequest (item : FriendApplyItem) : RequestRecord where
  requestId := toString item.fromUid
  displayName := "用户 " ++ toString item.fromUid
  message := item.content
  avatarColor := "#367A91"
  kind := .friend
  status := requestStatus item.status

def RequestDesk.handleFriendApplyList (desk : RequestDesk) (response : FriendApplyResponse)
    (written : Bool) : RequestDesk :=
  if response.error ≠ .success then desk
  else desk.setRequests (response.applyList.map friendRequest) written

/-! ### What the list should be -/

def AppliesTo (uid : Nat) (row : FriendApplyRow) : Prop :=
  row.status = .wait ∧ row.toUid = uid ∧ row.applicant = row.fromUid

instance (uid : Nat) : DecidablePred (AppliesTo uid) :=
  fun _ => inferInstanceAs (Decidable (_ ∧ _))

def applicants (friendApplys : List FriendApplyRow) (uid : Nat) : List String :=
  (friendApplys.filter fun row => AppliesTo uid row).map fun row => toString (int64 row.fromUid)

/-- After the response the list has one entry for each application to the user, under the id of
the applicant, and no other; the reply to an entry goes to its applicant; and the list can be
written. -/
structure ListsApplications (friendApplys : List FriendApplyRow) (uid : Nat)
    (desk : RequestDesk) : Prop where
  entries : (desk.snapshot.map RequestRecord.requestId).Perm (applicants friendApplys uid)
  replies : ∀ index record accepted requestId, desk.model[index]? = some record →
    ∃ row ∈ friendApplys, AppliesTo uid row ∧
      (desk.resolveRequest index accepted requestId).2 =
        some (.friendRequest (int64 row.fromUid) accepted)
  keys : (replaceRequests desk.snapshot).isSome

/-! ### Users apply to others -/

def DistinctUsers : FriendAction → Prop
  | .notifyAddFriend _ uid toUid _ => sizeT uid ≠ sizeT toUid
  | _ => True

instance : DecidablePred DistinctUsers
  | .notifyAddFriend _ _ _ _ => inferInstanceAs (Decidable (_ ≠ _))
  | .replyAddFriend _ _ _ _ _ _ _ => isTrue trivial
  | .statement _ => isTrue trivial

def Separate (first second : Nat) : Prop := first ≠ second ∧ first < 2 ^ 64 ∧ second < 2 ^ 64

theorem Separate.symm {first second : Nat} (separate : Separate first second) :
    Separate second first := ⟨separate.1.symm, separate.2.2, separate.2.1⟩

structure RowsSeparate (system : FriendSystem) : Prop where
  rows : ∀ row ∈ system.friendApplys, Separate row.fromUid row.toUid
  applying : ∀ index call, system.calls index = some call → Applying call →
    Separate call.uid call.toUid

theorem sizeT_lt (value : Int) : sizeT value < 2 ^ 64 := by
  unfold sizeT
  omega

namespace RowsSeparate

variable {system : FriendSystem} {index : Nat} {call : FriendCall}

theorem update (sound : RowsSeparate system) {next : FriendSystem}
    (calls : next.calls = update system.calls index (some call))
    (rows : ∀ row ∈ next.friendApplys, Separate row.fromUid row.toUid)
    (applying : Applying call → Separate call.uid call.toUid) : RowsSeparate next where
  rows := rows
  applying other found lookup applies := by
    rw [calls] at lookup
    rcases update_eq_some lookup with ⟨_, rfl⟩ | ⟨_, earlier⟩
    · exact applying applies
    · exact sound.applying other found earlier applies

theorem step {next : FriendSystem} (action : FriendAction) (sound : RowsSeparate system)
    (distinct : DistinctUsers action) (taken : friendStep system action = some next) :
    RowsSeparate next := by
  cases friendStep_outcome taken with
  | notified call free users phase =>
    refine sound.update rfl sound.rows fun _ => ?_
    rw [users.1, users.2]
    exact ⟨distinct, sizeT_lt _, sizeT_lt _⟩
  | @replied index uid toUid accept _ _ _ call free users phase =>
    refine sound.update rfl sound.rows fun applies => ?_
    rw [Applying, phase] at applies
    cases accept <;> rcases applies with wrong | wrong <;> cases wrong
  | inserted | mirrored =>
    refine sound.update rfl sound.rows fun applies => ?_
    rcases applies with wrong | wrong <;> cases wrong
  | @passed index call rows phase present quiet duplicate origin applying =>
    refine sound.update rfl (fun row member => ?_)
      fun applies => sound.applying index call present (applying applies)
    rcases origin row member with ⟨old, kept, sameFrom, sameTo, _⟩ | ⟨applies, _, users⟩
    · rw [sameFrom, sameTo]
      exact sound.rows old kept
    have separate := sound.applying index call present applies
    rcases users with ⟨sameFrom, sameTo⟩ | ⟨sameFrom, sameTo⟩
    · rw [sameFrom, sameTo]
      exact separate
    · rw [sameFrom, sameTo]
      exact separate.symm

theorem run {actions : List FriendAction} {final : FriendSystem}
    (distinct : ∀ action ∈ actions, DistinctUsers action)
    (taken : run friendStep {} actions = some final) : RowsSeparate final :=
  run_invariant_along RowsSeparate (fun _ => DistinctUsers)
    (fun _ action _ sound distinct taken => sound.step action distinct taken)
    { rows := forall_mem_nil _, applying := fun _ _ present => by cases present }
    (along_of_forall distinct) taken

end RowsSeparate

/-! ### When the list is right -/

theorem bmod_injective {modulus first second : Nat} (firstBound : first < modulus)
    (secondBound : second < modulus)
    (equal : Int.bmod first modulus = Int.bmod second modulus) : first = second := by
  have residues : (first : Int) % modulus = (second : Int) % modulus := by
    rw [← Int.bmod_emod, equal, Int.bmod_emod]
  rw [← Int.natCast_mod, ← Int.natCast_mod, Nat.mod_eq_of_lt firstBound,
    Nat.mod_eq_of_lt secondBound] at residues
  exact Int.ofNat_inj.mp residues

theorem toString_int64_injective {first second : Nat} (firstBound : first < 2 ^ 64)
    (secondBound : second < 2 ^ 64) (equal : toString (int64 first) = toString (int64 second)) :
    first = second := by
  have same := Int.repr_injective equal
  unfold int64 at same
  exact bmod_injective firstBound secondBound same

theorem snapshot_handleFriendApplyList (friendApplys : List FriendApplyRow) (uid : Nat)
    (failed written : Bool) (desk : RequestDesk) :
    (desk.handleFriendApplyList (pullFriendApplyList friendApplys uid failed) written).snapshot =
      if failed then [] else
        ((getFriendApplyList friendApplys uid).map applyItem).map friendRequest := by
  cases failed <;> rfl

theorem model_handleFriendApplyList (friendApplys : List FriendApplyRow) (uid : Nat)
    (failed written : Bool) (desk : RequestDesk) :
    (desk.handleFriendApplyList (pullFriendApplyList friendApplys uid failed) written).model =
      (desk.handleFriendApplyList (pullFriendApplyList friendApplys uid failed) written).snapshot :=
  rfl

theorem requestId_friendRequest (row : FriendApplyRow) :
    (friendRequest (applyItem row)).requestId = toString (int64 row.fromUid) := by
  rw [friendRequest, applyItem]

theorem requestId_mem_iff {friendApplys : List FriendApplyRow} {uid : Nat} {failed written : Bool}
    {desk : RequestDesk} {requestId : String} :
    requestId ∈ (desk.handleFriendApplyList (pullFriendApplyList friendApplys uid failed)
        written).snapshot.map RequestRecord.requestId ↔
      failed = false ∧ requestId = toString (int64 uid) ∧
        ∃ row ∈ friendApplys, row.status = .wait ∧ row.fromUid = uid := by
  rw [snapshot_handleFriendApplyList]
  cases failed with
  | true => simp
  | false =>
    constructor
    · intro listed
      obtain ⟨record, inList, rfl⟩ := mem_map.mp listed
      obtain ⟨item, isItem, rfl⟩ := mem_map.mp inList
      obtain ⟨row, selected, rfl⟩ := mem_map.mp isItem
      obtain ⟨member, holds⟩ := mem_filter.mp selected
      obtain ⟨waits, starts⟩ := of_decide_eq_true holds
      exact ⟨rfl, by rw [requestId_friendRequest, starts], row, member, waits, starts⟩
    rintro ⟨_, rfl, row, member, waits, starts⟩
    have selected : row ∈ getFriendApplyList friendApplys uid :=
      mem_filter.mpr ⟨member, decide_eq_true ⟨waits, starts⟩⟩
    rw [← starts]
    exact mem_map_of_mem (mem_map_of_mem (mem_map_of_mem (starts ▸ selected)))

theorem mem_applicants_iff {friendApplys : List FriendApplyRow} {uid : Nat} {requestId : String} :
    requestId ∈ applicants friendApplys uid ↔
      ∃ row ∈ friendApplys, AppliesTo uid row ∧ requestId = toString (int64 row.fromUid) := by
  simp only [applicants, mem_map, mem_filter, decide_eq_true_eq, and_assoc,
    eq_comm (a := requestId)]

/-- After every run of applications between different users, the list of a user is right exactly
when no application to the user waits and, unless the query fails, no waiting row starts with
the user, be it of the user's own application or the second row of another's. -/
theorem friend_applications_listed_iff {actions : List FriendAction} {final : FriendSystem}
    (distinct : ∀ action ∈ actions, DistinctUsers action)
    (taken : run friendStep {} actions = some final) (uid : Int)
    (failed written : Bool) (desk : RequestDesk) :
    ListsApplications final.friendApplys (sizeT uid)
        (desk.handleFriendApplyList
          (pullFriendApplyList final.friendApplys (sizeT uid) failed) written) ↔
      ∀ row ∈ final.friendApplys, row.status = .wait →
        ¬ (row.toUid = sizeT uid ∧ row.applicant = row.fromUid) ∧
          (failed = false → row.fromUid ≠ sizeT uid) := by
  have separate := (RowsSeparate.run distinct taken).rows
  constructor
  · intro lists row member waits
    refine ⟨fun applies => ?_, fun succeeded starts => ?_⟩
    · have applicant := mem_applicants_iff.mpr ⟨row, member, ⟨waits, applies⟩, rfl⟩
      obtain ⟨_, same, _⟩ := requestId_mem_iff.mp (lists.entries.mem_iff.mpr applicant)
      obtain ⟨different, bound, _⟩ := separate row member
      exact different ((toString_int64_injective bound (sizeT_lt uid) same).trans applies.1.symm)
    · have entry := (@requestId_mem_iff final.friendApplys (sizeT uid) failed written desk _).mpr
        ⟨succeeded, rfl, row, member, waits, starts⟩
      obtain ⟨other, stored, applies, same⟩ :=
        mem_applicants_iff.mp (lists.entries.mem_iff.mp entry)
      obtain ⟨different, bound, _⟩ := separate other stored
      exact different
        ((toString_int64_injective (sizeT_lt uid) bound same).symm.trans applies.2.1.symm)
  · intro quiet
    have noApplicant : applicants final.friendApplys (sizeT uid) = [] := by
      refine eq_nil_iff_forall_not_mem.mpr fun requestId listed => ?_
      obtain ⟨row, member, applies, _⟩ := mem_applicants_iff.mp listed
      exact (quiet row member applies.1).1 applies.2
    have noEntry : (desk.handleFriendApplyList
        (pullFriendApplyList final.friendApplys (sizeT uid) failed) written).snapshot = [] := by
      refine (@List.map_eq_nil_iff _ _ RequestRecord.requestId _).mp
        (eq_nil_iff_forall_not_mem.mpr fun requestId listed => ?_)
      obtain ⟨succeeded, _, row, member, waits, starts⟩ := requestId_mem_iff.mp listed
      exact (quiet row member waits).2 succeeded starts
    refine ⟨?_, fun index record accepted requestId shown => ?_, ?_⟩
    · rw [noApplicant, noEntry, map_nil]
    · rw [model_handleFriendApplyList, noEntry] at shown
      cases shown
    · rw [noEntry]
      rfl

/-- User 1 has applied to user 2; the list of user 3 is empty, as it should be. -/
theorem friend_applications_listed_iff_bystander :
    ListsApplications (friendsAfter [.notifyAddFriend 0 1 2 "hello", .statement 0,
        .statement 0]).friendApplys (sizeT 3)
      (RequestDesk.handleFriendApplyList {} (pullFriendApplyList (friendsAfter
        [.notifyAddFriend 0 1 2 "hello", .statement 0, .statement 0]).friendApplys (sizeT 3) false)
        true) := by
  exact (@friend_applications_listed_iff
    [.notifyAddFriend 0 1 2 "hello", .statement 0, .statement 0] _ (by decide +kernel) rfl 3 false
    true {}).mpr (by decide +kernel)

/-- User 1 applies to user 2: the entry of user 2 has the id of user 2, a reply to it goes to
user 2, and user 1 has an entry for the own application. After user 3 has applied as well, the
list of user 2 cannot be written. -/
theorem own_id_listed_as_applicant :
    let once := (friendsAfter [.notifyAddFriend 0 1 2 "hello", .statement 0,
      .statement 0]).friendApplys
    let twice := (friendsAfter [.notifyAddFriend 0 1 2 "hello", .statement 0, .statement 0,
      .notifyAddFriend 1 3 2 "hi", .statement 1, .statement 1]).friendApplys
    let asked := RequestDesk.handleFriendApplyList {} (pullFriendApplyList once 2 false) true
    let askedTwice := RequestDesk.handleFriendApplyList {} (pullFriendApplyList twice 2 false) true
    let asker := RequestDesk.handleFriendApplyList {} (pullFriendApplyList once 1 false) true
    applicants once 2 = ["1"] ∧ asked.snapshot.map RequestRecord.requestId = ["2"] ∧
      (asked.resolveRequest 0 true "r").2 = some (.friendRequest 2 true) ∧
      asker.snapshot.map RequestRecord.requestId = ["1"] ∧ applicants once 1 = [] ∧
      askedTwice.table = [] := by
  decide +kernel

end Wimi.Client
