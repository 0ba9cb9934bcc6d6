/-
This file models friend applications and their replies: `NotifyAddFriend`,
`ReplyAddFriend` and the statements they send to the tables `friendApplys` and
`friends`.

An application is stored as two mirrored rows, so is a friendship, and every
statement commits on its own; a call is therefore a small program whose statements
interleave with those of other calls. A statement that fails (a duplicate key, a
text that does not fit) ends the call and leaves what the call has done.

Each row of `friendApplys` remembers who applied, which the table itself does not;
`applied` keeps every application that arrived, and `issued` every reply with the
applications as they were when it arrived.
Two properties are studied: that friendship is symmetric with one conversation for
both directions, and that it needs the consent of the one who was asked.
-/

import Wimi.Lib.Transition
import Wimi.Lib.Lists
import Wimi.Server.Store

namespace Wimi.Server

open Function List Option Transition

/-! ### Tables and calls -/

inductive ApplyStatus where
  | wait
  | agree
  | refuse
deriving DecidableEq, Repr

structure FriendApplyRow where
  fromUid : Nat
  toUid : Nat
  content : String
  status : ApplyStatus
  createTime : String := ""
  applicant : Nat
deriving DecidableEq, Repr

def sizeT (value : Int) : Nat := (value % 2 ^ 64).toNat

inductive FriendStatement where
  | insertFriendApply
  | insertFriendApplyMirror
  | insertFriend
  | insertFriendMirror
  | updateFriendApplyStatus
  | updateFriendApplyStatusMirror
deriving DecidableEq, Repr

inductive FriendPhase where
  | pending (statement : FriendStatement)
  | finished (ret : Int)
deriving DecidableEq, Repr

structure FriendCall where
  uid : Nat
  toUid : Nat
  content : String
  status : ApplyStatus
  createTime : String := ""
  sessionId : Nat := 0
  phase : FriendPhase
deriving DecidableEq, Repr

structure IssuedReply where
  uid : Nat
  toUid : Nat
  accept : Bool
  applied : List (Nat × Nat)
  friendApplys : List FriendApplyRow
deriving DecidableEq, Repr

structure FriendSystem where
  friends : List FriendRow := []
  friendApplys : List FriendApplyRow := []
  calls : Nat → Option FriendCall := fun _ => none
  applied : List (Nat × Nat) := []
  issued : List IssuedReply := []

def maxContent : Nat := 512

def insertApplyRow (rows : List FriendApplyRow) (row : FriendApplyRow) :
    Option (List FriendApplyRow) :=
  if maxContent < row.content.length ∨
      rows.any (fun other => other.fromUid = row.fromUid ∧ other.toUid = row.toUid) then none
  else some (rows ++ [row])

/-- A row after the `UPDATE` of a reply. -/
def FriendCall.reply (call : FriendCall) (fromUid toUid : Nat) (row : FriendApplyRow) :
    FriendApplyRow :=
  if row.fromUid = fromUid ∧ row.toUid = toUid then
    { row with status := call.status, content := call.content, createTime := call.createTime }
  else row

def updateApplyRows (rows : List FriendApplyRow) (fromUid toUid : Nat) (call : FriendCall) :
    Option (List FriendApplyRow) :=
  if maxContent < call.content.length ∧
      rows.any (fun row => row.fromUid = fromUid ∧ row.toUid = toUid) then none
  else some (rows.map (call.reply fromUid toUid))

def insertFriendRow (rows : List FriendRow) (row : FriendRow) : Option (List FriendRow) :=
  if rows.any fun other => other.uidA = row.uidA ∧ other.uidB = row.uidB then none
  else some (rows ++ [row])

/-- What `StoreReplyAddFriend` returns: the session id cut to an `int`. -/
def storedReply (sessionId : Nat) : Int := Int.bmod sessionId (2 ^ 32)

namespace FriendSystem

variable (system : FriendSystem)

def setPhase (index : Nat) (call : FriendCall) (phase : FriendPhase) : FriendSystem :=
  { system with calls := update system.calls index (some { call with phase }) }

def proceed (index : Nat) (call : FriendCall) (result : Option FriendSystem)
    (phase : FriendPhase) : FriendSystem :=
  match result with
  | none => system.setPhase index call (.finished (-1))
  | some after => after.setPhase index call phase

def execute (index : Nat) (call : FriendCall) : FriendStatement → FriendSystem
  | .insertFriendApply =>
    system.proceed index call
      ((insertApplyRow system.friendApplys
        { fromUid := call.uid, toUid := call.toUid, content := call.content, status := call.status,
          createTime := call.createTime, applicant := call.uid }).map
        fun rows => { system with friendApplys := rows })
      (.pending .insertFriendApplyMirror)
  | .insertFriendApplyMirror =>
    system.proceed index call
      ((insertApplyRow system.friendApplys
        { fromUid := call.toUid, toUid := call.uid, content := call.content, status := call.status,
          createTime := call.createTime, applicant := call.uid }).map
        fun rows => { system with friendApplys := rows })
      (.finished 0)
  | .insertFriend =>
    system.proceed index call
      ((insertFriendRow system.friends ⟨call.uid, call.toUid, call.sessionId⟩).map
        fun rows => { system with friends := rows })
      (.pending .insertFriendMirror)
  | .insertFriendMirror =>
    system.proceed index call
      ((insertFriendRow system.friends ⟨call.toUid, call.uid, call.sessionId⟩).map
        fun rows => { system with friends := rows })
      (.pending .updateFriendApplyStatus)
  | .updateFriendApplyStatus =>
    system.proceed index call
      ((updateApplyRows system.friendApplys call.uid call.toUid call).map
        fun rows => { system with friendApplys := rows })
      (.pending .updateFriendApplyStatusMirror)
  | .updateFriendApplyStatusMirror =>
    system.proceed index call
      ((updateApplyRows system.friendApplys call.toUid call.uid call).map
        fun rows => { system with friendApplys := rows })
      (.finished (storedReply call.sessionId))

end FriendSystem

inductive FriendAction where
  | notifyAddFriend (index : Nat) (uid toUid : Int) (requestMessage : String)
  | replyAddFriend (index : Nat) (uid toUid : Int) (accept : Bool) (replyMessage : String)
      (sessionId : Nat) (time : String)
  | statement (index : Nat)
deriving DecidableEq, Repr

def friendStep (system : FriendSystem) : FriendAction → Option FriendSystem
  | .notifyAddFriend index uid toUid requestMessage =>
    if system.calls index = none then
      some { system with
        calls := update system.calls index (some
          { uid := sizeT uid, toUid := sizeT toUid, content := requestMessage, status := .wait,
            phase := .pending .insertFriendApply })
        applied := system.applied ++ [(sizeT uid, sizeT toUid)] }
    else none
  | .replyAddFriend index uid toUid accept replyMessage sessionId time =>
    if system.calls index = none then
      some { system with
        calls := update system.calls index (some
          { uid := sizeT uid, toUid := sizeT toUid, content := replyMessage,
            status := if accept then .agree else .refuse, createTime := time,
            sessionId := if accept then sessionId else 0,
            phase := .pending (if accept then .insertFriend else .updateFriendApplyStatus) })
        issued := system.issued ++
          [⟨sizeT uid, sizeT toUid, accept, system.applied, system.friendApplys⟩] }
    else none
  | .statement index =>
    match system.calls index with
    | none => none
    | some call =>
      match call.phase with
      | .pending statement => some (system.execute index call statement)
      | .finished _ => none

/-! ### What a step does -/

def HasFriend (friends : List FriendRow) (uidA uidB : Nat) : Prop :=
  ∃ row ∈ friends, row.uidA = uidA ∧ row.uidB = uidB

def HasApply (rows : List FriendApplyRow) (fromUid toUid : Nat) : Prop :=
  ∃ row ∈ rows, row.fromUid = fromUid ∧ row.toUid = toUid

variable {row : FriendRow} {rows : List FriendApplyRow} {phase : FriendPhase} {next : FriendSystem}
  {friends : List FriendRow}

theorem any_iff_hasApply {fromUid toUid : Nat} :
    (rows.any fun row => row.fromUid = fromUid ∧ row.toUid = toUid) ↔
      HasApply rows fromUid toUid := by
  simp [HasApply]

theorem insertApplyRow_eq_some {row : FriendApplyRow} {after : List FriendApplyRow} :
    insertApplyRow rows row = some after ↔ row.content.length ≤ maxContent ∧
      ¬ HasApply rows row.fromUid row.toUid ∧ after = rows ++ [row] := by
  rw [insertApplyRow, ite_none_left_eq_some, not_or, any_iff_hasApply, not_lt, and_assoc,
    some.injEq, eq_comm (a := after)]

theorem updateApplyRows_eq_some {after : List FriendApplyRow} {fromUid toUid : Nat}
    {call : FriendCall} :
    updateApplyRows rows fromUid toUid call = some after ↔
      ¬ (maxContent < call.content.length ∧ HasApply rows fromUid toUid) ∧
        after = rows.map (call.reply fromUid toUid) := by
  rw [updateApplyRows, ite_none_left_eq_some, any_iff_hasApply, some.injEq, eq_comm (a := after)]

theorem insertFriendRow_eq_none {rows : List FriendRow} :
    insertFriendRow rows row = none ↔ HasFriend rows row.uidA row.uidB := by
  simp [insertFriendRow, HasFriend]

theorem insertFriendRow_eq_some {rows after : List FriendRow} :
    insertFriendRow rows row = some after ↔
      ¬ HasFriend rows row.uidA row.uidB ∧ after = rows ++ [row] := by
  simp [insertFriendRow, HasFriend, eq_comm (a := after)]

open FriendSystem

def Applying (call : FriendCall) : Prop :=
  call.phase = .pending .insertFriendApply ∨ call.phase = .pending .insertFriendApplyMirror

def RowsFrom (before : List FriendApplyRow) (call : FriendCall) (after : List FriendApplyRow) :
    Prop :=
  ∀ row ∈ after,
    (∃ old ∈ before, row.fromUid = old.fromUid ∧ row.toUid = old.toUid ∧
      row.applicant = old.applicant) ∨
    Applying call ∧ row.applicant = call.uid ∧
      (row.fromUid = call.uid ∧ row.toUid = call.toUid ∨
        row.fromUid = call.toUid ∧ row.toUid = call.uid)

theorem rowsFrom_refl (rows : List FriendApplyRow) (call : FriendCall) :
    RowsFrom rows call rows := fun row member => .inl ⟨row, member, rfl, rfl, rfl⟩

theorem rowsFrom_insert {after : List FriendApplyRow} {row : FriendApplyRow} {call : FriendCall}
    (applying : Applying call) (applicant : row.applicant = call.uid)
    (users : row.fromUid = call.uid ∧ row.toUid = call.toUid ∨
      row.fromUid = call.toUid ∧ row.toUid = call.uid)
    (inserted : insertApplyRow rows row = some after) : RowsFrom rows call after := by
  obtain ⟨-, -, rfl⟩ := insertApplyRow_eq_some.mp inserted
  exact forall_mem_append.mpr ⟨rowsFrom_refl rows call,
    forall_mem_singleton.mpr (.inr ⟨applying, applicant, users⟩)⟩

theorem rowsFrom_update {after : List FriendApplyRow} {fromUid toUid : Nat} {call : FriendCall}
    (updated : updateApplyRows rows fromUid toUid call = some after) :
    RowsFrom rows call after := by
  obtain ⟨-, rfl⟩ := updateApplyRows_eq_some.mp updated
  refine forall_mem_map.mpr fun row member => .inl ⟨row, member, ?_⟩
  unfold FriendCall.reply
  split_ifs <;> exact ⟨rfl, rfl, rfl⟩

inductive FriendOutcome (system : FriendSystem) : FriendAction → FriendSystem → Prop where
  | notified {index : Nat} {uid toUid : Int} {requestMessage : String} (call : FriendCall)
      (free : system.calls index = none)
      (users : call.uid = sizeT uid ∧ call.toUid = sizeT toUid)
      (phase : call.phase = .pending .insertFriendApply) :
      FriendOutcome system (.notifyAddFriend index uid toUid requestMessage)
        { system with
          calls := update system.calls index (some call)
          applied := system.applied ++ [(sizeT uid, sizeT toUid)] }
  | replied {index : Nat} {uid toUid : Int} {accept : Bool} {replyMessage : String}
      {sessionId : Nat} {time : String} (call : FriendCall) (free : system.calls index = none)
      (users : call.uid = sizeT uid ∧ call.toUid = sizeT toUid)
      (phase : call.phase =
        .pending (if accept then .insertFriend else .updateFriendApplyStatus)) :
      FriendOutcome system
        (.replyAddFriend index uid toUid accept replyMessage sessionId time)
        { system with
          calls := update system.calls index (some call)
          issued := system.issued ++
            [⟨sizeT uid, sizeT toUid, accept, system.applied, system.friendApplys⟩] }
  | inserted {index : Nat} {call : FriendCall} (present : system.calls index = some call)
      (was : call.phase = .pending .insertFriend)
      (fresh : ¬ HasFriend system.friends call.uid call.toUid) :
      FriendOutcome system (.statement index)
        (setPhase { system with
            friends := system.friends ++ [⟨call.uid, call.toUid, call.sessionId⟩] }
          index call (.pending .insertFriendMirror))
  | mirrored {index : Nat} {call : FriendCall} (present : system.calls index = some call)
      (was : call.phase = .pending .insertFriendMirror)
      (fresh : ¬ HasFriend system.friends call.toUid call.uid) :
      FriendOutcome system (.statement index)
        (setPhase { system with
            friends := system.friends ++ [⟨call.toUid, call.uid, call.sessionId⟩] }
          index call (.pending .updateFriendApplyStatus))
  | passed {index : Nat} {call : FriendCall} (rows : List FriendApplyRow) (phase : FriendPhase)
      (present : system.calls index = some call)
      (quiet : phase ≠ .pending .insertFriend ∧ phase ≠ .pending .insertFriendMirror)
      (duplicate : call.phase = .pending .insertFriendMirror →
        HasFriend system.friends call.toUid call.uid)
      (origin : RowsFrom system.friendApplys call rows)
      (applying : Applying { call with phase } → Applying call) :
      FriendOutcome system (.statement index)
        (setPhase { system with friendApplys := rows } index call phase)

section

variable {system : FriendSystem} {index : Nat} {call : FriendCall}
  (present : system.calls index = some call)
include present

theorem outcome_of_failed
    (duplicate : call.phase = .pending .insertFriendMirror →
      HasFriend system.friends call.toUid call.uid) :
    FriendOutcome system (.statement index) (system.setPhase index call (.finished (-1))) :=
  .passed system.friendApplys _ present ⟨nofun, nofun⟩ duplicate (rowsFrom_refl _ call)
    fun applying => by rcases applying with wrong | wrong <;> cases wrong

theorem outcome_of_applies (result : Option (List FriendApplyRow))
    (quiet : phase ≠ .pending .insertFriend ∧ phase ≠ .pending .insertFriendMirror)
    (other : call.phase ≠ .pending .insertFriendMirror)
    (origin : ∀ rows, result = some rows → RowsFrom system.friendApplys call rows)
    (applying : Applying { call with phase } → Applying call) :
    FriendOutcome system (.statement index)
      (system.proceed index call
        (result.map fun rows => { system with friendApplys := rows }) phase) := by
  cases result with
  | none => exact outcome_of_failed present fun was => absurd was other
  | some rows =>
    exact .passed rows phase present quiet (fun was => absurd was other) (origin rows rfl) applying

theorem execute_outcome {statement : FriendStatement} (was : call.phase = .pending statement) :
    FriendOutcome system (.statement index) (system.execute index call statement) := by
  cases statement with
  | insertFriendApply =>
    exact outcome_of_applies present _ ⟨nofun, nofun⟩ (by rw [was]; nofun)
      (fun _ => rowsFrom_insert (.inl was) rfl (.inl ⟨rfl, rfl⟩)) fun _ => .inl was
  | insertFriendApplyMirror =>
    exact outcome_of_applies present _ ⟨nofun, nofun⟩ (by rw [was]; nofun)
      (fun _ => rowsFrom_insert (.inr was) rfl (.inr ⟨rfl, rfl⟩)) fun _ => .inr was
  | insertFriend =>
    unfold execute
    cases result : insertFriendRow system.friends ⟨call.uid, call.toUid, call.sessionId⟩ with
    | none => exact outcome_of_failed present (by rw [was]; nofun)
    | some rows =>
      obtain ⟨fresh, rfl⟩ := insertFriendRow_eq_some.mp result
      exact .inserted present was fresh
  | insertFriendMirror =>
    unfold execute
    cases result : insertFriendRow system.friends ⟨call.toUid, call.uid, call.sessionId⟩ with
    | none => exact outcome_of_failed present fun _ => insertFriendRow_eq_none.mp result
    | some rows =>
      obtain ⟨fresh, rfl⟩ := insertFriendRow_eq_some.mp result
      exact .mirrored present was fresh
  | updateFriendApplyStatus | updateFriendApplyStatusMirror =>
    refine outcome_of_applies present _ ⟨nofun, nofun⟩ (by rw [was]; nofun)
      (fun _ => rowsFrom_update) ?_
    rintro (wrong | wrong) <;> cases wrong

end

theorem friendStep_outcome {system : FriendSystem} {action : FriendAction}
    (taken : friendStep system action = some next) : FriendOutcome system action next := by
  cases action with
  | notifyAddFriend index uid toUid requestMessage =>
    simp only [friendStep] at taken
    split_ifs at taken with free
    cases taken
    exact .notified _ free ⟨rfl, rfl⟩ rfl
  | replyAddFriend index uid toUid accept replyMessage sessionId time =>
    simp only [friendStep] at taken
    split at taken
    · rename_i free
      cases taken
      exact .replied _ free ⟨rfl, rfl⟩ rfl
    · cases taken
  | statement index => grind [friendStep, execute_outcome]

/-! ### Friendship is symmetric -/

def Halfway (call : FriendCall) : Prop := call.phase = .pending .insertFriendMirror

structure FriendsPaired (system : FriendSystem) : Prop where
  mirrored : ∀ row ∈ system.friends, ⟨row.uidB, row.uidA, row.sessionId⟩ ∈ system.friends ∨
    ∃ index call, system.calls index = some call ∧ Halfway call ∧
      row = ⟨call.uid, call.toUid, call.sessionId⟩
  halfway : ∀ index call, system.calls index = some call → Halfway call →
    ⟨call.uid, call.toUid, call.sessionId⟩ ∈ system.friends ∧
      (call.uid ≠ call.toUid → ¬ HasFriend system.friends call.toUid call.uid)
  single : ∀ first second one two, system.calls first = some one → system.calls second = some two →
    Halfway one → Halfway two → one.uid = two.uid → one.toUid = two.toUid → first = second

/-- When a call inserts its first row, the mirror of that row is not there alone. -/
def NoCrossing (system : FriendSystem) : FriendAction → Prop
  | .statement index => ∀ call, system.calls index = some call →
      call.phase = .pending .insertFriend →
      HasFriend system.friends call.toUid call.uid → HasFriend system.friends call.uid call.toUid
  | _ => True

theorem hasFriend_concat {uidA uidB : Nat} :
    HasFriend (friends ++ [row]) uidA uidB ↔
      HasFriend friends uidA uidB ∨ row.uidA = uidA ∧ row.uidB = uidB := by
  simp only [HasFriend, mem_append, mem_singleton, or_and_right, exists_or,
    exists_eq_left]

theorem hasFriend_of_mem (member : row ∈ friends) :
    HasFriend friends row.uidA row.uidB := ⟨row, member, rfl, rfl⟩

/-- Both directions of a friendship share the conversation. -/
def FriendsSymmetric (friends : List FriendRow) : Prop :=
  ∀ uidA uidB sessionId, (⟨uidA, uidB, sessionId⟩ : FriendRow) ∈ friends ↔
    ⟨uidB, uidA, sessionId⟩ ∈ friends

namespace FriendsPaired

theorem start (symmetric : FriendsSymmetric friends) (friendApplys : List FriendApplyRow) :
    FriendsPaired { friends, friendApplys } where
  mirrored row member := .inl ((symmetric row.uidA row.uidB row.sessionId).mp member)
  halfway _ _ present := by cases present
  single _ _ _ _ present := by cases present

variable {system : FriendSystem} {index : Nat} {call : FriendCall}

theorem update (sound : FriendsPaired system) (after : FriendCall) (notHalfway : ¬ Halfway after)
    (was : ∀ call, system.calls index = some call → Halfway call → call.uid = call.toUid)
    (friends : next.friends = system.friends)
    (calls : next.calls = update system.calls index (some after)) : FriendsPaired next where
  mirrored row member := by
    rw [friends] at member ⊢
    rcases sound.mirrored row member with mirror | ⟨other, call, present, half, rfl⟩
    · exact .inl mirror
    by_cases same : other = index
    · grind
    · refine .inr ⟨other, call, ?_, half, rfl⟩
      rw [calls, update_of_ne same, present]
  halfway := by
    rw [calls, friends]
    exact forall_update sound.halfway fun half => absurd half notHalfway
  single first second one two presentOne presentTwo halfOne halfTwo := by
    rw [calls] at presentOne presentTwo
    rcases update_eq_some presentOne with ⟨_, rfl⟩ | ⟨_, earlierOne⟩
    · exact absurd halfOne notHalfway
    rcases update_eq_some presentTwo with ⟨_, rfl⟩ | ⟨_, earlierTwo⟩
    · exact absurd halfTwo notHalfway
    exact sound.single first second one two earlierOne earlierTwo halfOne halfTwo

theorem insert (sound : FriendsPaired system) (present : system.calls index = some call)
    (was : call.phase = .pending .insertFriend)
    (fresh : ¬ HasFriend system.friends call.uid call.toUid)
    (mirrorFresh : ¬ HasFriend system.friends call.toUid call.uid) :
    FriendsPaired (setPhase { system with
        friends := system.friends ++ [⟨call.uid, call.toUid, call.sessionId⟩] }
      index call (.pending .insertFriendMirror)) where
  mirrored := by
    refine forall_mem_append.mpr ⟨fun row member => ?_, forall_mem_singleton.mpr ?_⟩
    · rcases sound.mirrored row member with mirror | ⟨other, waiting, found, half, rfl⟩
      · exact .inl (mem_append_left _ mirror)
      refine .inr ⟨other, waiting, ?_, half, rfl⟩
      have different : other ≠ index := by
        rintro rfl
        rw [present, some.injEq] at found
        subst found
        rw [Halfway, was] at half
        cases half
      exact (update_of_ne different _ _).trans found
    · exact .inr ⟨index, _, update_self index _ _, rfl, rfl⟩
  halfway := by
    refine forall_update (fun other found earlier half => ?_) fun half => ?_
    · obtain ⟨member, alone⟩ := sound.halfway other found earlier half
      refine ⟨mem_append_left _ member, fun different crossed => ?_⟩
      rcases hasFriend_concat.mp crossed with mirror | ⟨first, second⟩
      · exact alone different mirror
      have crossing : HasFriend system.friends found.uid found.toUid := hasFriend_of_mem member
      rw [← second, ← first] at crossing
      exact mirrorFresh crossing
    refine ⟨mem_concat_self, fun different crossed => ?_⟩
    rcases hasFriend_concat.mp crossed with mirror | ⟨same, _⟩
    · exact mirrorFresh mirror
    · exact different same
  single first second one two presentOne presentTwo halfOne halfTwo sameUid sameTo := by
    have taken : ∀ other found, system.calls other = some found → Halfway found →
        found.uid = call.uid → found.toUid = call.toUid → False := fun other found earlier half
          sameUid sameTo => fresh (by
      have first := hasFriend_of_mem (sound.halfway other found earlier half).1
      simpa only [sameUid, sameTo] using first)
    rcases update_eq_some presentOne with ⟨rfl, rfl⟩ | ⟨_, earlierOne⟩ <;>
      rcases update_eq_some presentTwo with ⟨rfl, rfl⟩ | ⟨_, earlierTwo⟩
    · rfl
    · exact (taken second two earlierTwo halfTwo sameUid.symm sameTo.symm).elim
    · exact (taken first one earlierOne halfOne sameUid sameTo).elim
    · exact sound.single first second one two earlierOne earlierTwo halfOne halfTwo sameUid sameTo

theorem mirror (sound : FriendsPaired system) (present : system.calls index = some call)
    (was : Halfway call) :
    FriendsPaired (setPhase { system with
        friends := system.friends ++ [⟨call.toUid, call.uid, call.sessionId⟩] }
      index call (.pending .updateFriendApplyStatus)) where
  mirrored := by
    have first := (sound.halfway index call present was).1
    refine forall_mem_append.mpr ⟨fun row member => ?_, forall_mem_singleton.mpr ?_⟩
    · rcases sound.mirrored row member with mirror | ⟨other, waiting, found, half, rfl⟩
      · exact .inl (mem_append_left _ mirror)
      by_cases same : other = index
      · subst same
        rw [present, some.injEq] at found
        subst found
        exact .inl (mem_concat_self)
      · exact .inr ⟨other, waiting, (update_of_ne same _ _).trans found, half, rfl⟩
    · exact .inl (mem_append_left _ first)
  halfway other found lookup half := by
    rcases update_eq_some lookup with ⟨_, rfl⟩ | ⟨different, earlier⟩
    · cases half
    obtain ⟨member, alone⟩ := sound.halfway other found earlier half
    refine ⟨mem_append_left _ member, fun users crossed => ?_⟩
    rcases hasFriend_concat.mp crossed with mirror | ⟨sameTo, sameUid⟩
    · exact alone users mirror
    · exact different
        (sound.single other index found call earlier present half was sameUid.symm sameTo.symm)
  single first second one two presentOne presentTwo halfOne halfTwo := by
    rcases update_eq_some presentOne with ⟨_, rfl⟩ | ⟨_, earlierOne⟩
    · cases halfOne
    rcases update_eq_some presentTwo with ⟨_, rfl⟩ | ⟨_, earlierTwo⟩
    · cases halfTwo
    exact sound.single first second one two earlierOne earlierTwo halfOne halfTwo

theorem step (action : FriendAction) (sound : FriendsPaired system)
    (apart : NoCrossing system action) (taken : friendStep system action = some next) :
    FriendsPaired next := by
  cases friendStep_outcome taken with
  | notified call free _ phase =>
    refine sound.update call (by rw [Halfway, phase]; nofun) (fun old present => ?_) rfl rfl
    rw [free] at present
    cases present
  | @replied index uid toUid accept _ _ _ call free _ phase =>
    refine sound.update call ?_ (fun old present => ?_) rfl rfl
    · rw [Halfway, phase]
      cases accept <;> nofun
    · rw [free] at present
      cases present
  | inserted present was fresh =>
    exact sound.insert present was fresh fun crossed => fresh (apart _ present was crossed)
  | mirrored present was fresh => exact sound.mirror present was
  | @passed index call rows phase present quiet duplicate _ _ =>
    refine sound.update { call with phase } quiet.2 (fun old found half => ?_) rfl rfl
    rw [present, some.injEq] at found
    subst found
    by_contra different
    exact (sound.halfway index call present half).2 different (duplicate half)

end FriendsPaired

/-- From symmetric friends, when no acceptance inserts its first row into the other half of a
crossing one, the friends are symmetric again as soon as all calls have finished. -/
theorem friends_symmetric_after_run {friends : List FriendRow}
    {friendApplys : List FriendApplyRow} (start : FriendsSymmetric friends)
    {actions : List FriendAction} {final : FriendSystem}
    (apart : Along friendStep NoCrossing
      { friends := friends, friendApplys := friendApplys } actions)
    (taken : run friendStep { friends := friends, friendApplys := friendApplys }
      actions = some final)
    (ended : ∀ index call, final.calls index = some call → ∃ ret, call.phase = .finished ret) :
    FriendsSymmetric final.friends := by
  have sound : FriendsPaired final := run_invariant_along FriendsPaired NoCrossing
    (fun _ action _ sound apart taken => sound.step action apart taken)
    (.start start friendApplys) apart taken
  have mirror : ∀ row ∈ final.friends, (⟨row.uidB, row.uidA, row.sessionId⟩ : FriendRow) ∈
      final.friends := by
    intro row member
    rcases sound.mirrored row member with mirror | ⟨index, call, present, half, _⟩
    · exact mirror
    · obtain ⟨ret, phase⟩ := ended index call present
      rw [Halfway, phase] at half
      cases half
  exact fun uidA uidB sessionId => ⟨mirror _, mirror _⟩

def friendsAfter (actions : List FriendAction) : FriendSystem :=
  (run friendStep {} actions).getD {}

def acceptTwice : List FriendAction :=
  [.replyAddFriend 0 2 1 true "" 100 "", .statement 0, .statement 0, .statement 0, .statement 0,
    .replyAddFriend 1 1 2 true "" 200 "", .statement 1]

theorem friends_symmetric_after_accept_twice :
    (friendsAfter acceptTwice).friends = [⟨2, 1, 100⟩, ⟨1, 2, 100⟩] ∧
      FriendsSymmetric (friendsAfter acceptTwice).friends := by
  refine ⟨by decide +kernel, ?_⟩
  have apart : Along friendStep NoCrossing { friends := [], friendApplys := [] } acceptTwice := by
    refine along_cons trivial rfl ?_
    refine along_cons (fun call present _ crossed => ?_) rfl ?_
    · obtain ⟨row, member, _⟩ := crossed
      cases member
    refine along_cons (fun call present was => ?_) rfl ?_
    · cases present
      cases was
    refine along_cons (fun call present was => ?_) rfl ?_
    · cases present
      cases was
    refine along_cons (fun call present was => ?_) rfl ?_
    · cases present
      cases was
    refine along_cons trivial rfl ?_
    refine along_cons (fun call present _ _ => ?_) rfl trivial
    cases present
    exact ⟨⟨1, 2, 100⟩, by decide, rfl, rfl⟩
  refine @friends_symmetric_after_run [] [] (by simp [FriendsSymmetric]) acceptTwice
    (friendsAfter acceptTwice) apart rfl fun index call present => ?_
  match index with
  | 0 =>
    cases present
    exact ⟨_, rfl⟩
  | 1 =>
    cases present
    exact ⟨_, rfl⟩
  | index + 2 => cases present

/-- User 1 accepts user 2 while user 2 accepts user 1: each inserts its own row first, and both
second rows fail on the key. The two directions keep different conversations. -/
theorem crossing_acceptances_split_conversation :
    let crossed := friendsAfter
      [.replyAddFriend 0 1 2 true "" 100 "", .replyAddFriend 1 2 1 true "" 200 "",
        .statement 0, .statement 1, .statement 0, .statement 1]
    (crossed.calls 0).map FriendCall.phase = some (.finished (-1)) ∧
      (crossed.calls 1).map FriendCall.phase = some (.finished (-1)) ∧
      crossed.friends = [⟨1, 2, 100⟩, ⟨2, 1, 200⟩] ∧ ¬ FriendsSymmetric crossed.friends := by
  refine ⟨by decide +kernel, by decide +kernel, by decide +kernel, fun symmetric => ?_⟩
  exact absurd ((symmetric 1 2 100).mp (by decide +kernel)) (by decide +kernel)

/-! ### Friendship needs consent -/

def Recorded (applied : List (Nat × Nat)) (row : FriendApplyRow) : Prop :=
  row.applicant = row.fromUid ∧ (row.fromUid, row.toUid) ∈ applied ∨
    row.applicant = row.toUid ∧ (row.toUid, row.fromUid) ∈ applied

def Waiting (friendApplys : List FriendApplyRow) (uid toUid : Nat) : Prop :=
  uid ≠ toUid ∧ ∃ row ∈ friendApplys, row.fromUid = toUid ∧ row.toUid = uid ∧
    row.applicant = toUid ∧ row.status = .wait

instance (friendApplys : List FriendApplyRow) (uid toUid : Nat) :
    Decidable (Waiting friendApplys uid toUid) :=
  inferInstanceAs (Decidable (_ ∧ _))

/-- An accepting reply arrives when an application by the other user to its sender waits. -/
def Consents (system : FriendSystem) : FriendAction → Prop
  | .replyAddFriend _ uid toUid accept _ _ _ => accept = true →
      Waiting system.friendApplys (sizeT uid) (sizeT toUid)
  | _ => True

structure Attributed (system : FriendSystem) : Prop where
  friends : ∀ row ∈ system.friends, ∃ reply ∈ system.issued, reply.accept = true ∧
    (row.uidA = reply.uid ∧ row.uidB = reply.toUid ∨
      row.uidA = reply.toUid ∧ row.uidB = reply.uid)
  accepting : ∀ index call, system.calls index = some call →
    call.phase = .pending .insertFriend ∨ Halfway call → ∃ reply ∈ system.issued,
      reply.accept = true ∧ reply.uid = call.uid ∧ reply.toUid = call.toUid
  applying : ∀ index call, system.calls index = some call → Applying call →
    (call.uid, call.toUid) ∈ system.applied
  rows : ∀ row ∈ system.friendApplys, Recorded system.applied row
  snapshots : ∀ reply ∈ system.issued, ∀ row ∈ reply.friendApplys, Recorded reply.applied row

namespace Attributed

variable {system : FriendSystem} {index : Nat} {call : FriendCall}

theorem start : Attributed {} where
  friends := forall_mem_nil _
  accepting _ _ present := by cases present
  applying _ _ present := by cases present
  rows := forall_mem_nil _
  snapshots := forall_mem_nil _

section

variable (sound : Attributed system)
include sound

theorem notified (call : FriendCall) (phase : call.phase = .pending .insertFriendApply) :
    Attributed { system with
      calls := update system.calls index (some call)
      applied := system.applied ++ [(call.uid, call.toUid)] } where
  friends := sound.friends
  accepting := by
    refine forall_update sound.accepting fun accepts => ?_
    rw [Halfway, phase] at accepts
    rcases accepts with wrong | wrong <;> cases wrong
  applying := forall_update
    (fun _ _ earlier applies => mem_append_left _ (sound.applying _ _ earlier applies))
    fun _ => mem_concat_self
  rows row member := (sound.rows row member).imp
    (And.imp_right (mem_append_left _)) (And.imp_right (mem_append_left _))
  snapshots := sound.snapshots

theorem replied (call : FriendCall) {accept : Bool}
    (phase : call.phase =
      .pending (if accept then .insertFriend else .updateFriendApplyStatus)) :
    Attributed { system with
      calls := update system.calls index (some call)
      issued := system.issued ++
        [⟨call.uid, call.toUid, accept, system.applied, system.friendApplys⟩] } where
  friends row member := by
    obtain ⟨reply, issued, between⟩ := sound.friends row member
    exact ⟨reply, mem_append_left _ issued, between⟩
  accepting := by
    refine forall_update (fun other found earlier accepts => ?_) fun accepts => ?_
    · obtain ⟨reply, issued, same⟩ := sound.accepting other found earlier accepts
      exact ⟨reply, mem_append_left _ issued, same⟩
    refine ⟨_, mem_concat_self, ?_, rfl, rfl⟩
    cases accept with
    | true => rfl
    | false =>
      rw [Halfway, phase] at accepts
      rcases accepts with wrong | wrong <;> cases wrong
  applying := by
    refine forall_update sound.applying fun applies => ?_
    cases accept <;> rw [Applying, phase] at applies <;>
      rcases applies with wrong | wrong <;> cases wrong
  rows := sound.rows
  snapshots := forall_mem_append.mpr
    ⟨sound.snapshots, forall_mem_singleton.mpr sound.rows⟩

theorem inserted (present : system.calls index = some call)
    (was : call.phase = .pending .insertFriend ∨ Halfway call)
    (users : row.uidA = call.uid ∧ row.uidB = call.toUid ∨
      row.uidA = call.toUid ∧ row.uidB = call.uid)
    (quiet : ¬ Applying { call with phase }) :
    Attributed (setPhase { system with friends := system.friends ++ [row] } index call phase) := by
  obtain ⟨reply, issued, accept, sameUid, sameTo⟩ := sound.accepting index call present was
  exact {
    friends := by
      refine forall_mem_append.mpr ⟨sound.friends, forall_mem_singleton.mpr ?_⟩
      rw [← sameUid, ← sameTo] at users
      exact ⟨reply, issued, accept, users⟩
    accepting := forall_update sound.accepting fun _ => ⟨reply, issued, accept, sameUid, sameTo⟩
    applying := forall_update sound.applying fun applies => absurd applies quiet
    rows := sound.rows
    snapshots := sound.snapshots }

theorem passed (present : system.calls index = some call)
    (quiet : phase ≠ .pending .insertFriend ∧ phase ≠ .pending .insertFriendMirror)
    (origin : RowsFrom system.friendApplys call rows)
    (applying : Applying { call with phase } → Applying call) :
    Attributed (setPhase { system with friendApplys := rows } index call phase) where
  friends := sound.friends
  accepting := forall_update sound.accepting fun accepts =>
    accepts.elim (fun wrong => absurd wrong quiet.1) fun wrong => absurd wrong quiet.2
  applying := forall_update sound.applying fun applies =>
    sound.applying index call present (applying applies)
  rows row member := by
    rcases origin row member with ⟨old, kept, sameFrom, sameTo, sameApplicant⟩ |
      ⟨applies, applicant, users⟩
    · rw [Recorded, sameFrom, sameTo, sameApplicant]
      exact sound.rows old kept
    have arrived := sound.applying index call present applies
    rcases users with ⟨sameFrom, sameTo⟩ | ⟨sameFrom, sameTo⟩
    · exact .inl ⟨applicant.trans sameFrom.symm, by rw [sameFrom, sameTo]; exact arrived⟩
    · exact .inr ⟨applicant.trans sameTo.symm, by rw [sameFrom, sameTo]; exact arrived⟩
  snapshots := sound.snapshots

end

theorem step (action : FriendAction) (sound : Attributed system)
    (taken : friendStep system action = some next) : Attributed next := by
  cases friendStep_outcome taken with
  | notified call free users phase =>
    rw [← users.1, ← users.2]
    exact sound.notified call phase
  | replied call free users phase =>
    rw [← users.1, ← users.2]
    exact sound.replied call phase
  | inserted present was fresh =>
    exact sound.inserted present (.inl was) (.inl ⟨rfl, rfl⟩) (by simp [Applying])
  | mirrored present was fresh =>
    exact sound.inserted present (.inr was) (.inr ⟨rfl, rfl⟩) (by simp [Applying])
  | passed rows phase present quiet _ origin applying =>
    exact sound.passed present quiet origin applying

end Attributed

theorem waiting_of_issued {actions : List FriendAction} {final : FriendSystem}
    (consents : Along friendStep Consents {} actions)
    (taken : run friendStep {} actions = some final) :
    ∀ reply ∈ final.issued, reply.accept = true →
      Waiting reply.friendApplys reply.uid reply.toUid := by
  refine run_invariant_along
    (fun system => ∀ reply ∈ system.issued, reply.accept = true →
      Waiting reply.friendApplys reply.uid reply.toUid) Consents
    (fun system action next all consent step => ?_) (forall_mem_nil _) consents taken
  cases friendStep_outcome step with
  | notified | inserted | mirrored | passed => exact all
  | replied => exact forall_mem_append.mpr ⟨all, forall_mem_singleton.mpr consent⟩

/-- From empty tables, when accepting replies answer waiting applications, every friendship was
applied for by one of the two and then accepted by the other while the application waited. -/
theorem friendship_needs_consent {actions : List FriendAction} {final : FriendSystem}
    (consents : Along friendStep Consents {} actions)
    (taken : run friendStep {} actions = some final) :
    ∀ row ∈ final.friends, ∃ reply ∈ final.issued, reply.accept = true ∧
      (row.uidA = reply.uid ∧ row.uidB = reply.toUid ∨
        row.uidA = reply.toUid ∧ row.uidB = reply.uid) ∧
      (reply.toUid, reply.uid) ∈ reply.applied ∧ reply.uid ≠ reply.toUid ∧
      ∃ application ∈ reply.friendApplys, application.fromUid = reply.toUid ∧
        application.toUid = reply.uid ∧ application.applicant = reply.toUid ∧
        application.status = .wait := by
  have sound : Attributed final := run_invariant Attributed
    (fun _ action _ sound taken => sound.step action taken) Attributed.start taken
  intro row member
  obtain ⟨reply, issued, accept, between⟩ := sound.friends row member
  obtain ⟨different, application, stored, sender, addressee, applicant, status⟩ :=
    waiting_of_issued consents taken reply issued accept
  refine ⟨reply, issued, accept, between, ?_, different, application, stored, sender, addressee,
    applicant, status⟩
  rcases sound.snapshots reply issued application stored with ⟨_, arrived⟩ | ⟨same, _⟩
  · rw [sender, addressee] at arrived
    exact arrived
  · rw [applicant, addressee] at same
    exact absurd same.symm different

def appliedAndAccepted : List FriendAction :=
  [.notifyAddFriend 0 1 2 "hello", .statement 0, .statement 0,
    .replyAddFriend 1 2 1 true "" 100 "", .statement 1, .statement 1]

theorem friendship_needs_consent_accepted :
    (friendsAfter appliedAndAccepted).friends = [⟨2, 1, 100⟩, ⟨1, 2, 100⟩] ∧
      ∀ row ∈ (friendsAfter appliedAndAccepted).friends,
        ∃ reply ∈ (friendsAfter appliedAndAccepted).issued, reply.accept = true ∧
          (row.uidA = reply.uid ∧ row.uidB = reply.toUid ∨
            row.uidA = reply.toUid ∧ row.uidB = reply.uid) ∧
          (reply.toUid, reply.uid) ∈ reply.applied ∧ reply.uid ≠ reply.toUid ∧
          ∃ application ∈ reply.friendApplys, application.fromUid = reply.toUid ∧
            application.toUid = reply.uid ∧ application.applicant = reply.toUid ∧
            application.status = .wait := by
  have consents : Along friendStep Consents {} appliedAndAccepted := by
    refine along_cons trivial rfl ?_
    refine along_cons trivial rfl ?_
    refine along_cons trivial rfl ?_
    refine along_cons (fun _ => ?_) rfl ?_
    · exact of_decide_eq_true (by decide +kernel)
    refine along_cons trivial rfl ?_
    exact along_cons trivial rfl trivial
  exact ⟨by decide +kernel, friendship_needs_consent consents rfl⟩

/-- Nobody applied; user 1 replies to user 2 with an acceptance, and the two are friends. -/
theorem friendship_without_application :
    let system := friendsAfter [.replyAddFriend 0 1 2 true "" 100 "", .statement 0, .statement 0]
    system.friends = [⟨1, 2, 100⟩, ⟨2, 1, 100⟩] ∧ system.applied = [] ∧
      system.issued = [⟨1, 2, true, [], []⟩] := by
  decide +kernel

end Wimi.Server
