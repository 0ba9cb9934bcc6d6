/-
This file proves that paging through a conversation is complete. A client asks
`syncConversation` for the messages after a number, and again after the `nextSeq`
of each page, until a page has no more behind it.

What the pages read so far have in common is one invariant, `Paged`: they are the
visible messages up to the last `nextSeq`, in increasing order. A page extends it,
and a store in which more messages have been accepted keeps it. Both the client's
loop over one store and pages read over a growing store follow.
-/

import Wimi.Server.Density
import Wimi.Server.Pull

namespace Wimi.Server

open List Option Transition ConversationSyncResult

/-! ### Conversations numbered without a gap -/

def MessageRow.seq (message : MessageRow) : Nat := message.conversationSeq.getD 0

open MessageRow

def DenseAt (store : Store) (conversationId : Nat) : Prop :=
  (store.sequences conversationId).Perm
    ((List.range' 1 (store.latestSeq conversationId)).map some)

variable {message : MessageRow}

section DenseAt

variable {store : Store} {conversationId : Nat}

theorem mem_messagesOf :
    message ∈ store.messagesOf conversationId ↔
      message ∈ store.messages ∧ message.conversationId = some conversationId := by
  rw [Store.messagesOf, mem_filter, decide_eq_true_eq]

section

variable (dense : DenseAt store conversationId)
include dense

theorem DenseAt.mem_sequences {number : Option Nat} : number ∈ store.sequences conversationId ↔
      ∃ seq, 1 ≤ seq ∧ seq ≤ store.latestSeq conversationId ∧ number = some seq := by
  rw [List.Perm.mem_iff dense, List.mem_map]
  refine exists_congr fun seq => ?_
  rw [mem_range'_1, and_assoc, Nat.add_comm, Nat.lt_succ_iff, eq_comm]

theorem DenseAt.nodup : (store.sequences conversationId).Nodup := by
  rw [List.Perm.nodup_iff dense]
  exact List.Nodup.map (some_injective Nat) nodup_range'

theorem DenseAt.seq_le (member : message ∈ store.messagesOf conversationId) :
    message.seq ≤ store.latestSeq conversationId := by
  obtain ⟨seq, _, atMost, equal⟩ := dense.mem_sequences.mp (mem_map_of_mem member)
  rw [MessageRow.seq, equal]
  exact atMost

theorem DenseAt.seq_pos (member : message ∈ store.messagesOf conversationId) : 0 < message.seq := by
  obtain ⟨seq, positive, _, equal⟩ := dense.mem_sequences.mp (mem_map_of_mem member)
  rw [MessageRow.seq, equal]
  exact positive

theorem DenseAt.exists_seq {seq : Nat} (positive : 0 < seq)
    (atMost : seq ≤ store.latestSeq conversationId) :
    ∃ message ∈ store.messagesOf conversationId, message.seq = seq := by
  obtain ⟨message, member, equal⟩ :=
    mem_map.mp (dense.mem_sequences.mpr ⟨seq, positive, atMost, rfl⟩)
  refine ⟨message, member, ?_⟩
  rw [MessageRow.seq, equal, getD_some]

theorem DenseAt.seq_injective {first second : MessageRow}
    (firstMember : first ∈ store.messagesOf conversationId)
    (secondMember : second ∈ store.messagesOf conversationId) (same : first.seq = second.seq) :
    first = second := by
  refine inj_on_of_nodup_map dense.nodup firstMember secondMember ?_
  obtain ⟨_, _, _, firstEqual⟩ := dense.mem_sequences.mp (mem_map_of_mem firstMember)
  obtain ⟨_, _, _, secondEqual⟩ := dense.mem_sequences.mp (mem_map_of_mem secondMember)
  rw [seq, seq, firstEqual, secondEqual] at same
  rw [firstEqual, secondEqual]
  exact congrArg some same

end

end DenseAt

/-! ### One page -/

/-- A message a member sees after a number: its own number is above that one, not below the
one the member has joined at, and not above the one it has left at or the counter. -/
def VisibleAfter (store : Store) (uid conversationId after : Nat) (message : MessageRow) : Prop :=
  message ∈ store.messages ∧ ∃ conversation member,
    store.membership uid conversationId = some (conversation, member) ∧
      inRange conversationId (max after (member.joinedSeq - 1)) (lastVisible conversation member)
        message

theorem Store.membership_eq_some {store : Store} {uid conversationId : Nat}
    {conversation : ConversationRow} {member : MemberRow} :
    store.membership uid conversationId = some (conversation, member) ↔
      store.conversation conversationId = some conversation ∧
        (store.conversationMembers.find? fun row =>
          row.conversationId = conversationId ∧ row.uid = uid) = some member := by
  unfold Store.membership
  split
  · grind
  · grind

theorem inRange_iff {conversationId after last : Nat} :
    inRange conversationId after last message ↔
      message.conversationId = some conversationId ∧ after < message.seq ∧ message.seq ≤ last := by
  rw [inRange, decide_eq_true_iff, seq]

section Page

variable {store : Store} {uid conversationId : Nat} {conversation : ConversationRow}
  {member : MemberRow}

theorem visibleAfter_iff (found : store.membership uid conversationId = some (conversation, member))
    {after : Nat} :
    VisibleAfter store uid conversationId after message ↔
      message ∈ store.messagesOf conversationId ∧ max after (member.joinedSeq - 1) < message.seq ∧
        message.seq ≤ lastVisible conversation member := by
  rw [mem_messagesOf]
  constructor
  · rintro ⟨stored, other, otherMember, foundOther, within⟩
    cases found.symm.trans foundOther
    obtain ⟨same, above, atMost⟩ := inRange_iff.mp within
    exact ⟨⟨stored, same⟩, above, atMost⟩
  · rintro ⟨⟨stored, same⟩, above, atMost⟩
    exact ⟨stored, conversation, member, found, inRange_iff.mpr ⟨same, above, atMost⟩⟩

def Store.window (store : Store) (conversationId after last : Nat) : List MessageRow :=
  (store.messages.filter (inRange conversationId after last)).mergeSort bySequence

theorem mem_window {after last : Nat} :
    message ∈ store.window conversationId after last ↔
      message ∈ store.messagesOf conversationId ∧ after < message.seq ∧ message.seq ≤ last := by
  rw [Store.window, mem_mergeSort, mem_filter, inRange_iff, mem_messagesOf, and_assoc]

theorem pairwise_window (dense : DenseAt store conversationId) (after last : Nat) :
    (store.window conversationId after last).Pairwise
      fun first second => first.seq < second.seq := by
  have distinct : (store.window conversationId after last).Nodup := by
    rw [Store.window, (mergeSort_perm _ _).nodup_iff]
    refine (List.Nodup.of_map _ dense.nodup).sublist ?_
    refine monotone_filter_right _ fun message within => ?_
    exact decide_eq_true (inRange_iff.mp within).1
  refine ((pairwise_bySequence _).and distinct).imp_of_mem fun firstMember secondMember both => ?_
  refine lt_of_le_of_ne both.1 fun same => both.2 ?_
  exact dense.seq_injective (mem_window.mp firstMember).1 (mem_window.mp secondMember).1 same

theorem syncConversation_eq (uidPositive : 0 < uid) (idPositive : 0 < conversationId)
    (found : store.membership uid conversationId = some (conversation, member))
    (after : Nat) (pullCount : Int) :
    let start := max after (member.joinedSeq - 1)
    let window := store.window conversationId start (lastVisible conversation member)
    let count := boundedCount pullCount
    syncConversation store uid conversationId after pullCount =
      { error := .success
        conversationType := some conversation.type
        latestSeq := conversation.latestSeq
        nextSeq := Lists.lastKey seq start (window.take count)
        hasMore := count < window.length
        messages := window.take count } := by
  intro start window count
  have valid : ¬ ((uid : Int) ≤ 0 ∨ (conversationId : Int) ≤ 0 ∨ (after : Int) < 0) := by omega
  have rows : (page store.messages count
      (inRange conversationId start (lastVisible conversation member))).take count =
      window.take count := by
    rw [page, take_take, Nat.min_eq_left (Nat.le_succ count)]
    rfl
  have longer : decide (count < (page store.messages count
      (inRange conversationId start (lastVisible conversation member))).length) =
      decide (count < window.length) := by
    rw [decide_eq_decide, page, length_take, Nat.lt_min]
    exact and_iff_right (Nat.lt_succ_self count)
  have ends : (((window.take count).getLast?.bind conversationSeq).getD start) =
      Lists.lastKey seq start (window.take count) := by
    unfold Lists.lastKey
    cases last : (window.take count).getLast? with
    | none => rfl
    | some message =>
      have above := (mem_window.mp (mem_of_mem_take (mem_of_getLast? last))).2.1
      rw [bind_some, map_some]
      rw [seq] at above ⊢
      cases number : message.conversationSeq with
      | none =>
        rw [number] at above
        cases above
      | some seq => rfl
  unfold syncConversation
  rw [if_neg valid, Int.toNat_natCast, Int.toNat_natCast, Int.toNat_natCast, found]
  dsimp only
  rw [rows, ends, longer]

structure PageOf (store : Store) (uid conversationId after : Nat) (conversation : ConversationRow)
    (member : MemberRow) (sync : ConversationSyncResult) : Prop where
  increasing : sync.messages.Pairwise fun first second => first.seq < second.seq
  mem_iff : ∀ message, message ∈ sync.messages ↔
    VisibleAfter store uid conversationId after message ∧ message.seq ≤ sync.nextSeq
  atMost : sync.messages.length ≤ 100
  hasMore_iff : sync.hasMore ↔
    ∃ message, VisibleAfter store uid conversationId after message ∧ sync.nextSeq < message.seq
  start : max after (member.joinedSeq - 1) ≤ sync.nextSeq
  advances : sync.hasMore → after < sync.nextSeq
  reached : sync.nextSeq ≤ max (max after (member.joinedSeq - 1))
    (min conversation.latestSeq (lastVisible conversation member))

theorem boundedCount_le (pullCount : Int) : boundedCount pullCount ≤ 100 := by
  unfold boundedCount
  omega

theorem pageOf_syncConversation (uidPositive : 0 < uid) (idPositive : 0 < conversationId)
    (found : store.membership uid conversationId = some (conversation, member))
    (dense : DenseAt store conversationId) (after : Nat) (pullCount : Int) :
    PageOf store uid conversationId after conversation member
      (syncConversation store uid conversationId after pullCount) := by
  rw [syncConversation_eq uidPositive idPositive found]
  have increasing := pairwise_window dense (max after (member.joinedSeq - 1))
    (lastVisible conversation member)
  have positive := boundedCount_pos pullCount
  have visible : ∀ message, VisibleAfter store uid conversationId after message ↔
      message ∈ store.window conversationId (max after (member.joinedSeq - 1))
        (lastVisible conversation member) :=
    fun message => (visibleAfter_iff found).trans mem_window.symm
  have ends := Lists.lastKey_eq_or seq (max after (member.joinedSeq - 1))
    ((store.window conversationId (max after (member.joinedSeq - 1))
      (lastVisible conversation member)).take (boundedCount pullCount))
  have latest := Store.latestSeq_of_conversation (Store.membership_eq_some.mp found).1
  constructor
  case increasing => exact increasing.sublist (take_sublist _ _)
  case mem_iff =>
    intro message
    rw [visible]
    exact Lists.mem_take_iff increasing positive
  case atMost => exact (length_take_le _ _).trans (boundedCount_le pullCount)
  case hasMore_iff =>
    simp only [decide_eq_true_eq, visible]
    exact Lists.lt_length_iff increasing positive
  case start =>
    rcases ends with equal | ⟨last, isLast, equal⟩
    · exact equal.ge
    · exact equal ▸ (mem_window.mp (mem_of_mem_take isLast)).2.1.le
  case advances =>
    intro more
    refine lt_of_le_of_lt (le_max_left after (member.joinedSeq - 1)) ?_
    refine Lists.lt_lastKey_take increasing positive ?_ fun row stored =>
      (mem_window.mp stored).2.1
    exact length_pos_iff.mp (Nat.zero_lt_of_lt (of_decide_eq_true more))
  case reached =>
    rcases ends with equal | ⟨last, isLast, equal⟩
    · exact equal.le.trans (le_max_left _ _)
    obtain ⟨stored, _, atMost⟩ := mem_window.mp (mem_of_mem_take isLast)
    rw [← equal, ← latest]
    exact (le_min (dense.seq_le stored) atMost).trans (le_max_right _ _)

/-! ### Pages read one after the other -/

structure Paged (store : Store) (uid conversationId start : Nat) (conversation : ConversationRow)
    (member : MemberRow) (read : List MessageRow) (upTo : Nat) : Prop where
  increasing : read.Pairwise fun first second => first.seq < second.seq
  mem_iff : ∀ message, message ∈ read ↔
    VisibleAfter store uid conversationId start message ∧ message.seq ≤ upTo
  atLeast : start ≤ upTo
  reached : upTo ≤ max (max start (member.joinedSeq - 1))
    (min conversation.latestSeq (lastVisible conversation member))

theorem paged_nil (found : store.membership uid conversationId = some (conversation, member))
    (start : Nat) : Paged store uid conversationId start conversation member [] start where
  increasing := .nil
  mem_iff message := by
    refine iff_of_false not_mem_nil fun both => ?_
    have above := ((visibleAfter_iff found).mp both.1).2.1
    omega
  atLeast := le_rfl
  reached := (le_max_left _ _).trans (le_max_left _ _)

variable {start upTo : Nat} {read : List MessageRow}

theorem visibleAfter_iff_of_le
    (found : store.membership uid conversationId = some (conversation, member))
    (atLeast : start ≤ upTo) :
    VisibleAfter store uid conversationId upTo message ↔
      VisibleAfter store uid conversationId start message ∧ upTo < message.seq := by
  rw [visibleAfter_iff found, visibleAfter_iff found, and_assoc, and_congr_right_iff]
  omega

theorem Paged.page (paged : Paged store uid conversationId start conversation member read upTo)
    (found : store.membership uid conversationId = some (conversation, member))
    {sync : ConversationSyncResult}
    (next : PageOf store uid conversationId upTo conversation member sync) :
    Paged store uid conversationId start conversation member (read ++ sync.messages)
      sync.nextSeq := by
  have onward : upTo ≤ sync.nextSeq := (le_max_left _ _).trans next.start
  have nextMem : ∀ message, message ∈ sync.messages ↔
      (VisibleAfter store uid conversationId start message ∧ upTo < message.seq) ∧
        message.seq ≤ sync.nextSeq := by
    intro message
    rw [next.mem_iff, visibleAfter_iff_of_le found paged.atLeast]
  constructor
  case increasing =>
    refine pairwise_append.mpr ⟨paged.increasing, next.increasing, ?_⟩
    intro first firstMember second secondMember
    exact lt_of_le_of_lt ((paged.mem_iff first).mp firstMember).2
      ((nextMem second).mp secondMember).1.2
  case mem_iff =>
    intro message
    rw [mem_append, paged.mem_iff, nextMem]
    constructor
    · grind
    · grind
  case atLeast => exact paged.atLeast.trans onward
  case reached =>
    have := paged.reached
    have := next.reached
    omega

/-- Between two pages messages may be accepted: those that were there stay, the member's row
stays, and the numbers still have no gap. -/
structure Grows (uid conversationId : Nat) (before after : Store) : Prop where
  kept : ∀ message ∈ before.messagesOf conversationId, message ∈ after.messagesOf conversationId
  member : ∀ conversation member,
    before.membership uid conversationId = some (conversation, member) →
      ∃ later, after.membership uid conversationId = some (later, member)
  dense : DenseAt after conversationId

theorem Grows.latestSeq_le {after : Store} (grows : Grows uid conversationId store after)
    (dense : DenseAt store conversationId) :
    store.latestSeq conversationId ≤ after.latestSeq conversationId := by
  rcases Nat.eq_zero_or_pos (store.latestSeq conversationId) with zero | positive
  · rw [zero]
    exact Nat.zero_le _
  obtain ⟨last, isLast, equal⟩ := dense.exists_seq positive le_rfl
  rw [← equal]
  exact grows.dense.seq_le (grows.kept last isLast)

theorem Paged.grow (paged : Paged store uid conversationId start conversation member read upTo)
    (found : store.membership uid conversationId = some (conversation, member))
    (dense : DenseAt store conversationId) {after : Store}
    (grows : Grows uid conversationId store after) {later : ConversationRow}
    (foundLater : after.membership uid conversationId = some (later, member)) :
    Paged after uid conversationId start later member read upTo := by
  have counter : conversation.latestSeq ≤ later.latestSeq := by
    have latest := grows.latestSeq_le dense
    rw [Store.latestSeq_of_conversation (Store.membership_eq_some.mp found).1,
      Store.latestSeq_of_conversation (Store.membership_eq_some.mp foundLater).1] at latest
    exact latest
  have last : lastVisible conversation member ≤ lastVisible later member := by
    unfold lastVisible
    cases member.leftSeq with
    | none => exact counter
    | some leftSeq => exact le_rfl
  constructor
  case increasing => exact paged.increasing
  case mem_iff =>
    intro message
    rw [paged.mem_iff, visibleAfter_iff found, visibleAfter_iff foundLater]
    constructor
    · rintro ⟨⟨stored, above, atMost⟩, read⟩
      exact ⟨⟨grows.kept message stored, above, atMost.trans last⟩, read⟩
    rintro ⟨⟨stored, above, _⟩, read⟩
    have within : message.seq ≤ min conversation.latestSeq (lastVisible conversation member) := by
      have := paged.reached
      omega
    obtain ⟨old, isOld, same⟩ := dense.exists_seq (Nat.zero_lt_of_lt above)
      (Store.latestSeq_of_conversation (Store.membership_eq_some.mp found).1 ▸
        within.trans (min_le_left _ _))
    have equal : old = message := grows.dense.seq_injective (grows.kept old isOld) stored same
    exact ⟨⟨equal ▸ isOld, above, within.trans (min_le_right _ _)⟩, read⟩
  case atLeast => exact paged.atLeast
  case reached =>
    have := paged.reached
    omega

/-! ### The client's loop over one store -/

/-- Pages, each after the `nextSeq` of the one before, until one has no more behind it. The
limits are those of the requests to come. -/
def pullUntil (store : Store) (uid conversationId : Nat) :
    (Nat → Int) → Nat → Nat → Option (List ConversationSyncResult)
  | _, _, 0 => none
  | limits, after, fuel + 1 =>
    let sync := syncConversation store uid conversationId after (limits 0)
    if sync.hasMore then
      (pullUntil store uid conversationId (fun request => limits (request + 1)) sync.nextSeq
        fuel).map (sync :: ·)
    else some [sync]

theorem pullUntil_paged (uidPositive : 0 < uid) (idPositive : 0 < conversationId)
    (found : store.membership uid conversationId = some (conversation, member))
    (dense : DenseAt store conversationId) (limits : Nat → Int) {fuel : Nat}
    (paged : Paged store uid conversationId start conversation member read upTo)
    (enough : lastVisible conversation member - upTo < fuel) :
    ∃ pages, pullUntil store uid conversationId limits upTo fuel = some pages ∧
      (read ++ pages.flatMap messages).Pairwise
        (fun first second => first.seq < second.seq) ∧
      ∀ message, message ∈ read ++ pages.flatMap messages ↔
        VisibleAfter store uid conversationId start message := by
  induction fuel generalizing limits upTo read with
  | zero => cases enough
  | succ fuel inductionHypothesis =>
    have next := pageOf_syncConversation uidPositive idPositive found dense upTo (limits 0)
    have further := paged.page found next
    rw [pullUntil]
    by_cases more : (syncConversation store uid conversationId upTo (limits 0)).hasMore
    · obtain ⟨message, visible, behind⟩ := next.hasMore_iff.mp more
      have bounded := ((visibleAfter_iff found).mp visible).2.2
      have advanced := next.advances more
      obtain ⟨pages, returned, increasing, complete⟩ :=
        inductionHypothesis (fun request => limits (request + 1)) further (by omega)
      refine ⟨syncConversation store uid conversationId upTo (limits 0) :: pages, ?_, ?_, ?_⟩
      · rw [if_pos more, returned, map_some]
      · grind
      · rw [flatMap_cons, ← append_assoc]
        exact complete
    refine ⟨[syncConversation store uid conversationId upTo (limits 0)], if_neg more, ?_, ?_⟩
    · rw [flatMap_singleton]
      exact further.increasing
    intro message
    rw [flatMap_singleton, further.mem_iff]
    refine and_iff_left_of_imp fun visible => Nat.le_of_not_lt fun above => more ?_
    refine next.hasMore_iff.mpr ⟨message, ?_, above⟩
    exact (visibleAfter_iff_of_le found paged.atLeast).mpr
      ⟨visible, lt_of_le_of_lt ((le_max_left _ _).trans next.start) above⟩

/-! ### Pages over a growing store -/

def pagesOver (uid conversationId : Nat) : Nat → List (Store × Int) → List ConversationSyncResult
  | _, [] => []
  | after, (store, limit) :: rest =>
    let sync := syncConversation store uid conversationId after limit
    sync :: pagesOver uid conversationId sync.nextSeq rest

theorem pagesOver_paged (uidPositive : 0 < uid) (idPositive : 0 < conversationId)
    {requests : List (Store × Int)}
    (found : store.membership uid conversationId = some (conversation, member))
    (dense : DenseAt store conversationId)
    (growing : (store :: requests.map Prod.fst).IsChain (Grows uid conversationId))
    (paged : Paged store uid conversationId start conversation member read upTo) :
    (∃ later, Paged ((requests.map Prod.fst).getLastD store) uid conversationId start later member
      (read ++ (pagesOver uid conversationId upTo requests).flatMap messages)
      (((pagesOver uid conversationId upTo requests).map nextSeq).getLastD upTo)) ∧
    List.Forall₂ (fun request page => page.messages.length ≤ 100 ∧
        (page.hasMore ↔ ∃ message, VisibleAfter request.1 uid conversationId start message ∧
          page.nextSeq < message.seq))
      requests (pagesOver uid conversationId upTo requests) := by
  induction requests generalizing store conversation read upTo with
  | nil =>
    rw [pagesOver, flatMap_nil, append_nil]
    exact ⟨⟨conversation, paged⟩, .nil⟩
  | cons request rest inductionHypothesis =>
    obtain ⟨after, limit⟩ := request
    obtain ⟨grows, growingRest⟩ := isChain_cons_cons.mp growing
    obtain ⟨later, foundLater⟩ := grows.member conversation member found
    have grown := paged.grow found dense grows foundLater
    have next := pageOf_syncConversation uidPositive idPositive foundLater grows.dense upTo limit
    obtain ⟨final, pages⟩ :=
      inductionHypothesis foundLater grows.dense growingRest (grown.page foundLater next)
    refine ⟨?_, .cons ⟨next.atMost, ?_⟩ pages⟩
    · grind [pagesOver, append_assoc, getLastD_cons]
    rw [next.hasMore_iff]
    refine exists_congr fun message => ?_
    rw [visibleAfter_iff_of_le foundLater paged.atLeast, and_assoc, and_congr_right_iff]
    refine fun _ => and_iff_right_of_imp fun above => ?_
    exact lt_of_le_of_lt ((le_max_left _ _).trans next.start) above

end Page

/-! ### Accepted messages make a store grow -/

section Accepted

variable {collate : String → String} {isolation : Isolation} {system next final : AcceptSystem}
  {uid conversationId : Nat}

theorem acceptStep_membership (sound : AcceptSound collate system) {action : AcceptAction}
    (taken : acceptStep collate isolation system action = some next)
    {conversation : ConversationRow} {member : MemberRow}
    (found : system.store.membership uid conversationId = some (conversation, member)) :
    ∃ later, next.store.membership uid conversationId = some (later, member) := by
  obtain ⟨foundConversation, foundMember⟩ := Store.membership_eq_some.mp found
  obtain ⟨autoIncrement, tables⟩ | ⟨call, state, replied, _, running, reached, tables⟩ :=
    acceptStep_store taken
  · refine ⟨conversation, Store.membership_eq_some.mpr ?_⟩
    rw [tables]
    exact ⟨foundConversation, foundMember⟩
  obtain ⟨upserted, _⟩ := sound.stage running reached
  obtain ⟨later, foundLater⟩ := isSome_iff_exists.mp (upserted.isSome_apply
    (isSome_iff_exists.mpr ⟨conversation, foundConversation⟩))
  refine ⟨later, Store.membership_eq_some.mpr ?_⟩
  rw [tables]
  refine ⟨foundLater, ?_⟩
  unfold Store.apply
  rw [find?_append, foundMember, some_or]

theorem Effect.messages_kept {before after : Store} {inserted : Option MessageRow}
    (effect : Effect collate before after inserted) (member : message ∈ before.messages) :
    message ∈ after.messages := by
  cases effect with
  | unchanged messages _ => exact messages ▸ member
  | appended _ _ _ _ messages _ _ =>
    rw [messages]
    exact mem_append_left _ member

/-- However the accepting calls are interleaved between two pages, the store grows. -/
theorem grows_run (sound : AcceptSound collate system) (dense : Dense system.store)
    {actions : List AcceptAction}
    (taken : run (acceptStep collate isolation) system actions = some final) :
    Grows uid conversationId system.store final.store := by
  have kept := run_relation (AcceptSound collate)
    (fun first second =>
      (∀ message ∈ first.store.messages, message ∈ second.store.messages) ∧
        ∀ conversation member,
          first.store.membership uid conversationId = some (conversation, member) →
            ∃ later, second.store.membership uid conversationId = some (later, member))
    (fun _ => ⟨fun _ => id, fun conversation _ found => ⟨conversation, found⟩⟩)
    (fun _ _ _ early late => ⟨fun message member => late.1 message (early.1 message member),
      fun conversation member found =>
        have ⟨later, foundLater⟩ := early.2 conversation member found
        late.2 later member foundLater⟩)
    (fun state action next stateSound step =>
      have ⟨_, _, effect⟩ := (acceptStep_took stateSound step).own
      ⟨acceptSound_step state action next stateSound step,
        fun _ => effect.messages_kept,
        fun _ _ => acceptStep_membership stateSound step⟩)
    sound taken
  refine ⟨fun message member => ?_, kept.2, (dense_run sound dense taken).2 conversationId⟩
  obtain ⟨stored, same⟩ := mem_messagesOf.mp member
  exact mem_messagesOf.mpr ⟨kept.1 message stored, same⟩

end Accepted

/-! ### Paging is complete -/

/-- A conversation is numbered without a gap and a user has a row in it. The client's loop
ends, whatever limits it asks for, and its pages are the messages visible after the number it
starts from, each once and in increasing order. Pages read while messages are accepted are, in
increasing order, the messages visible up to the last `nextSeq`; each has at most 100 messages,
and has more behind it exactly if a visible message was there to follow. -/
theorem sync_paging_complete {store : Store} {uid conversationId : Nat}
    {conversation : ConversationRow} {member : MemberRow} (uidPositive : 0 < uid)
    (idPositive : 0 < conversationId)
    (found : store.membership uid conversationId = some (conversation, member))
    (dense : DenseAt store conversationId) (after : Nat) :
    (∀ (limits : Nat → Int) (fuel : Nat), lastVisible conversation member - after < fuel →
      ∃ pages, pullUntil store uid conversationId limits after fuel = some pages ∧
        (pages.flatMap messages).Pairwise
          (fun first second => first.seq < second.seq) ∧
        ∀ message, message ∈ pages.flatMap messages ↔
          message ∈ store.messages ∧ message.conversationId = some conversationId ∧
            max after (member.joinedSeq - 1) < message.seq ∧
            message.seq ≤ member.leftSeq.getD conversation.latestSeq) ∧
    ∀ requests : List (Store × Int),
      (store :: requests.map Prod.fst).IsChain (Grows uid conversationId) →
      let pages := pagesOver uid conversationId after requests
      (pages.flatMap messages).Pairwise
          (fun first second => first.seq < second.seq) ∧
        (∀ message, message ∈ pages.flatMap messages ↔
          VisibleAfter ((requests.map Prod.fst).getLastD store) uid conversationId after message ∧
            message.seq ≤ (pages.map nextSeq).getLastD after) ∧
        List.Forall₂ (fun request page => page.messages.length ≤ 100 ∧
            (page.hasMore ↔ ∃ message, VisibleAfter request.1 uid conversationId after message ∧
              page.nextSeq < message.seq))
          requests pages := by
  have nothingRead := paged_nil found after
  refine ⟨fun limits fuel enough => ?_, fun requests growing => ?_⟩
  · obtain ⟨pages, returned, increasing, complete⟩ :=
      pullUntil_paged uidPositive idPositive found dense limits nothingRead enough
    refine ⟨pages, returned, increasing, fun message => (complete message).trans ?_⟩
    rw [visibleAfter_iff found, mem_messagesOf, and_assoc, lastVisible]
  · obtain ⟨⟨_, paged⟩, pages⟩ :=
      pagesOver_paged uidPositive idPositive found dense growing nothingRead
    exact ⟨paged.increasing, paged.mem_iff, pages⟩

def textsAfter (clientMessageIds : List String) : AcceptSystem :=
  acceptAfter friendsStore
    (clientMessageIds.zipIdx.flatMap fun sent => (directText sent.1).script sent.2)

/-- The premises hold after one message, and with two more accepted before the second page. -/
theorem sync_paging_complete_three :
    (textsAfter ["a"]).store.sequences 5 = [some 1] ∧
    (textsAfter ["a", "b", "c"]).store.sequences 5 = [some 1, some 2, some 3] ∧
    (∃ pages, pullUntil (textsAfter ["a"]).store 2 5 (fun _ => 2) 0 2 = some pages) ∧
    ((pagesOver 2 5 0 [((textsAfter ["a"]).store, 2),
        ((textsAfter ["a", "b", "c"]).store, 1)]).flatMap
      messages).Pairwise (fun first second => first.seq < second.seq) := by
  have reached : run (acceptStep id .repeatableRead) { store := friendsStore }
      ((directText "a").script 0) = some (textsAfter ["a"]) := run_acceptAfter (by decide +kernel)
  have continued : run (acceptStep id .repeatableRead) (textsAfter ["a"])
      ((directText "b").script 1 ++ (directText "c").script 2) =
      some (textsAfter ["a", "b", "c"]) := rfl
  obtain ⟨sound, dense⟩ :=
    dense_run (acceptSound_initial id keyed_friendsStore) dense_friendsStore reached
  have same : Grows 2 5 (textsAfter ["a"]).store (textsAfter ["a"]).store :=
    ⟨fun _ => id, fun conversation _ found => ⟨conversation, found⟩, dense 5⟩
  have found : (textsAfter ["a"]).store.membership 2 5 =
      some ({ conversationId := 5, type := .direct, businessId := 5, latestSeq := 1 },
        { conversationId := 5, uid := 2 }) := by decide +kernel
  obtain ⟨loop, growing⟩ := sync_paging_complete (by decide) (by decide) found (dense 5) 0
  refine ⟨by decide +kernel, by decide +kernel, ?_, (growing _ ?_).1⟩
  · obtain ⟨pages, returned, _⟩ := loop (fun _ => 2) 2 (by decide)
    exact ⟨pages, returned⟩
  · exact .cons_cons same (.cons_cons (grows_run sound dense continued) (.singleton _))

end Wimi.Server
