/-
This file proves that the messages of a conversation are numbered without a gap:
in every store the accepting transactions reach, the sequence numbers of a
conversation are `1` to its counter, each once, and the counter never falls.

The start needs its conversations under the ids that the friends and groups lead
to, which is how the transactions write them. Otherwise the upsert of a group
whose conversation stands under another id moves the row away from its messages,
and the last theorem shows the hole that this leaves.
-/

import Wimi.Server.AcceptSound

namespace Wimi.Server

open Function List Option Transition

/-! ### Density and one step -/

/-- The sequence numbers of every conversation are `1` to its counter, each once. -/
def Dense (store : Store) : Prop :=
  ∀ conversationId, (store.sequences conversationId).Perm
    ((List.range' 1 (store.latestSeq conversationId)).map some)

theorem Dense.length {store : Store} (dense : Dense store) (conversationId : Nat) :
    store.latestSeq conversationId = (store.messagesOf conversationId).length := by
  have lengths := (dense conversationId).length_eq
  rw [length_map, length_range'] at lengths
  rw [← lengths, Store.sequences, length_map]

variable {after before : Store} {actions : List AcceptAction}

theorem sequences_of_messages_eq (messages : after.messages = before.messages)
    (conversationId : Nat) : after.sequences conversationId = before.sequences conversationId := by
  unfold Store.sequences Store.messagesOf
  rw [messages]

theorem sequences_append {message : MessageRow} {conversationId : Nat}
    (conversation : message.conversationId = some conversationId)
    (messages : after.messages = before.messages ++ [message]) (other : Nat) :
    after.sequences other = before.sequences other ++
      if other = conversationId then [message.conversationSeq] else [] := by
  unfold Store.sequences Store.messagesOf
  rw [messages, filter_append, map_append, filter_singleton, conversation]
  by_cases same : other = conversationId
  · simp [same]
  · simp [same, Ne.symm same]

section

variable {collate : String → String} {inserted : Option MessageRow}
  (effect : Effect collate before after inserted)
include effect

theorem Effect.dense (dense : Dense before) : Dense after := by
  intro other
  cases effect with
  | unchanged messages latestSeq =>
    rw [sequences_of_messages_eq messages, latestSeq]
    exact dense other
  | appended message conversationId conversation sequence messages latestSeq _ =>
    rw [sequences_append conversation messages, latestSeq, sequence]
    by_cases same : other = conversationId
    · rw [if_pos same, same, update_self, range'_concat, map_append, Nat.one_mul,
        Nat.add_comm 1]
      exact (dense conversationId).append_right _
    · rw [if_neg same, update_of_ne same, append_nil]
      exact dense other

theorem Effect.latestSeq_le (other : Nat) : before.latestSeq other ≤ after.latestSeq other := by
  cases effect with
  | unchanged _ latestSeq => rw [latestSeq]
  | appended _ conversationId _ _ _ latestSeq _ =>
    rw [latestSeq]
    by_cases same : other = conversationId
    · rw [same, update_self]
      exact Nat.le_succ _
    · rw [update_of_ne same]

end

/-! ### Whole runs -/

section Runs

variable {collate : String → String} {isolation : Isolation}

theorem dense_run {system final : AcceptSystem} (sound : AcceptSound collate system)
    (dense : Dense system.store)
    (taken : run (acceptStep collate isolation) system actions = some final) :
    AcceptSound collate final ∧ Dense final.store := by
  refine run_invariant (fun system => AcceptSound collate system ∧ Dense system.store)
    ?_ ⟨sound, dense⟩ taken
  rintro state action next ⟨stateSound, stateDense⟩ step
  obtain ⟨_, _, effect⟩ := (acceptStep_took stateSound step).own
  exact ⟨acceptSound_step state action next stateSound step, effect.dense stateDense⟩

theorem latestSeq_le_run {system final : AcceptSystem} (sound : AcceptSound collate system)
    (taken : run (acceptStep collate isolation) system actions = some final)
    (conversationId : Nat) :
    system.store.latestSeq conversationId ≤ final.store.latestSeq conversationId := by
  refine run_relation (AcceptSound collate)
    (fun first second =>
      first.store.latestSeq conversationId ≤ second.store.latestSeq conversationId)
    (fun _ => le_rfl) (fun _ _ _ => le_trans) ?_ sound taken
  intro state action next stateSound step
  obtain ⟨_, _, effect⟩ := (acceptStep_took stateSound step).own
  exact ⟨acceptSound_step state action next stateSound step, effect.latestSeq_le conversationId⟩

end Runs

/-- However the calls are interleaved and wherever they fail, from a store that is dense and
has its conversations under their own ids: every store reached is dense, the counter of a
conversation is the number of its messages, and it never falls on the way. -/
theorem sequences_dense_in_every_run (collate : String → String) (isolation : Isolation)
    {store : Store} (keyed : Keyed store) (dense : Dense store)
    {first second : List AcceptAction} {middle final : AcceptSystem}
    (reached : run (acceptStep collate isolation) { store := store } first =
      some middle)
    (continued : run (acceptStep collate isolation) middle second = some final) :
    Dense final.store ∧
      (∀ conversationId, final.store.latestSeq conversationId =
        (final.store.messagesOf conversationId).length) ∧
      ∀ conversationId, middle.store.latestSeq conversationId ≤
        final.store.latestSeq conversationId := by
  obtain ⟨middleSound, middleDense⟩ :=
    dense_run (acceptSound_initial collate keyed) dense reached
  obtain ⟨_, finalDense⟩ := dense_run middleSound middleDense continued
  exact ⟨finalDense, finalDense.length, latestSeq_le_run middleSound continued⟩

/-! ### Two friends, and a group under another id -/

def friendsStore : Store :=
  { friends := [⟨1, 2, 5⟩, ⟨2, 1, 5⟩] }

def directText (clientMessageId : String) : AcceptCommand where
  type := .direct
  senderId := 1
  receiverId := 2
  clientMessageId := clientMessageId
  content := "hello"
  sendDateTime := ""

def acceptAfter (store : Store) (actions : List AcceptAction) : AcceptSystem :=
  (run (acceptStep id .repeatableRead) { store } actions).getD
    { store }

theorem run_acceptAfter {store : Store}
    (enabled : (run (acceptStep id .repeatableRead) { store } actions).isSome) :
    run (acceptStep id .repeatableRead) { store } actions =
      some (acceptAfter store actions) := by
  obtain ⟨final, taken⟩ := isSome_iff_exists.mp enabled
  rw [acceptAfter, taken, getD_some]

theorem keyed_friendsStore : Keyed friendsStore := nofun

theorem dense_friendsStore : Dense friendsStore := fun _ => .refl _

/-- A run of two messages: the premises hold, and the store reached has both. -/
theorem sequences_dense_in_every_run_twice :
    (acceptAfter friendsStore ((directText "a").script 0 ++
        (directText "b").script 1)).store.sequences 5 = [some 1, some 2] ∧
      Dense (acceptAfter friendsStore ((directText "a").script 0 ++
        (directText "b").script 1)).store :=
  ⟨by decide +kernel,
    (sequences_dense_in_every_run id .repeatableRead keyed_friendsStore dense_friendsStore
      (run_nil _) (run_acceptAfter (by decide +kernel))).1⟩

def movedGroupStore : Store where
  groupInfo := [⟨7, 9⟩]
  groupMembers := [{ gid := 7, uid := 1 }]
  conversations := [{ conversationId := 5, type := .group, businessId := 7, latestSeq := 1 }]
  messages :=
    [{ messageId := 1, senderId := 1, receiverId := 7, conversationId := some 5,
       conversationSeq := some 1, clientMessageId := some "a", content := "first" }]
  autoIncrement := 2

def groupText : AcceptCommand where
  type := .group
  senderId := 1
  receiverId := 7
  clientMessageId := "b"
  content := "second"
  sendDateTime := ""

/-- From a dense store whose group conversation has another id than the group's session key,
one accepted message moves the row away from its messages: the conversation it then counts
for starts at the number 2, and the counter of the old one has fallen. -/
theorem moved_conversation_leaves_gap :
    Dense movedGroupStore ∧
      (run (acceptStep id .repeatableRead) { store := movedGroupStore }
        (groupText.script 0)).isSome ∧
      (acceptAfter movedGroupStore (groupText.script 0)).store.sequences 9 = [some 2] ∧
      (acceptAfter movedGroupStore (groupText.script 0)).store.latestSeq 5 <
        movedGroupStore.latestSeq 5 ∧
      ¬ Dense (acceptAfter movedGroupStore (groupText.script 0)).store := by
  refine ⟨fun conversationId => ?_, by decide +kernel, by decide +kernel, by decide +kernel,
    fun dense => ?_⟩
  · by_cases same : conversationId = 5
    · subst same
      exact .refl _
    · have none : movedGroupStore.sequences conversationId = [] := by
        simp [Store.sequences, Store.messagesOf, movedGroupStore, Ne.symm same]
      have zero : movedGroupStore.latestSeq conversationId = 0 := by
        simp [Store.latestSeq, latestSeqIn, movedGroupStore, Ne.symm same]
      rw [none, zero]
      exact .refl _
  · exact absurd (dense 9) (by decide +kernel)

end Wimi.Server
