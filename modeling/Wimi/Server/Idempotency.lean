/-
This file proves that a command is sent once, however often it is retried: there
is at most one committed message under a client message id, every successful call
for it returns that message, only the call that inserted it does not call it a
duplicate, and a call that inserts nothing leaves the messages and the counters.

The lookup for an earlier message may read an old snapshot and miss it. What keeps
the message single is the unique key, which the inserting call holds to its end;
a call that finds the key taken fails.
-/

import Wimi.Server.Density

namespace Wimi.Server

open List Option Transition

/-! ### One message under a client message id -/

def UniqueClientIds (collate : String → String) (store : Store) : Prop :=
  ∀ senderId clientMessageId,
    store.messages.countP (hasClientId collate senderId clientMessageId) ≤ 1

variable {collate : String → String} {call : Nat} {message : MessageRow} {state : AcceptCall}
  {system : AcceptSystem}

theorem UniqueClientIds.eq {store : Store} (unique : UniqueClientIds collate store) {senderId : Nat}
    {clientMessageId : String} {first second : MessageRow} (firstMember : first ∈ store.messages)
    (firstHas : hasClientId collate senderId clientMessageId first)
    (secondMember : second ∈ store.messages)
    (secondHas : hasClientId collate senderId clientMessageId second) : first = second := by
  have atMostOne := unique senderId clientMessageId
  rw [countP_eq_length_filter] at atMostOne
  obtain ⟨only, all⟩ : ∃ only, ∀ message ∈ store.messages.filter
      (hasClientId collate senderId clientMessageId), message = only := by
    match filtered : store.messages.filter (hasClientId collate senderId clientMessageId) with
    | [] => exact ⟨first, forall_mem_nil _⟩
    | [only] => exact ⟨only, fun _ member => mem_singleton.mp member⟩
    | _ :: _ :: _ =>
      rw [filtered] at atMostOne
      simp at atMostOne
  rw [all first (mem_filter.mpr ⟨firstMember, firstHas⟩),
    all second (mem_filter.mpr ⟨secondMember, secondHas⟩)]

theorem Effect.uniqueClientIds {before after : Store} {inserted : Option MessageRow}
    (effect : Effect collate before after inserted) (unique : UniqueClientIds collate before) :
    UniqueClientIds collate after := by
  intro senderId clientMessageId
  cases effect with
  | unchanged messages _ =>
    rw [messages]
    exact unique senderId clientMessageId
  | appended message _ _ _ messages _ fresh =>
    rw [messages, countP_append, countP_singleton]
    by_cases holds : hasClientId collate senderId clientMessageId message = true
    · have none : before.messages.countP (hasClientId collate senderId clientMessageId) = 0 :=
        countP_eq_zero.mpr (fresh senderId clientMessageId holds)
      rw [none, if_pos holds]
    · rw [if_neg holds]
      exact unique senderId clientMessageId

/-! ### One call that inserts it -/

theorem AcceptSound.inserted (sound : AcceptSound collate system)
    (found : system.calls call = some state) (inserted : state.inserted = some message) :
    message ∈ system.store.messages ∧ Names collate state message ∧
      state.accepted.duplicate = false := by
  have own := sound.calls call state found
  by_cases done : state.phase = .done
  · have stage := own.stage
    unfold Stage at stage
    rw [done] at stage
    exact stage.inserted message inserted
  · rw [own.pending done] at inserted
    cases inserted

def OneInserter (collate : String → String) (system : AcceptSystem) : Prop :=
  ∀ call other state otherState message otherMessage,
    system.calls call = some state → system.calls other = some otherState →
    state.inserted = some message → otherState.inserted = some otherMessage →
    ∀ senderId clientMessageId, hasClientId collate senderId clientMessageId message →
      hasClientId collate senderId clientMessageId otherMessage → call = other

theorem Took.distinct {next : AcceptSystem} (took : Took collate system call next)
    (sound : AcceptSound collate system) (own : next.calls call = some state)
    (inserted : state.inserted = some message) {other : Nat} (different : other ≠ call)
    {otherState : AcceptCall} (found : next.calls other = some otherState)
    {otherMessage : MessageRow} (otherInserted : otherState.inserted = some otherMessage)
    {senderId : Nat} {clientMessageId : String}
    (holds : hasClientId collate senderId clientMessageId message) :
    ¬ hasClientId collate senderId clientMessageId otherMessage := by
  obtain ⟨after, same, effect⟩ := took.own
  obtain rfl := some.inj (own.symm.trans same)
  rw [took.others other different] at found
  have member := (sound.inserted found otherInserted).1
  rw [inserted] at effect
  cases effect with
  | appended _ _ _ _ _ _ fresh => exact fresh senderId clientMessageId holds _ member

theorem Took.oneInserter {next : AcceptSystem} (took : Took collate system call next)
    (sound : AcceptSound collate system) (one : OneInserter collate system) :
    OneInserter collate next := by
  intro first second firstState secondState firstMessage secondMessage firstFound secondFound
    firstInserted secondInserted senderId clientMessageId firstHas secondHas
  by_cases firstHere : first = call
  · subst firstHere
    by_contra different
    exact took.distinct sound firstFound firstInserted (Ne.symm different) secondFound
      secondInserted firstHas secondHas
  by_cases secondHere : second = call
  · subst secondHere
    exact absurd firstHas (took.distinct sound secondFound secondInserted firstHere firstFound
      firstInserted secondHas)
  rw [took.others first firstHere] at firstFound
  rw [took.others second secondHere] at secondFound
  exact one first second firstState secondState firstMessage secondMessage firstFound
    secondFound firstInserted secondInserted senderId clientMessageId firstHas secondHas

/-! ### What every run gives -/

structure SentOnce (collate : String → String) (system : AcceptSystem) : Prop where
  sound : AcceptSound collate system
  unique : UniqueClientIds collate system.store
  one : OneInserter collate system

theorem sentOnce_run {isolation : Isolation} {final : AcceptSystem} {actions : List AcceptAction}
    (once : SentOnce collate system)
    (taken : run (acceptStep collate isolation) system actions = some final) :
    SentOnce collate final := by
  refine run_invariant (SentOnce collate) ?_ once taken
  rintro state action next ⟨sound, unique, one⟩ step
  have took := acceptStep_took sound step
  obtain ⟨_, _, effect⟩ := took.own
  exact ⟨acceptSound_step state action next sound step, effect.uniqueClientIds unique,
    took.oneInserter sound one⟩

def Succeeded (state : AcceptCall) : Prop :=
  state.phase = .done ∧ state.accepted.error = .success

instance (state : AcceptCall) : Decidable (Succeeded state) :=
  inferInstanceAs (Decidable (_ ∧ _))

theorem AcceptSound.succeeded (sound : AcceptSound collate system)
    (found : system.calls call = some state) (success : Succeeded state) :
    (∃ message ∈ system.store.messages, Names collate state message) ∧
      (state.accepted.duplicate = true ↔ state.inserted = none) := by
  cases inserted : state.inserted with
  | some message =>
    obtain ⟨member, names, fresh⟩ := sound.inserted found inserted
    refine ⟨⟨message, member, names⟩, ?_⟩
    simp only [fresh, reduceCtorEq]
  | none =>
    have stage := (sound.calls call state found).stage
    unfold Stage at stage
    rw [success.1] at stage
    obtain ⟨duplicate, exists_⟩ := stage.repeated inserted success.2
    exact ⟨exists_, fun _ => rfl, fun _ => duplicate⟩

def SameClientId (collate : String → String) (command other : AcceptCommand) : Prop :=
  command.senderId = other.senderId ∧
    collate command.clientMessageId = collate other.clientMessageId

theorem SameClientId.hasClientId_iff {command other : AcceptCommand}
    (same : SameClientId collate command other) (message : MessageRow) :
    hasClientId collate command.senderId command.clientMessageId message =
      hasClientId collate other.senderId other.clientMessageId message := by
  unfold hasClientId
  rw [same.1, same.2]

/-- What a client that retries may rely on. -/
structure Idempotent (collate : String → String) (isolation : Isolation) (system : AcceptSystem) :
    Prop where
  atMostOne : ∀ senderId clientMessageId,
    system.store.messages.countP (hasClientId collate senderId clientMessageId) ≤ 1
  sameResult : ∀ call other state otherState, system.calls call = some state →
    system.calls other = some otherState → SameClientId collate state.command otherState.command →
    Succeeded state → Succeeded otherState →
    state.accepted.messageId = otherState.accepted.messageId ∧
      state.accepted.conversationId = otherState.accepted.conversationId ∧
      state.accepted.conversationSeq = otherState.accepted.conversationSeq
  duplicate : ∀ call state, system.calls call = some state → Succeeded state →
    (state.accepted.duplicate = true ↔ state.inserted = none)
  oneInserter : ∀ call other state otherState, system.calls call = some state →
    system.calls other = some otherState → SameClientId collate state.command otherState.command →
    state.inserted.isSome → otherState.inserted.isSome → call = other
  conflict : ∀ call state, system.calls call = some state →
    ∀ message ∈ system.store.messages,
      hasClientId collate state.command.senderId state.command.clientMessageId message →
      message.conversationId ≠ some state.accepted.conversationId ∨
        message.receiverId ≠ state.command.receiverId ∨
        message.content ≠ state.command.content →
      ¬ Succeeded state
  unchanged : ∀ action next, acceptStep collate isolation system action = some next →
    (∀ state, next.calls action.call = some state → state.inserted = none) →
    next.store.messages = system.store.messages ∧
      ∀ conversationId, next.store.latestSeq conversationId = system.store.latestSeq conversationId

theorem SentOnce.sameResult (once : SentOnce collate system) {other : Nat} {otherState : AcceptCall}
    (found : system.calls call = some state) (otherFound : system.calls other = some otherState)
    (same : SameClientId collate state.command otherState.command) (success : Succeeded state)
    (otherSuccess : Succeeded otherState) :
    state.accepted.messageId = otherState.accepted.messageId ∧
      state.accepted.conversationId = otherState.accepted.conversationId ∧
      state.accepted.conversationSeq = otherState.accepted.conversationSeq := by
  obtain ⟨message, member, names⟩ := (once.sound.succeeded found success).1
  obtain ⟨otherMessage, otherMember, otherNames⟩ := (once.sound.succeeded otherFound otherSuccess).1
  have otherHas := otherNames.clientId
  rw [← same.hasClientId_iff] at otherHas
  obtain rfl := once.unique.eq member names.clientId otherMember otherHas
  exact ⟨names.messageId.symm.trans otherNames.messageId,
    some.inj (names.conversationId.symm.trans otherNames.conversationId),
    some.inj (names.conversationSeq.symm.trans otherNames.conversationSeq)⟩

theorem SentOnce.conflict (once : SentOnce collate system) (found : system.calls call = some state)
    (member : message ∈ system.store.messages)
    (has : hasClientId collate state.command.senderId state.command.clientMessageId message)
    (differs : message.conversationId ≠ some state.accepted.conversationId ∨
      message.receiverId ≠ state.command.receiverId ∨
      message.content ≠ state.command.content) : ¬ Succeeded state := by
  intro success
  obtain ⟨named, namedMember, names⟩ := (once.sound.succeeded found success).1
  obtain rfl := once.unique.eq member has namedMember names.clientId
  rcases differs with conversation | receiver | content
  · exact conversation names.conversationId
  · exact receiver names.receiverId
  · exact content names.content

theorem SentOnce.idempotent {isolation : Isolation} (once : SentOnce collate system) :
    Idempotent collate isolation system where
  atMostOne := once.unique
  sameResult _ _ _ _ found otherFound same success otherSuccess :=
    once.sameResult found otherFound same success otherSuccess
  duplicate _ _ found success := (once.sound.succeeded found success).2
  oneInserter call other state otherState found otherFound same inserted otherInserted := by
    obtain ⟨message, inserted⟩ := isSome_iff_exists.mp inserted
    obtain ⟨otherMessage, otherInserted⟩ := isSome_iff_exists.mp otherInserted
    have otherHas := (once.sound.inserted otherFound otherInserted).2.1.clientId
    rw [← same.hasClientId_iff] at otherHas
    exact once.one call other state otherState message otherMessage found otherFound inserted
      otherInserted _ _ (once.sound.inserted found inserted).2.1.clientId otherHas
  conflict _ _ found _ member has differs := once.conflict found member has differs
  unchanged action next taken none := by
    obtain ⟨state, own, effect⟩ := (acceptStep_took once.sound taken).own
    rw [none state own] at effect
    cases effect with
    | unchanged messages latestSeq => exact ⟨messages, congrFun latestSeq⟩

/-- However calls and retries are interleaved and wherever they fail, from a store that keeps
its unique key and has its conversations under their own ids: sending is idempotent in every
state reached. -/
theorem sends_idempotent_in_every_run (collate : String → String) (isolation : Isolation)
    {store : Store} (keyed : Keyed store) (unique : UniqueClientIds collate store)
    {actions : List AcceptAction} {final : AcceptSystem}
    (taken : run (acceptStep collate isolation) { store := store } actions =
      some final) : Idempotent collate isolation final := by
  refine SentOnce.idempotent (sentOnce_run ⟨acceptSound_initial collate keyed, unique, ?_⟩ taken)
  exact fun _ _ _ _ _ _ found => nomatch found

/-- A message and its retry: the premises hold, and both calls have succeeded. -/
theorem sends_idempotent_in_every_run_retried :
    ∃ final, run (acceptStep id .repeatableRead) { store := friendsStore }
        ((directText "a").script 0 ++
          (.begin 1 (directText "a") :: replicate 4 (.execute 1) ++ [.commit 1 true])) =
        some final ∧
      (final.calls 0).any Succeeded ∧ (final.calls 1).any Succeeded ∧
      ((final.calls 1).any fun state => state.accepted.duplicate) ∧
      Idempotent id .repeatableRead final :=
  ⟨_, run_acceptAfter (by decide +kernel), by decide +kernel, by decide +kernel,
    by decide +kernel,
    sends_idempotent_in_every_run id .repeatableRead keyed_friendsStore (fun _ _ => Nat.zero_le 1)
      (run_acceptAfter (by decide +kernel))⟩

end Wimi.Server
