/-
This file models `SessionRegistry::Bind`, the login of a session on one Gateway.

A `Bind` has three parts that other logins can come between: the Redis script
that draws the generation, the locked update of the local map, and the `Close` of
the session the update has displaced. Nothing ties the order of the map updates
to the order of the generations, so two logins of one user can leave the older
one in the map and close the newer. The file states the order under which that
cannot happen and proves that every run that keeps to it ends with the newest
login registered and open.
-/

import Wimi.Server.SessionLease

namespace Wimi.Gateway

open Function List Option Transition Wimi.Server

/-! ### The registry and its calls -/

structure RegistryConfig where
  gatewayId : String
  instanceId : String
  leaseTtlSeconds : Int := 60

structure LocalSession where
  session : Nat
  lease : SessionLease
deriving DecidableEq, Repr

/-- How far a call of `Bind` has come. A call that failed returns no lease. -/
inductive BindCall where
  | idle
  | drawn (session : Nat) (lease : SessionLease)
  | stored (session : Nat) (lease : SessionLease) (oldSession : Option Nat)
  | returned (session : Nat) (lease : Option SessionLease)
deriving DecidableEq, Repr

variable {session : Nat}

namespace BindCall

def registered : BindCall → Option LocalSession
  | .stored session lease _ => some ⟨session, lease⟩
  | .returned session (some lease) => some ⟨session, lease⟩
  | _ => none

def closing : BindCall → Option Nat
  | .stored _ _ oldSession => oldSession
  | _ => none

def afterDraw (session : Nat) (lease : SessionLease) : BindCall :=
  if lease.generation ≤ 0 then .returned session none else .drawn session lease

@[simp] theorem registered_afterDraw (session : Nat) (lease : SessionLease) :
    (afterDraw session lease).registered = none := by
  unfold afterDraw
  split <;> rfl

@[simp] theorem closing_afterDraw (session : Nat) (lease : SessionLease) :
    (afterDraw session lease).closing = none := by
  unfold afterDraw
  split <;> rfl

theorem session_of_afterDraw {drawer : Nat} {lease drawn : SessionLease}
    (goesOn : afterDraw session lease = .drawn drawer drawn) : drawer = session := by
  unfold afterDraw at goesOn
  split at goesOn <;> cases goesOn
  rfl

def Finished : BindCall → Prop
  | .idle => True
  | .drawn _ _ => False
  | .stored _ _ _ => False
  | .returned _ _ => True

theorem returned_of_finished {call : BindCall} {entry : LocalSession} (finished : call.Finished)
    (placed : call.registered = some entry) :
    call = .returned entry.session (some entry.lease) := by
  cases call with
  | idle => cases placed
  | drawn | stored => cases finished
  | returned session lease =>
    cases lease with
    | none => cases placed
    | some lease =>
      cases placed
      rfl

end BindCall

structure RegistrySystem where
  leases : LeaseSystem
  sessions : Int → Option LocalSession
  calls : Nat → BindCall
  closed : List Nat

open RegistrySystem

/-- A part of some `Bind` call, or a script or expiry that this Gateway has no part in. The
weak pointer the map update finds may have expired. -/
inductive RegistryAction where
  | draw (call session : Nat) (answered : Bool)
  | store (call : Nat) (oldAlive : Bool)
  | close (call : Nat)
  | elsewhere (action : LeaseAction)
deriving DecidableEq, Repr

def RegistrySystem.initial (redis : Redis) : RegistrySystem where
  leases := LeaseSystem.initial redis
  sessions := fun _ => none
  calls := fun _ => .idle
  closed := []

def RegistryConfig.lease (config : RegistryConfig) (connectionId : Nat → String) (session : Nat)
    (generation : Int) : SessionLease :=
  ⟨config.gatewayId, config.instanceId, connectionId session, generation⟩

def displaced (entry : Option LocalSession) (session : Nat) (oldAlive : Bool) : Option Nat :=
  match entry with
  | none => none
  | some old => if oldAlive ∧ old.session ≠ session then some old.session else none

/-- `SessionRegistry::Bind` for one user, in the parts other calls can come between. -/
def bindStep (lua : LuaNumbers) (config : RegistryConfig) (connectionId : Nat → String)
    (uid : Int) (system : RegistrySystem) : RegistryAction → Option RegistrySystem
  | .draw call session answered =>
    match system.calls call with
    | .idle =>
      let result := bindSessionLease lua system.leases.redis uid config.gatewayId
        config.instanceId (connectionId session) config.leaseTtlSeconds
      let generation := if answered then result.1 else -1
      (leaseStep lua system.leases (.bind uid config.gatewayId config.instanceId
        (connectionId session) config.leaseTtlSeconds answered)).map fun leases =>
        { system with
          leases
          calls := update system.calls call
            (.afterDraw session (config.lease connectionId session generation)) }
    | _ => none
  | .store call oldAlive =>
    match system.calls call with
    | .drawn session lease =>
      some
        { system with
          sessions := update system.sessions uid (some ⟨session, lease⟩)
          calls := update system.calls call
            (.stored session lease (displaced (system.sessions uid) session oldAlive)) }
    | _ => none
  | .close call =>
    match system.calls call with
    | .stored session lease oldSession =>
      some
        { system with
          closed := oldSession.toList ++ system.closed
          calls := update system.calls call (.returned session (some lease)) }
    | _ => none
  | .elsewhere action =>
    (leaseStep lua system.leases action).map fun leases => { system with leases }

/-! ### The order that keeps the newest login -/

def Displaced (system : RegistrySystem) (session : Nat) : Prop :=
  session ∈ system.closed ∨ ∃ call, (system.calls call).closing = some session

/-- What a step has to find for the registry to follow the order of the generations. A
generation is drawn only for a session no login has displaced. An update finds an older
generation in the map, and the other session it displaces is not itself in the middle of a
login under a newer one. -/
def InOrder (uid : Int) (system : RegistrySystem) : RegistryAction → Prop
  | .draw _ session _ => ¬ Displaced system session
  | .store call _ =>
    ∀ session lease, system.calls call = .drawn session lease →
      ∀ entry, system.sessions uid = some entry →
        entry.lease.generation < lease.generation ∧
          (entry.session ≠ session →
            ∀ other newer, system.calls other = .drawn entry.session newer →
              newer.generation ≤ lease.generation)
  | .close _ => True
  | .elsewhere _ => True

structure NewestRegistered (uid : Int) (system : RegistrySystem) : Prop where
  source : ∀ entry, system.sessions uid = some entry →
    ∃ call, (system.calls call).registered = some entry
  newest : ∀ call placed, (system.calls call).registered = some placed →
    ∃ entry, system.sessions uid = some entry ∧
      (placed = entry ∨ placed.lease.generation < entry.lease.generation)
  kept : ∀ entry, system.sessions uid = some entry → ¬ Displaced system entry.session
  overtaken : ∀ call session lease, system.calls call = .drawn session lease →
    Displaced system session →
    ∃ entry, system.sessions uid = some entry ∧ lease.generation ≤ entry.lease.generation

section Steps

variable {lua : LuaNumbers} {config : RegistryConfig} {connectionId : Nat → String} {uid : Int}
variable {system next : RegistrySystem}

theorem newestRegistered_initial (uid : Int) (redis : Redis) :
    NewestRegistered uid (initial redis) where
  source := fun _ present => nomatch present
  newest := fun _ _ placed => nomatch placed
  kept := fun _ present => nomatch present
  overtaken := fun _ _ _ drawn => nomatch drawn

theorem NewestRegistered.of_phase (holds : NewestRegistered uid system) {call : Nat}
    {phase : BindCall} (sameMap : next.sessions = system.sessions)
    (moved : next.calls = update system.calls call phase)
    (sameDisplaced : ∀ session, Displaced next session → Displaced system session)
    (samePlaced : phase.registered = (system.calls call).registered)
    (fresh : ∀ session lease, phase = .drawn session lease → ¬ Displaced system session) :
    NewestRegistered uid next := by
  have sameRegistered : ∀ other,
      (next.calls other).registered = (system.calls other).registered := by
    rw [moved, forall_update_iff system.calls
      (fun other now => now.registered = (system.calls other).registered)]
    exact ⟨samePlaced, fun _ _ => rfl⟩
  constructor
  · intro entry present
    rw [sameMap] at present
    obtain ⟨source, placed⟩ := holds.source entry present
    exact ⟨source, (sameRegistered source).trans placed⟩
  · intro other entry found
    rw [sameMap]
    exact holds.newest other entry ((sameRegistered other).symm.trans found)
  · intro entry present isDisplaced
    rw [sameMap] at present
    exact holds.kept entry present (sameDisplaced _ isDisplaced)
  intro other session lease drawn isDisplaced
  rw [sameMap]
  rw [moved] at drawn
  by_cases same : other = call
  · grind
  · rw [update_of_ne same] at drawn
    exact holds.overtaken other session lease drawn (sameDisplaced session isDisplaced)

theorem displaced_of_phase {call : Nat} {phase : BindCall}
    (moved : next.calls = update system.calls call phase)
    (isDisplaced : Displaced next session) :
    session ∈ next.closed ∨ phase.closing = some session ∨ Displaced system session := by
  rcases isDisplaced with told | ⟨closer, closing⟩
  · exact Or.inl told
  rw [moved] at closing
  by_cases same : closer = call
  · grind
  · rw [update_of_ne same] at closing
    exact Or.inr (Or.inr (Or.inr ⟨closer, closing⟩))

theorem NewestRegistered.draw (holds : NewestRegistered uid system) {call : Nat} {answered : Bool}
    (ordered : InOrder uid system (.draw call session answered))
    (taken : bindStep lua config connectionId uid system (.draw call session answered) =
      some next) : NewestRegistered uid next := by
  simp only [bindStep] at taken
  split at taken
  · rename_i idle
    obtain ⟨leases, _, rfl⟩ := map_eq_some_iff.mp taken
    refine holds.of_phase rfl rfl ?_ ?_ ?_
    · intro other isDisplaced
      rcases displaced_of_phase rfl isDisplaced with told | closing | before
      · exact Or.inl told
      · rw [BindCall.closing_afterDraw] at closing
        cases closing
      · exact before
    · rw [idle, BindCall.registered_afterDraw]
      rfl
    intro drawer lease drawn
    rw [BindCall.session_of_afterDraw drawn]
    exact ordered
  · cases taken

theorem NewestRegistered.close (holds : NewestRegistered uid system) {call : Nat}
    (taken : bindStep lua config connectionId uid system (.close call) = some next) :
    NewestRegistered uid next := by
  simp only [bindStep] at taken
  split at taken
  · rename_i session lease oldSession phase
    cases taken
    refine holds.of_phase rfl rfl ?_ ?_ ?_
    · intro other isDisplaced
      rcases displaced_of_phase rfl isDisplaced with told | closing | before
      · rcases mem_append.mp told with now | earlier
        · exact Or.inr ⟨call, by rw [phase]; exact mem_toList.mp now⟩
        · exact Or.inl earlier
      · cases closing
      · exact before
    · rw [phase]
      rfl
    · intro drawer drawnLease drawn
      cases drawn
  · cases taken

theorem displaced_eq_some {entry : Option LocalSession} {old : Nat} {oldAlive : Bool}
    (found : displaced entry session oldAlive = some old) :
    ∃ present, entry = some present ∧ present.session = old ∧ old ≠ session := by
  unfold displaced at found
  split at found
  · cases found
  · grind

theorem NewestRegistered.store (holds : NewestRegistered uid system) {call : Nat}
    {oldAlive : Bool} (ordered : InOrder uid system (.store call oldAlive))
    (taken : bindStep lua config connectionId uid system (.store call oldAlive) = some next) :
    NewestRegistered uid next := by
  simp only [bindStep] at taken
  split at taken
  · rename_i session lease phase
    cases taken
    have older := fun entry present => (ordered session lease phase entry present).1
    have free := fun entry present => (ordered session lease phase entry present).2
    have origin : ∀ other, Displaced
        { system with
          sessions := update system.sessions uid (some ⟨session, lease⟩)
          calls := update system.calls call
            (.stored session lease (displaced (system.sessions uid) session oldAlive)) } other →
        Displaced system other ∨
          ∃ entry, system.sessions uid = some entry ∧ entry.session = other ∧ other ≠ session := by
      intro other isDisplaced
      rcases displaced_of_phase rfl isDisplaced with told | closing | before
      · exact Or.inl (Or.inl told)
      · exact Or.inr (displaced_eq_some closing)
      · exact Or.inl before
    constructor
    · intro entry present
      rw [← present]
      exact ⟨call, by simp only [update_self, BindCall.registered]⟩
    · intro other placed found
      refine ⟨⟨session, lease⟩, update_self _ _ _, ?_⟩
      by_cases same : other = call
      · subst same
        simp only [update_self, BindCall.registered, some.injEq] at found
        exact Or.inl found.symm
      simp only [update_of_ne same] at found
      obtain ⟨entry, present, order⟩ := holds.newest other placed found
      have climbs := older entry present
      rcases order with rfl | below
      · exact Or.inr climbs
      · exact Or.inr (below.trans climbs)
    · intro entry present isDisplaced
      simp only [update_self, some.injEq] at present
      subst present
      rcases origin session isDisplaced with before | ⟨_, _, _, other⟩
      · obtain ⟨entry, present, ahead⟩ := holds.overtaken call session lease phase before
        exact absurd (older entry present) (not_lt.mpr ahead)
      · exact other rfl
    intro other drawer newer drawn isDisplaced
    refine ⟨⟨session, lease⟩, update_self _ _ _, ?_⟩
    have different : other ≠ call := by grind
    simp only [update_of_ne different] at drawn
    rcases origin drawer isDisplaced with before | ⟨entry, present, rfl, elsewhere⟩
    · obtain ⟨entry, present, ahead⟩ := holds.overtaken other drawer newer drawn before
      exact ahead.trans (older entry present).le
    · exact free entry present elsewhere other newer drawn
  · cases taken

theorem newestRegistered_step (system : RegistrySystem) (action : RegistryAction)
    (next : RegistrySystem) (holds : NewestRegistered uid system)
    (ordered : InOrder uid system action)
    (taken : bindStep lua config connectionId uid system action = some next) :
    NewestRegistered uid next := by
  cases action with
  | draw call session answered => exact holds.draw ordered taken
  | store call oldAlive => exact holds.store ordered taken
  | close call => exact holds.close taken
  | elsewhere action =>
    obtain ⟨leases, _, rfl⟩ := map_eq_some_iff.mp taken
    exact ⟨holds.source, holds.newest, holds.kept, holds.overtaken⟩

end Steps

/-- Every run that keeps to the order ends, once its calls are over, with the login of the
largest generation in the map and not told to close. -/
theorem newest_login_registered (lua : LuaNumbers) (config : RegistryConfig)
    (connectionId : Nat → String) (uid : Int) (redis : Redis) (actions : List RegistryAction)
    (final : RegistrySystem)
    (taken : run (bindStep lua config connectionId uid)
      (initial redis) actions = some final)
    (ordered : Along (bindStep lua config connectionId uid) (InOrder uid)
      (initial redis) actions)
    (finished : ∀ call, (final.calls call).Finished)
    (call session : Nat) (lease : SessionLease)
    (bound : final.calls call = .returned session (some lease))
    (largest : ∀ other otherSession otherLease,
      final.calls other = .returned otherSession (some otherLease) →
      otherLease.generation ≤ lease.generation) :
    final.sessions uid = some ⟨session, lease⟩ ∧ session ∉ final.closed := by
  have holds : NewestRegistered uid final :=
    run_invariant_along (NewestRegistered uid) (InOrder uid) newestRegistered_step
      (newestRegistered_initial uid redis) ordered taken
  obtain ⟨entry, present, order⟩ := holds.newest call ⟨session, lease⟩ (by rw [bound]; rfl)
  have same : ⟨session, lease⟩ = entry := by
    refine order.resolve_right fun below => ?_
    obtain ⟨source, placed⟩ := holds.source entry present
    have newer := BindCall.returned_of_finished (finished source) placed
    exact absurd (largest source entry.session entry.lease newer) (not_le.mpr below)
  subst same
  exact ⟨present, fun told => holds.kept _ present (Or.inl told)⟩

def RegistryAction.call : RegistryAction → Option Nat
  | .draw call _ _ => some call
  | .store call _ => some call
  | .close call => some call
  | .elsewhere _ => none

theorem bindStep_calls_other {lua : LuaNumbers} {config : RegistryConfig}
    {connectionId : Nat → String} {uid : Int} {system next : RegistrySystem}
    {action : RegistryAction} {call : Nat} (unnamed : action.call ≠ some call)
    (taken : bindStep lua config connectionId uid system action = some next) :
    next.calls call = system.calls call := by
  cases action with
  | draw acting session answered =>
    have different : call ≠ acting := fun same => unnamed (congrArg some same.symm)
    simp only [bindStep] at taken
    split at taken
    · obtain ⟨leases, _, rfl⟩ := map_eq_some_iff.mp taken
      exact update_of_ne different _ _
    · cases taken
  | store acting | close acting =>
    have different : call ≠ acting := fun same => unnamed (congrArg some same.symm)
    simp only [bindStep] at taken
    split at taken <;> cases taken
    exact update_of_ne different _ _
  | elsewhere action =>
    obtain ⟨leases, _, rfl⟩ := map_eq_some_iff.mp taken
    rfl

section

variable {lua : LuaNumbers} {config : RegistryConfig} {connectionId : Nat → String}
  {uid : Int} {redis : Redis} {actions : List RegistryAction} {final : RegistrySystem}
  (taken : run (bindStep lua config connectionId uid) (initial redis) actions =
    some final)
include taken

theorem calls_idle_of_unnamed {call : Nat} (unnamed : ∀ action ∈ actions, action.call ≠ some call) :
    final.calls call = .idle :=
  run_invariant_along (fun system => system.calls call = .idle)
    (fun _ action => action.call ≠ some call)
    (fun _ _ _ idle other step => (bindStep_calls_other other step).trans idle) rfl
    (along_of_forall unnamed) taken

theorem called_of_two_logins
    (named : ∀ action ∈ actions, action.call = some 1 ∨ action.call = some 2) (call : Nat) :
    call = 1 ∨ call = 2 ∨ final.calls call = .idle := by
  by_cases first : call = 1
  · exact Or.inl first
  by_cases second : call = 2
  · exact Or.inr (Or.inl second)
  refine Or.inr (Or.inr (calls_idle_of_unnamed taken fun action member same => ?_))
  rcases named action member with one | two
  · exact first (some.inj (same.symm.trans one))
  · exact second (some.inj (same.symm.trans two))

end

def loginsInTurn : List RegistryAction :=
  [.draw 1 1 true, .store 1 true, .close 1, .draw 2 2 true, .store 2 true, .close 2]

def loginsCrossed : List RegistryAction :=
  [.draw 1 1 true, .draw 2 2 true, .store 2 true, .close 2, .store 1 true, .close 1]

def registryAfter (actions : List RegistryAction) : RegistrySystem :=
  (run (bindStep plainNumbers ⟨"g", "i", 60⟩ toString 7)
    (initial fun _ => none) actions).getD (initial fun _ => none)

theorem newest_login_registered_in_turn :
    (registryAfter loginsInTurn).sessions 7 = some ⟨2, ⟨"g", "i", "2", 2⟩⟩ ∧
      2 ∉ (registryAfter loginsInTurn).closed := by
  have ordered : Along (bindStep plainNumbers ⟨"g", "i", 60⟩ toString 7) (InOrder 7)
      (initial fun _ => none) loginsInTurn := by
    refine along_cons ?_ rfl (along_cons ?_ rfl (along_cons
      trivial rfl (along_cons ?_ rfl (along_cons ?_ rfl
      (along_cons trivial rfl trivial)))))
    · rintro (told | ⟨call, closing⟩)
      · cases told
      · cases closing
    · intro session lease drawn entry present
      cases present
    · rintro (told | ⟨call, closing⟩)
      · cases told
      · by_cases first : call = 1
        · subst first
          cases closing
        · simp [first, initial, BindCall.closing] at closing
    · intro session lease drawn entry present
      cases drawn
      cases present
      refine ⟨by decide +kernel, fun _ other newer again => ?_⟩
      by_cases second : other = 2
      · subst second
        cases again
      · by_cases first : other = 1
        · subst first
          cases again
        · simp [first, second, initial] at again
  have taken : run (bindStep plainNumbers ⟨"g", "i", 60⟩ toString 7)
      (initial fun _ => none) loginsInTurn =
        some (registryAfter loginsInTurn) := rfl
  refine newest_login_registered plainNumbers ⟨"g", "i", 60⟩ toString 7 (fun _ => none)
    loginsInTurn _ taken ordered ?_ 2 2 ⟨"g", "i", "2", 2⟩ rfl ?_
  · intro call
    rcases called_of_two_logins taken (by decide) call with rfl | rfl | idle
    · trivial
    · trivial
    · rw [idle]
      trivial
  · intro call session lease returned
    rcases called_of_two_logins taken (by decide) call with rfl | rfl | idle
    · cases returned
      decide +kernel
    · cases returned
      exact le_rfl
    · rw [idle] at returned
      cases returned

/-- The crossed logins leave the older generation in the map and close the newer session. -/
theorem crossed_logins_close_newest :
    run (bindStep plainNumbers ⟨"g", "i", 60⟩ toString 7)
        (initial fun _ => none) loginsCrossed = some (registryAfter loginsCrossed) ∧
      (∀ call, ((registryAfter loginsCrossed).calls call).Finished) ∧
      (registryAfter loginsCrossed).calls 1 = .returned 1 (some ⟨"g", "i", "1", 1⟩) ∧
      (registryAfter loginsCrossed).calls 2 = .returned 2 (some ⟨"g", "i", "2", 2⟩) ∧
      (registryAfter loginsCrossed).sessions 7 = some ⟨1, ⟨"g", "i", "1", 1⟩⟩ ∧
      2 ∈ (registryAfter loginsCrossed).closed := by
  have taken : run (bindStep plainNumbers ⟨"g", "i", 60⟩ toString 7)
      (initial fun _ => none) loginsCrossed =
        some (registryAfter loginsCrossed) := rfl
  refine ⟨taken, ?_, rfl, rfl, rfl, by decide +kernel⟩
  intro call
  rcases called_of_two_logins taken (by decide) call with rfl | rfl | idle
  · trivial
  · trivial
  · rw [idle]
    trivial

end Wimi.Gateway
