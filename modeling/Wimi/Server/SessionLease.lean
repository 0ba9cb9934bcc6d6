/-
This file models the connection lease that fences a user's old connections, and
proves that only the latest login can act.

A login runs `bindSessionLease`, one Lua script that draws the next generation
of the user from a persistent counter and overwrites the user's expiring lease.
The lease is refreshed and cleared by scripts that first compare all four of its
fields, and a Message node compares them again before it runs a command. The
argument rests on one invariant between the two keys: the stored lease, whenever
there is one, carries the value the counter has now.

Lua prints a number with fourteen significant digits, so the comparison is exact
only below `10 ^ 14`; the printing is a parameter of the model.
-/

import Mathlib
import Wimi.Lib.Transition

namespace Wimi.Server

open Function List Option Transition

/-! ### The lease and its store -/

structure SessionLease where
  gatewayId : String := ""
  instanceId : String := ""
  connectionId : String := ""
  generation : Int := 0
deriving DecidableEq, Repr

namespace SessionLease

def empty (lease : SessionLease) : Bool :=
  lease.gatewayId.isEmpty || lease.instanceId.isEmpty || lease.connectionId.isEmpty ||
    decide (lease.generation ≤ 0)

end SessionLease

inductive RedisValue where
  | integer (value : Int)
  | lease (value : SessionLease)
deriving DecidableEq, Repr

structure RedisEntry where
  value : RedisValue
  ttlSeconds : Option Int
deriving DecidableEq, Repr

abbrev Redis := String → Option RedisEntry

def leaseKey (uid : Int) : String := "im:session:" ++ toString uid

def generationKey (uid : Int) : String := "im:sessionGeneration:" ++ toString uid

/-- How the Lua side handles the generation: the number that is read back from the JSON text
`cjson.encode` printed, and `tostring` of a number. -/
structure LuaNumbers where
  encoded : Int → Int
  tostring : Int → String

/-- Both are exact while fourteen digits are enough. -/
structure LuaNumbers.Exact (lua : LuaNumbers) : Prop where
  encoded : ∀ number, 0 ≤ number → number < 10 ^ 14 → lua.encoded number = number
  tostring : ∀ number, 0 ≤ number → number < 10 ^ 14 → lua.tostring number = toString number

def incr (redis : Redis) (key : String) : Option (Int × Redis) :=
  match redis key with
  | none => some (1, update redis key (some ⟨.integer 1, none⟩))
  | some ⟨.integer value, ttl⟩ =>
    some (value + 1, update redis key (some ⟨.integer (value + 1), ttl⟩))
  | some ⟨.lease _, _⟩ => none

/-- `RedisDao::bindSessionLease`: the generation it returns, and the store after it. -/
def bindSessionLease (lua : LuaNumbers) (redis : Redis) (uid : Int)
    (gatewayId instanceId connectionId : String) (ttlSeconds : Int) : Int × Redis :=
  if uid ≤ 0 ∨ gatewayId.isEmpty ∨ instanceId.isEmpty ∨ connectionId.isEmpty ∨ ttlSeconds ≤ 0 then
    (-1, redis)
  else
    match incr redis (generationKey uid) with
    | none => (-1, redis)
    | some (generation, counted) =>
      (generation, update counted (leaseKey uid)
        (some ⟨.lease ⟨gatewayId, instanceId, connectionId, lua.encoded generation⟩,
          some ttlSeconds⟩))

def getSessionLease (redis : Redis) (uid : Int) : SessionLease :=
  if uid ≤ 0 then {}
  else
    match redis (leaseKey uid) with
    | some ⟨.lease lease, _⟩ => lease
    | _ => {}

def sameHolder (lua : LuaNumbers) (stored lease : SessionLease) : Bool :=
  decide (stored.gatewayId = lease.gatewayId ∧ stored.instanceId = lease.instanceId ∧
    stored.connectionId = lease.connectionId ∧
    lua.tostring stored.generation = toString lease.generation)

def refreshSessionLease (lua : LuaNumbers) (redis : Redis) (uid : Int) (lease : SessionLease)
    (ttlSeconds : Int) : Bool × Redis :=
  if uid ≤ 0 ∨ lease.empty ∨ ttlSeconds ≤ 0 then (false, redis)
  else
    match redis (leaseKey uid) with
    | some ⟨.lease stored, _⟩ =>
      if sameHolder lua stored lease then
        (true, update redis (leaseKey uid) (some ⟨.lease stored, some ttlSeconds⟩))
      else (false, redis)
    | _ => (false, redis)

/-- `RedisDao::clearSessionLease`: an absent lease counts as cleared. -/
def clearSessionLease (lua : LuaNumbers) (redis : Redis) (uid : Int) (lease : SessionLease) :
    Bool × Redis :=
  if uid ≤ 0 ∨ lease.empty then (false, redis)
  else
    match redis (leaseKey uid) with
    | none => (true, redis)
    | some ⟨.lease stored, _⟩ =>
      if sameHolder lua stored lease then (true, update redis (leaseKey uid) none)
      else (false, redis)
    | some ⟨.integer _, _⟩ => (false, redis)

structure CommandIdentity where
  originGatewayId : String
  originInstanceId : String
  connectionId : String
  connectionGeneration : UInt64
deriving DecidableEq, Repr

/-- The lease check of `GatewayStreamReactor::HandleCommand`. -/
def leaseCurrent (actorLease : SessionLease) (command : CommandIdentity) : Bool :=
  !(actorLease.empty || decide (actorLease.gatewayId ≠ command.originGatewayId) ||
    decide (actorLease.instanceId ≠ command.originInstanceId) ||
    decide (actorLease.connectionId ≠ command.connectionId) ||
    decide (UInt64.ofInt actorLease.generation ≠ command.connectionGeneration))

/-! ### The keys do not overlap -/

theorem append_right_injective (head : String) : Injective (head ++ ·) := by
  intro first second equal
  have lists := congrArg String.toList equal
  simp only [String.toList_append, append_cancel_left_eq] at lists
  exact String.toList_injective lists

theorem leaseKey_injective : Injective leaseKey := fun _ _ equal =>
  Int.repr_injective (append_right_injective "im:session:" equal)

theorem generationKey_injective : Injective generationKey := fun _ _ equal =>
  Int.repr_injective (append_right_injective "im:sessionGeneration:" equal)

theorem leasePrefix_ne_generationPrefix (first second : String) :
    "im:session:" ++ first ≠ "im:sessionGeneration:" ++ second := by
  intro equal
  have lists := congrArg String.toList equal
  simp at lists

theorem leaseKey_ne_generationKey (first second : Int) :
    leaseKey first ≠ generationKey second :=
  leasePrefix_ne_generationPrefix (toString first) (toString second)

/-! ### Every interleaving of the scripts -/

structure LeaseSystem where
  redis : Redis
  bound : Int → List SessionLease
  returned : Int → List Int

open LeaseSystem

inductive LeaseAction where
  | bind (uid : Int) (gatewayId instanceId connectionId : String) (ttlSeconds : Int)
      (answered : Bool)
  | refresh (uid : Int) (lease : SessionLease) (ttlSeconds : Int)
  | clear (uid : Int) (lease : SessionLease)
  | expire (uid : Int)
deriving DecidableEq, Repr

def LeaseSystem.initial (redis : Redis) : LeaseSystem :=
  { redis, bound := fun _ => [], returned := fun _ => [] }

def leaseStep (lua : LuaNumbers) (system : LeaseSystem) : LeaseAction → Option LeaseSystem
  | .bind uid gatewayId instanceId connectionId ttlSeconds answered =>
    let result := bindSessionLease lua system.redis uid gatewayId instanceId connectionId ttlSeconds
    if result.1 ≤ 0 then some { system with redis := result.2 }
    else some
      { redis := result.2
        bound := update system.bound uid
          (⟨gatewayId, instanceId, connectionId, result.1⟩ :: system.bound uid)
        returned :=
          if answered then
            update system.returned uid (result.1 :: system.returned uid)
          else system.returned }
  | .refresh uid lease ttlSeconds =>
    some { system with redis := (refreshSessionLease lua system.redis uid lease ttlSeconds).2 }
  | .clear uid lease =>
    some { system with redis := (clearSessionLease lua system.redis uid lease).2 }
  | .expire uid =>
    match system.redis (leaseKey uid) with
    | none => none
    | some _ => some { system with redis := update system.redis (leaseKey uid) none }

/-- The two keys of a user agree: the counter is the generation of the latest login, and the
stored lease, when there is one, is that login's. -/
structure Coherent (lua : LuaNumbers) (system : LeaseSystem) (uid : Int) : Prop where
  counter : system.redis (generationKey uid) =
    (system.bound uid).head?.map fun lease => ⟨.integer lease.generation, none⟩
  positive : ∀ lease ∈ system.bound uid, 0 < lease.generation
  descending : (system.bound uid).Pairwise fun later earlier =>
    earlier.generation < later.generation
  answered : (system.returned uid).Sublist ((system.bound uid).map SessionLease.generation)
  stored : ∀ entry, system.redis (leaseKey uid) = some entry →
    ∃ lease ttl, (system.bound uid).head? = some lease ∧
      entry = ⟨.lease { lease with generation := lua.encoded lease.generation }, ttl⟩

variable {lua : LuaNumbers} {system : LeaseSystem} {uid : Int}

def nextGeneration (leases : List SessionLease) : Int :=
  match leases with
  | [] => 1
  | lease :: _ => lease.generation + 1

theorem Coherent.incr_eq (coherent : Coherent lua system uid) :
    incr system.redis (generationKey uid) =
      some (nextGeneration (system.bound uid),
        update system.redis (generationKey uid)
          (some ⟨.integer (nextGeneration (system.bound uid)), none⟩)) := by
  have counter := coherent.counter
  unfold incr
  cases logins : system.bound uid with
  | nil =>
    rw [logins] at counter
    simp only [counter, head?_nil, map_none, nextGeneration]
  | cons lease rest =>
    rw [logins] at counter
    simp only [counter, head?_cons, map_some, nextGeneration]

theorem Coherent.nextGeneration_pos (coherent : Coherent lua system uid) :
    0 < nextGeneration (system.bound uid) := by
  cases logins : system.bound uid with
  | nil => exact Int.one_pos
  | cons lease rest =>
    have positive := coherent.positive lease (by rw [logins]; exact mem_cons_self)
    exact Int.add_pos positive Int.one_pos

variable {lease : SessionLease} {redis : Redis}

theorem Coherent.lt_nextGeneration (coherent : Coherent lua system uid)
    (member : lease ∈ system.bound uid) : lease.generation < nextGeneration (system.bound uid) := by
  have descending := coherent.descending
  cases logins : system.bound uid with
  | nil =>
    rw [logins] at member
    cases member
  | cons latest rest =>
    rw [logins] at member descending
    rcases mem_cons.mp member with rfl | older
    · exact Int.lt_succ _
    · exact lt_trans ((pairwise_cons.mp descending).1 lease older) (Int.lt_succ _)

structure OnlyAges (before after : Redis) : Prop where
  counter : ∀ uid, after (generationKey uid) = before (generationKey uid)
  lease : ∀ uid entry, after (leaseKey uid) = some entry →
    ∃ ttl, before (leaseKey uid) = some ⟨entry.value, ttl⟩

theorem onlyAges_refl (redis : Redis) : OnlyAges redis redis :=
  ⟨fun _ => rfl, fun _ entry present => ⟨entry.ttlSeconds, present⟩⟩

theorem onlyAges_remove (redis : Redis) (uid : Int) :
    OnlyAges redis (update redis (leaseKey uid) none) := by
  refine ⟨fun other => ?_, fun other entry present => ?_⟩
  · exact update_of_ne (leaseKey_ne_generationKey uid other).symm _ _
  by_cases same : leaseKey other = leaseKey uid
  · rw [same, update_self] at present
    cases present
  · rw [update_of_ne same] at present
    exact ⟨entry.ttlSeconds, present⟩

theorem onlyAges_renew (redis : Redis) (uid : Int) (entry : RedisEntry) (ttl : Option Int)
    (present : redis (leaseKey uid) = some entry) :
    OnlyAges redis (update redis (leaseKey uid) (some ⟨entry.value, ttl⟩)) := by
  refine ⟨fun other => ?_, fun other renewed found => ?_⟩
  · exact update_of_ne (leaseKey_ne_generationKey uid other).symm _ _
  rcases update_eq_some found with ⟨same, rfl⟩ | ⟨_, earlier⟩
  · exact ⟨entry.ttlSeconds, same ▸ present⟩
  · exact ⟨renewed.ttlSeconds, earlier⟩

theorem onlyAges_refreshSessionLease (lua : LuaNumbers) (redis : Redis) (uid : Int)
    (lease : SessionLease) (ttlSeconds : Int) :
    OnlyAges redis (refreshSessionLease lua redis uid lease ttlSeconds).2 := by
  unfold refreshSessionLease
  split
  · exact onlyAges_refl redis
  split
  · rename_i stored ttl present
    split
    · exact onlyAges_renew redis uid ⟨.lease stored, ttl⟩ (some ttlSeconds) present
    · exact onlyAges_refl redis
  · exact onlyAges_refl redis

theorem onlyAges_clearSessionLease (lua : LuaNumbers) (redis : Redis) (uid : Int)
    (lease : SessionLease) : OnlyAges redis (clearSessionLease lua redis uid lease).2 := by
  unfold clearSessionLease
  split
  · exact onlyAges_refl redis
  · grind [onlyAges_refl, onlyAges_remove]

theorem Coherent.of_onlyAges (coherent : Coherent lua system uid) {after : Redis}
    (ages : OnlyAges system.redis after) : Coherent lua { system with redis := after } uid where
  counter := (ages.counter uid).trans coherent.counter
  positive := coherent.positive
  descending := coherent.descending
  answered := coherent.answered
  stored := by
    intro entry present
    obtain ⟨ttl, before⟩ := ages.lease uid entry present
    obtain ⟨lease, _, latest, equal⟩ := coherent.stored _ before
    have value := congrArg RedisEntry.value equal
    exact ⟨lease, entry.ttlSeconds, latest, congrArg (RedisEntry.mk · entry.ttlSeconds) value⟩

/-- What a login does to coherent keys: it is refused, or it draws the next generation and
writes its lease under it. -/
theorem Coherent.bind_cases (coherent : Coherent lua system uid)
    (gatewayId instanceId connectionId : String) (ttlSeconds : Int) :
    bindSessionLease lua system.redis uid gatewayId instanceId connectionId ttlSeconds =
        (-1, system.redis) ∨
      bindSessionLease lua system.redis uid gatewayId instanceId connectionId ttlSeconds =
        (nextGeneration (system.bound uid),
          update
            (update system.redis (generationKey uid)
              (some ⟨.integer (nextGeneration (system.bound uid)), none⟩))
            (leaseKey uid)
            (some ⟨.lease ⟨gatewayId, instanceId, connectionId,
              lua.encoded (nextGeneration (system.bound uid))⟩, some ttlSeconds⟩)) := by
  unfold bindSessionLease
  split
  · exact Or.inl rfl
  · rw [coherent.incr_eq]
    exact Or.inr rfl

theorem incr_other {counted : Redis} {key other : String} {value : Int}
    (drawn : incr redis key = some (value, counted)) (different : other ≠ key) :
    counted other = redis other := by
  unfold incr at drawn
  split at drawn <;> cases drawn <;> exact update_of_ne different _ _

theorem bindSessionLease_other {acting other : Int} (different : other ≠ acting)
    (gatewayId instanceId connectionId : String) (ttlSeconds : Int) :
    (bindSessionLease lua redis acting gatewayId instanceId connectionId ttlSeconds).2
        (generationKey other) = redis (generationKey other) ∧
      (bindSessionLease lua redis acting gatewayId instanceId connectionId ttlSeconds).2
        (leaseKey other) = redis (leaseKey other) := by
  unfold bindSessionLease
  split
  · exact ⟨rfl, rfl⟩
  split
  · exact ⟨rfl, rfl⟩
  rename_i generation counted drawn
  dsimp only
  refine ⟨?_, ?_⟩
  · rw [update_of_ne (leaseKey_ne_generationKey acting other).symm]
    exact incr_other drawn (generationKey_injective.ne different)
  · rw [update_of_ne (leaseKey_injective.ne different)]
    exact incr_other drawn (leaseKey_ne_generationKey other acting)

theorem Coherent.bind_self (coherent : Coherent lua system uid) {next : LeaseSystem}
    {gatewayId instanceId connectionId : String} {ttlSeconds : Int} {answered : Bool}
    (taken : leaseStep lua system
      (.bind uid gatewayId instanceId connectionId ttlSeconds answered) = some next) :
    Coherent lua next uid := by
  simp only [leaseStep] at taken
  rcases coherent.bind_cases gatewayId instanceId connectionId ttlSeconds with refused | written
  · rw [refused] at taken
    cases taken
    exact coherent
  have positive := coherent.nextGeneration_pos
  rw [written, if_neg (not_le.mpr positive)] at taken
  cases taken
  constructor <;> dsimp only
  · rw [update_of_ne (leaseKey_ne_generationKey uid uid).symm, update_self,
      update_self]
    rfl
  · intro lease member
    rw [update_self] at member
    rcases mem_cons.mp member with rfl | older
    · exact positive
    · exact coherent.positive lease older
  · rw [update_self]
    exact pairwise_cons.mpr
      ⟨fun lease older => coherent.lt_nextGeneration older, coherent.descending⟩
  · rw [update_self]
    cases answered with
    | true =>
      rw [if_pos rfl, update_self]
      exact coherent.answered.cons_cons _
    | false => exact coherent.answered.cons _
  · simp

theorem Coherent.bind_other (coherent : Coherent lua system uid) {next : LeaseSystem} {acting : Int}
    (different : uid ≠ acting)
    {gatewayId instanceId connectionId : String} {ttlSeconds : Int} {answered : Bool}
    (taken : leaseStep lua system
      (.bind acting gatewayId instanceId connectionId ttlSeconds answered) = some next) :
    Coherent lua next uid := by
  obtain ⟨counter, lease⟩ := @bindSessionLease_other lua system.redis acting uid
    different gatewayId instanceId connectionId ttlSeconds
  have agrees : next.redis (generationKey uid) = system.redis (generationKey uid) ∧
      next.redis (leaseKey uid) = system.redis (leaseKey uid) ∧
      next.bound uid = system.bound uid ∧ next.returned uid = system.returned uid := by
    simp only [leaseStep] at taken
    split at taken <;> cases taken
    · exact ⟨counter, lease, rfl, rfl⟩
    · grind
  obtain ⟨sameCounter, sameLease, sameBound, sameReturned⟩ := agrees
  constructor
  · rw [sameCounter, sameBound]
    exact coherent.counter
  · rw [sameBound]
    exact coherent.positive
  · rw [sameBound]
    exact coherent.descending
  · rw [sameBound, sameReturned]
    exact coherent.answered
  · rw [sameLease, sameBound]
    exact coherent.stored

/-- Every script and every expiry keeps every user's keys coherent. -/
theorem coherent_step (system : LeaseSystem) (action : LeaseAction) (next : LeaseSystem)
    (coherent : ∀ uid, Coherent lua system uid) (taken : leaseStep lua system action = some next) :
    ∀ uid, Coherent lua next uid := by
  intro uid
  cases action with
  | bind acting gatewayId instanceId connectionId ttlSeconds answered =>
    by_cases same : uid = acting
    · subst same
      exact (coherent uid).bind_self taken
    · exact (coherent uid).bind_other same taken
  | refresh acting lease ttlSeconds =>
    cases taken
    exact (coherent uid).of_onlyAges (onlyAges_refreshSessionLease lua _ acting lease ttlSeconds)
  | clear acting lease =>
    cases taken
    exact (coherent uid).of_onlyAges (onlyAges_clearSessionLease lua _ acting lease)
  | expire acting =>
    simp only [leaseStep] at taken
    split at taken <;> cases taken
    exact (coherent uid).of_onlyAges (onlyAges_remove _ acting)

def NoSessions (redis : Redis) : Prop :=
  ∀ uid, redis (generationKey uid) = none ∧ redis (leaseKey uid) = none

theorem coherent_initial (fresh : NoSessions redis) (uid : Int) :
    Coherent lua (initial redis) uid where
  counter := (fresh uid).1
  positive := fun _ member => nomatch member
  descending := List.Pairwise.nil
  answered := List.Sublist.slnil
  stored := fun _ present => nomatch (fresh uid).2.symm.trans present

theorem coherent_run (fresh : NoSessions redis) {actions : List LeaseAction} {final : LeaseSystem}
    (taken : run (leaseStep lua) (initial redis) actions = some final)
    (uid : Int) : Coherent lua final uid :=
  run_invariant (fun system => ∀ uid, Coherent lua system uid) coherent_step
    (coherent_initial fresh) taken uid

/-! ### Only the latest login holds the lease -/

def Holds (redis : Redis) (uid : Int) (lease : SessionLease) : Prop :=
  ∃ ttl, redis (leaseKey uid) = some ⟨.lease lease, ttl⟩

def GenerationsPrintable (system : LeaseSystem) (uid : Int) : Prop :=
  ∀ lease ∈ system.bound uid, lease.generation < 10 ^ 14

/-- Below the limit the stored text gives the latest login's lease back unchanged. -/
theorem Coherent.stored_exact (coherent : Coherent lua system uid) (exact : lua.Exact)
    (printable : GenerationsPrintable system uid) {entry : RedisEntry}
    (present : system.redis (leaseKey uid) = some entry) :
    ∃ lease ttl, (system.bound uid).head? = some lease ∧ entry = ⟨.lease lease, ttl⟩ := by
  obtain ⟨lease, ttl, latest, equal⟩ := coherent.stored entry present
  have member := mem_of_mem_head? latest
  rw [exact.encoded lease.generation (coherent.positive lease member).le
    (printable lease member)] at equal
  exact ⟨lease, ttl, latest, equal⟩

theorem eq_of_sameHolder (exact : lua.Exact) {stored : SessionLease}
    (positive : 0 < stored.generation) (bounded : stored.generation < 10 ^ 14)
    (same : sameHolder lua stored lease = true) : stored = lease := by
  obtain ⟨gateway, inst, connection, printed⟩ := of_decide_eq_true same
  rw [exact.tostring stored.generation positive.le bounded] at printed
  have generation : stored.generation = lease.generation := Int.repr_injective printed
  cases stored
  simp only at gateway inst connection generation
  rw [gateway, inst, connection, generation]

section

variable (coherent : Coherent lua system uid)
include coherent

section

variable (exact : lua.Exact) (printable : GenerationsPrintable system uid)
include exact printable

/-- Whoever the scripts take for the holder is the holder. -/
theorem Coherent.holds_of_sameHolder {stored : SessionLease} {ttl : Option Int}
    (present : system.redis (leaseKey uid) = some ⟨.lease stored, ttl⟩)
    (same : sameHolder lua stored lease = true) : Holds system.redis uid lease := by
  obtain ⟨latest, _, first, equal⟩ := coherent.stored_exact exact printable present
  cases equal
  have member := mem_of_mem_head? first
  have identical := eq_of_sameHolder exact (coherent.positive stored member)
    (printable stored member) same
  exact ⟨ttl, identical ▸ present⟩

theorem Coherent.refresh_of_not_holds (stranger : ¬ Holds system.redis uid lease)
    (ttlSeconds : Int) :
    refreshSessionLease lua system.redis uid lease ttlSeconds = (false, system.redis) := by
  unfold refreshSessionLease
  split
  · rfl
  split
  · rename_i stored ttl present
    split
    · rename_i same
      exact absurd (coherent.holds_of_sameHolder exact printable present same) stranger
    · rfl
  · rfl

theorem Coherent.clear_of_not_holds (stranger : ¬ Holds system.redis uid lease) :
    clearSessionLease lua system.redis uid lease =
      (decide (0 < uid) && !lease.empty && (system.redis (leaseKey uid)).isNone,
        system.redis) := by
  unfold clearSessionLease
  split
  · grind
  rename_i accepted
  obtain ⟨positive, filled⟩ := not_or.mp accepted
  split
  · grind
  · rename_i stored ttl present
    split
    · rename_i same
      exact absurd (coherent.holds_of_sameHolder exact printable present same) stranger
    · simp [present]
  · rename_i value ttl present
    simp [present]

/-- A command that passes the check carries the identity of the latest login. -/
theorem Coherent.leaseCurrent_latest {command : CommandIdentity}
    (passes : leaseCurrent (getSessionLease system.redis uid) command = true) :
    ∃ lease, (system.bound uid).head? = some lease ∧
      command.originGatewayId = lease.gatewayId ∧ command.originInstanceId = lease.instanceId ∧
      command.connectionId = lease.connectionId ∧
      (command.connectionGeneration.toNat : Int) = lease.generation := by
  simp only [leaseCurrent, Bool.not_eq_true', Bool.or_eq_false_iff, decide_eq_false_iff_not,
    not_not] at passes
  obtain ⟨⟨⟨⟨filled, gateway⟩, inst⟩, connection⟩, generation⟩ := passes
  unfold getSessionLease at filled gateway inst connection generation
  split at filled
  · cases filled
  rename_i positive
  rw [if_neg positive] at gateway inst connection generation
  split at filled
  · rename_i stored ttl present
    rw [present] at gateway inst connection generation
    obtain ⟨latest, _, first, equal⟩ := coherent.stored_exact exact printable present
    cases equal
    have member := mem_of_mem_head? first
    have lower := coherent.positive stored member
    have upper := printable stored member
    refine ⟨stored, first, gateway.symm, inst.symm, connection.symm, ?_⟩
    simp only at generation
    rw [← generation, UInt64.ofInt, UInt64.toNat_ofNat']
    omega
  · cases filled

end

end

/-- Fencing. After any interleaving of the scripts and of expiries, the generations handed out
to a user climb, the stored lease is the latest login's, a session that does not hold it can
neither refresh nor clear it (its clear reports success only when no lease is stored), and a
command passes the check of the Message node only under the latest login's identity. -/
theorem latest_login_fences (exact : lua.Exact) {redis : Redis} (fresh : NoSessions redis)
    {actions : List LeaseAction} {final : LeaseSystem}
    (taken : run (leaseStep lua) (initial redis) actions = some final)
    (uid : Int) (printable : GenerationsPrintable final uid) :
    (final.returned uid).Pairwise (· > ·) ∧
      (∀ entry, final.redis (leaseKey uid) = some entry →
        ∃ lease ttl, (final.bound uid).head? = some lease ∧ entry = ⟨.lease lease, ttl⟩) ∧
      (∀ lease ttlSeconds, ¬ Holds final.redis uid lease →
        refreshSessionLease lua final.redis uid lease ttlSeconds = (false, final.redis)) ∧
      (∀ lease, ¬ Holds final.redis uid lease →
        clearSessionLease lua final.redis uid lease =
          (decide (0 < uid) && !lease.empty && (final.redis (leaseKey uid)).isNone,
            final.redis)) ∧
      ∀ command, leaseCurrent (getSessionLease final.redis uid) command = true →
        ∃ lease, (final.bound uid).head? = some lease ∧
          command.originGatewayId = lease.gatewayId ∧
          command.originInstanceId = lease.instanceId ∧
          command.connectionId = lease.connectionId ∧
          (command.connectionGeneration.toNat : Int) = lease.generation := by
  have coherent := coherent_run fresh taken uid
  refine ⟨?_, ?_, ?_, ?_, ?_⟩
  · exact (pairwise_map.mpr coherent.descending).sublist coherent.answered
  · exact fun entry present => coherent.stored_exact exact printable present
  · exact fun lease ttlSeconds stranger =>
      coherent.refresh_of_not_holds exact printable stranger ttlSeconds
  · exact fun lease stranger => coherent.clear_of_not_holds exact printable stranger
  · exact fun command passes => coherent.leaseCurrent_latest exact printable passes

def plainNumbers : LuaNumbers where
  encoded := id
  tostring := toString

theorem plainNumbers_exact : plainNumbers.Exact where
  encoded := fun _ _ _ => rfl
  tostring := fun _ _ _ => rfl

def leasesAfter (actions : List LeaseAction) : LeaseSystem :=
  (run (leaseStep plainNumbers) (initial fun _ => none) actions).getD
    (initial fun _ => none)

def twoLogins : List LeaseAction :=
  [.bind 7 "g" "i" "first" 60 true, .bind 7 "g" "i" "second" 60 true]

def firstLogin : SessionLease := ⟨"g", "i", "first", 1⟩

theorem latest_login_fences_first_login :
    (leasesAfter twoLogins).returned 7 = [2, 1] ∧
      refreshSessionLease plainNumbers (leasesAfter twoLogins).redis 7 firstLogin 60 =
        (false, (leasesAfter twoLogins).redis) := by
  have printable : GenerationsPrintable (leasesAfter twoLogins) 7 := by
    intro lease member
    fin_cases member <;> decide
  have taken : run (leaseStep plainNumbers) (initial fun _ => none)
      twoLogins = some (leasesAfter twoLogins) := rfl
  obtain ⟨_, _, refresh, _, _⟩ :=
    latest_login_fences plainNumbers_exact (fun _ => ⟨rfl, rfl⟩) taken 7 printable
  refine ⟨rfl, refresh firstLogin 60 ?_⟩
  rintro ⟨ttl, present⟩
  have stored : (leasesAfter twoLogins).redis (leaseKey 7) =
      some ⟨.lease ⟨"g", "i", "second", 2⟩, some 60⟩ := rfl
  rw [stored] at present
  simp [firstLogin] at present

/-- The clear of a replaced login reports success once the lease has expired. -/
theorem stale_clear_succeeds_after_expiry :
    run (leaseStep plainNumbers) (initial fun _ => none)
        (twoLogins ++ [.expire 7]) = some (leasesAfter (twoLogins ++ [.expire 7])) ∧
      ¬ Holds (leasesAfter (twoLogins ++ [.expire 7])).redis 7 firstLogin ∧
      (clearSessionLease plainNumbers (leasesAfter (twoLogins ++ [.expire 7])).redis 7
        firstLogin).1 = true := by
  refine ⟨rfl, ?_, rfl⟩
  rintro ⟨ttl, present⟩
  cases present

end Wimi.Server
