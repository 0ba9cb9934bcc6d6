/-
This file models `generateId`, which all nodes call with one Redis, and proves that the
ids it returns are positive, ordered by their timestamps and different from each other.

A call reads the clock of its node and increments the counter of that millisecond. The
counters are shared, so of two calls with one timestamp the later finds a larger
number, whatever their machine ids and whatever the clocks do. A number above 4095 does
not fit into its twelve bits; the call then starts again with another reading.
-/

import Wimi.Server.GroupHistory

namespace Wimi.Server

open Function List Transition

/-! ### The parts of an id -/

namespace IdDraw

/-- The parts fit into their bits: 41 for the timestamp, 10 for the machine, 12 for the counter. -/
structure Fits (draw : IdDraw) : Prop where
  timestamp : draw.timestamp < 2 ^ 41
  machineId : draw.machineId < 2 ^ 10
  seq : draw.seq < 2 ^ 12

theorem Fits.generateId_eq {draw : IdDraw} (fits : draw.Fits) :
    generateId (some draw) =
      (draw.timestamp * 2 ^ 22 + (draw.machineId * 2 ^ 12 + draw.seq) : Nat) := by
  have low : draw.machineId <<< 12 ||| draw.seq = draw.machineId * 2 ^ 12 + draw.seq := by
    rw [← Nat.shiftLeft_add_eq_or_of_lt fits.seq, Nat.shiftLeft_eq]
  have small : draw.machineId * 2 ^ 12 + draw.seq < 2 ^ 22 := by
    have := fits.machineId
    have := fits.seq
    omega
  rw [generateId, Nat.or_assoc, low, ← Nat.shiftLeft_add_eq_or_of_lt small, Nat.shiftLeft_eq]

section Ids

variable {draw other : IdDraw} (fits : draw.Fits) (otherFits : other.Fits)

include fits

theorem Fits.generateId_pos : 0 < generateId (some draw) := by
  rw [fits.generateId_eq]
  have := draw.counted
  omega

theorem Fits.generateId_lt : generateId (some draw) < 2 ^ 63 := by
  rw [fits.generateId_eq]
  have := fits.timestamp
  have := fits.machineId
  have := fits.seq
  omega

include otherFits

theorem Fits.generateId_lt_of_timestamp_lt (later : draw.timestamp < other.timestamp) :
    generateId (some draw) < generateId (some other) := by
  rw [fits.generateId_eq, otherFits.generateId_eq]
  have := fits.machineId
  have := fits.seq
  omega

/-- Timestamp and counter can be read off an id. -/
theorem Fits.parts_of_generateId_eq (same : generateId (some draw) = generateId (some other)) :
    draw.timestamp = other.timestamp ∧ draw.seq = other.seq := by
  rw [fits.generateId_eq, otherFits.generateId_eq] at same
  have := fits.machineId
  have := fits.seq
  have := otherFits.machineId
  have := otherFits.seq
  omega

end Ids

end IdDraw

/-! ### Calls -/

inductive GenerateCall where
  | running (machineId : Nat)
  | failed
  | returned (draw : IdDraw)
deriving DecidableEq, Repr

structure IdSystem where
  counters : Nat → Nat := fun _ => 0
  calls : Nat → Option GenerateCall := fun _ => none

/-- A call begins; it reads a clock and increments the counter; it meets an error before its
`INCR`; or the `INCR` is executed and the answer is lost. -/
inductive IdAction where
  | generateId (call machineId : Nat)
  | incr (call timestamp : Nat)
  | error (call : Nat)
  | lost (call timestamp : Nat)
deriving DecidableEq, Repr

namespace IdSystem

variable (system : IdSystem)

def setCall (call : Nat) (state : GenerateCall) : IdSystem :=
  { system with calls := update system.calls call (some state) }

def count (timestamp : Nat) : IdSystem :=
  { system with
    counters := update system.counters timestamp (system.counters timestamp + 1) }

end IdSystem

def GenerateCall.take (machineId timestamp previous : Nat) : GenerateCall :=
  if 4095 < previous + 1 then .running machineId
  else .returned ⟨timestamp, machineId, previous + 1, Nat.succ_pos previous⟩

def idStep (system : IdSystem) : IdAction → Option IdSystem
  | .generateId call machineId =>
    if system.calls call = none then some (system.setCall call (.running machineId)) else none
  | .incr call timestamp =>
    match system.calls call with
    | some (.running machineId) =>
      some ((system.count timestamp).setCall call
        (.take machineId timestamp (system.counters timestamp)))
    | _ => none
  | .error call =>
    match system.calls call with
    | some (.running _) => some (system.setCall call .failed)
    | _ => none
  | .lost call timestamp =>
    match system.calls call with
    | some (.running _) => some ((system.count timestamp).setCall call .failed)
    | _ => none

/-- The machine id is in `0..1023`, and the reading of the clock is in the 41 bits behind the
epoch. -/
def InRange : IdAction → Prop
  | .generateId _ machineId => machineId ≤ 1023
  | .incr _ timestamp => timestamp < 2 ^ 41
  | .error _ => True
  | .lost _ timestamp => timestamp < 2 ^ 41

/-! ### The invariant -/

structure Drawn (counters : Nat → Nat) (draw : IdDraw) : Prop where
  fits : draw.Fits
  reached : draw.seq ≤ counters draw.timestamp

structure SoundIds (system : IdSystem) : Prop where
  running : ∀ call machineId, system.calls call = some (.running machineId) → machineId < 2 ^ 10
  drawn : ∀ call draw, system.calls call = some (.returned draw) → Drawn system.counters draw
  apart : ∀ call other draw otherDraw, system.calls call = some (.returned draw) →
    system.calls other = some (.returned otherDraw) → call ≠ other →
    draw.timestamp = otherDraw.timestamp → draw.seq ≠ otherDraw.seq

section Rules

variable {system : IdSystem} {call : Nat}

theorem SoundIds.setCall (sound : SoundIds system) {state : GenerateCall}
    (small : ∀ machineId, state = .running machineId → machineId < 2 ^ 10)
    (without : ∀ draw, state ≠ .returned draw) : SoundIds (system.setCall call state) where
  running := by
    intro other machineId found
    rcases update_eq_some found with ⟨-, same⟩ | ⟨-, found⟩
    · exact small machineId same.symm
    · exact sound.running other machineId found
  drawn := by
    intro other draw found
    rcases update_eq_some found with ⟨-, same⟩ | ⟨-, found⟩
    · exact absurd same.symm (without draw)
    · exact sound.drawn other draw found
  apart := by
    intro first second draw otherDraw found otherFound
    rcases update_eq_some found with ⟨-, same⟩ | ⟨-, found⟩
    · exact absurd same.symm (without draw)
    rcases update_eq_some otherFound with ⟨-, same⟩ | ⟨-, otherFound⟩
    · exact absurd same.symm (without otherDraw)
    exact sound.apart first second draw otherDraw found otherFound

theorem le_count (timestamp other : Nat) :
    system.counters other ≤ (system.count timestamp).counters other := by
  change _ ≤ update system.counters timestamp _ other
  rw [update_apply]
  split
  next same => exact same ▸ Nat.le_succ _
  next => exact le_refl _

section

variable (sound : SoundIds system)
include sound

theorem SoundIds.count (timestamp : Nat) : SoundIds (system.count timestamp) where
  running := sound.running
  drawn other draw found :=
    ⟨(sound.drawn other draw found).fits,
      (sound.drawn other draw found).reached.trans (le_count timestamp _)⟩
  apart := sound.apart

/-- A draw with the next number of its counter is apart from all others. -/
theorem SoundIds.returned {timestamp machineId : Nat} (clock : timestamp < 2 ^ 41)
    (machine : machineId < 2 ^ 10) (few : system.counters timestamp + 1 ≤ 4095) :
    SoundIds ((system.count timestamp).setCall call
      (.returned ⟨timestamp, machineId, system.counters timestamp + 1, Nat.succ_pos _⟩)) := by
  have counted := sound.count timestamp
  have fresh : ∀ other draw, system.calls other = some (.returned draw) →
      draw.timestamp = timestamp → draw.seq ≠ system.counters timestamp + 1 := by
    intro other draw found same
    have reached := (sound.drawn other draw found).reached
    rw [same] at reached
    omega
  refine ⟨?_, ?_, ?_⟩
  · intro other machineId found
    rcases update_eq_some found with ⟨-, same⟩ | ⟨-, found⟩
    · cases same
    · exact sound.running other machineId found
  · intro other draw found
    rcases update_eq_some found with ⟨-, same⟩ | ⟨-, found⟩
    · cases same
      refine ⟨⟨clock, machine, Nat.lt_succ_of_le few⟩, ?_⟩
      exact le_of_eq (update_self timestamp _ system.counters).symm
    · exact counted.drawn other draw found
  intro first second draw otherDraw found otherFound different same
  rcases update_eq_some found with ⟨isFirst, new⟩ | ⟨-, found⟩
  · rcases update_eq_some otherFound with ⟨isSecond, -⟩ | ⟨-, otherFound⟩
    · exact absurd (isFirst.trans isSecond.symm) different
    · cases new
      exact (fresh second otherDraw otherFound same.symm).symm
  rcases update_eq_some otherFound with ⟨-, new⟩ | ⟨-, otherFound⟩
  · cases new
    exact fresh first draw found same
  · exact sound.apart first second draw otherDraw found otherFound different same

theorem SoundIds.incr {machineId timestamp : Nat}
    (found : system.calls call = some (.running machineId)) (clock : timestamp < 2 ^ 41) :
    SoundIds ((system.count timestamp).setCall call
      (.take machineId timestamp (system.counters timestamp))) := by
  have machine := sound.running call machineId found
  rw [GenerateCall.take]
  split
  next =>
    refine (sound.count timestamp).setCall ?_ (fun _ wrong => by cases wrong)
    rintro _ ⟨⟩
    exact machine
  next few => exact sound.returned clock machine (not_lt.mp few)

theorem SoundIds.step {action : IdAction} {next : IdSystem} (ranged : InRange action)
    (taken : idStep system action = some next) : SoundIds next := by
  cases action with simp only [idStep] at taken
  | generateId call machineId =>
    split at taken
    · cases taken
      refine sound.setCall ?_ (fun _ wrong => by cases wrong)
      rintro _ ⟨⟩
      exact Nat.lt_succ_of_le ranged
    · cases taken
  | incr call timestamp =>
    split at taken
    next found =>
      cases taken
      exact sound.incr found ranged
    next => cases taken
  | error call =>
    split at taken
    · cases taken
      exact sound.setCall (fun _ wrong => by cases wrong) (fun _ wrong => by cases wrong)
    · cases taken
  | lost call timestamp =>
    split at taken
    · cases taken
      exact (sound.count timestamp).setCall (fun _ wrong => by cases wrong)
        (fun _ wrong => by cases wrong)
    · cases taken

end

end Rules

theorem soundIds_run {actions : List IdAction} {final : IdSystem}
    (ranged : ∀ action ∈ actions, InRange action)
    (taken : run idStep {} actions = some final) : SoundIds final := by
  refine run_invariant_along SoundIds (fun _ => InRange)
    (fun _ _ _ sound ranged taken => sound.step ranged taken) ⟨?_, ?_, ?_⟩
    (along_of_forall ranged) taken
  · exact fun _ _ wrong => by cases wrong
  · exact fun _ _ wrong => by cases wrong
  · exact fun _ _ _ _ wrong => by cases wrong

/-! ### The ids -/

/-- However the calls of the nodes interleave and whatever their clocks show, the ids of the
calls that met no error are positive numbers of 63 bits, follow their timestamps and are pairwise
different. -/
theorem ids_positive_ordered_distinct {actions : List IdAction} {final : IdSystem}
    (ranged : ∀ action ∈ actions, InRange action)
    (taken : run idStep {} actions = some final) :
    ∀ call draw, final.calls call = some (.returned draw) →
      (0 < generateId (some draw) ∧ generateId (some draw) < 2 ^ 63) ∧
      ∀ other otherDraw, final.calls other = some (.returned otherDraw) →
        (draw.timestamp < otherDraw.timestamp →
          generateId (some draw) < generateId (some otherDraw)) ∧
        (call ≠ other → generateId (some draw) ≠ generateId (some otherDraw)) := by
  have sound := soundIds_run ranged taken
  intro call draw found
  have fits := (sound.drawn call draw found).fits
  refine ⟨⟨fits.generateId_pos, fits.generateId_lt⟩, fun other otherDraw otherFound => ?_⟩
  have otherFits := (sound.drawn other otherDraw otherFound).fits
  refine ⟨fits.generateId_lt_of_timestamp_lt otherFits, fun different same => ?_⟩
  obtain ⟨timestamp, seq⟩ := fits.parts_of_generateId_eq otherFits same
  exact sound.apart call other draw otherDraw found otherFound different timestamp seq

def clockGoesBack : List IdAction :=
  [.generateId 0 7, .generateId 1 7, .generateId 2 7, .incr 0 5, .incr 1 5, .incr 2 3]

def idsAfter (actions : List IdAction) : IdSystem := (run idStep {} actions).getD {}

theorem ids_positive_ordered_distinct_clock_back :
    ((idsAfter clockGoesBack).calls 0 = some (.returned ⟨5, 7, 1, by decide⟩) ∧
      (idsAfter clockGoesBack).calls 1 = some (.returned ⟨5, 7, 2, by decide⟩) ∧
      (idsAfter clockGoesBack).calls 2 = some (.returned ⟨3, 7, 1, by decide⟩)) ∧
    generateId (some ⟨5, 7, 1, by decide⟩) ≠ generateId (some ⟨5, 7, 2, by decide⟩) ∧
    generateId (some ⟨3, 7, 1, by decide⟩) < generateId (some ⟨5, 7, 1, by decide⟩) := by
  have reached : run idStep {} clockGoesBack = some (idsAfter clockGoesBack) := rfl
  have ranged : ∀ action ∈ clockGoesBack, InRange action := by
    simp only [clockGoesBack, forall_mem_cons, InRange, not_mem_nil, false_imp_iff,
      forall_true_iff]
    decide
  have ids := ids_positive_ordered_distinct ranged reached
  exact ⟨⟨rfl, rfl, rfl⟩, ((ids 0 _ rfl).2 1 _ rfl).2 (by decide),
    ((ids 2 _ rfl).2 0 _ rfl).1 (by decide)⟩

end Wimi.Server
