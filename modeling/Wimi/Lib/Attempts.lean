/-
This file is a small library about a command that is sent again until it succeeds.
A command is executed as a list of statements, each of which commits on its own; an
execution draws its own ids and times. A statement may fail, before or after it took
effect, which ends the execution; the client may be told that its time is over while
the execution goes on; and it sends the command again when all it has been told so far
are errors that allow it. So several executions interleave.

The rule at the end says when the executions together have the effect of one: when a
statement that has been passed before, by this execution or another, changes nothing
that one looks at if it is executed again.
-/

import Mathlib
import Wimi.Lib.Transition

namespace Attempts

open List Option Transition

universe u v w x

variable {Database : Type u} {Draw : Type v} {Error : Type w}

/-- One statement, and the error its execution ends with when the statement fails for a reason
outside the database; `none` when it cannot. -/
structure Statement (Database : Type u) (Error : Type w) where
  run : Database → Except Error Database
  fault : Option Error

structure Service (Database : Type u) (Draw : Type v) (Error : Type w) where
  refusal : Option Error := none
  program : Draw → List (Statement Database Error)
  retryable : Error → Bool
  timeout : Error

structure Attempt (Draw : Type v) (Error : Type w) where
  draw : Draw
  executed : Nat := 0
  outcome : Option (Except Error Unit) := none
  answered : Option (Except Error Unit) := none

structure System (Database : Type u) (Draw : Type v) (Error : Type w) where
  database : Database
  attempts : List (Attempt Draw Error) := []

/-- How a statement ends: as the database has it, or with a failure before or after it took
effect. -/
inductive Ending where
  | done
  | failed
  | lost
deriving DecidableEq, Repr

inductive Action (Draw : Type v) where
  | arrive (draw : Draw)
  | statement (index : Nat) (ending : Ending)
  | expire (index : Nat)

/-! ### The system -/

def runAll : List (Statement Database Error) → Database → Except Error Database
  | [], database => .ok database
  | statement :: rest, database =>
    match statement.run database with
    | .error error => .error error
    | .ok next => runAll rest next

namespace Attempt

variable (attempt : Attempt Draw Error)

def finish (result : Except Error Unit) : Attempt Draw Error :=
  { attempt with
    outcome := some result
    answered := some (attempt.answered.getD result) }

def allowsResend (service : Service Database Draw Error) : Bool :=
  match attempt.answered with
  | some (.error error) => service.retryable error
  | _ => false

def advance (length : Nat) : Attempt Draw Error :=
  if attempt.executed + 1 < length then { attempt with executed := attempt.executed + 1 }
  else { attempt with executed := attempt.executed + 1 }.finish (.ok ())

end Attempt

open Attempt

def Service.begin (service : Service Database Draw Error) (draw : Draw) : Attempt Draw Error :=
  match service.refusal with
  | some error => finish { draw } (.error error)
  | none =>
    if (service.program draw).isEmpty then finish { draw } (.ok ())
    else { draw }

namespace System

variable (system : System Database Draw Error)

def set (index : Nat) (database : Database) (attempt : Attempt Draw Error) :
    System Database Draw Error :=
  { database, attempts := system.attempts.set index attempt }

def execute (index : Nat) (attempt : Attempt Draw Error) (length : Nat)
    (statement : Statement Database Error) : Ending → Option (System Database Draw Error)
  | .done =>
    match statement.run system.database with
    | .error error => some (system.set index system.database (attempt.finish (.error error)))
    | .ok next => some (system.set index next (attempt.advance length))
  | .failed =>
    match statement.fault with
    | none => none
    | some error => some (system.set index system.database (attempt.finish (.error error)))
  | .lost =>
    match statement.fault, statement.run system.database with
    | some error, .ok next => some (system.set index next (attempt.finish (.error error)))
    | _, _ => none

end System

def step (service : Service Database Draw Error) (system : System Database Draw Error) :
    Action Draw → Option (System Database Draw Error)
  | .arrive draw =>
    if system.attempts.all fun attempt => attempt.allowsResend service then
      some { system with attempts := system.attempts ++ [service.begin draw] }
    else none
  | .statement index ending =>
    match system.attempts[index]? with
    | none => none
    | some attempt =>
      match attempt.outcome, (service.program attempt.draw)[attempt.executed]? with
      | none, some statement =>
        system.execute index attempt (service.program attempt.draw).length statement ending
      | _, _ => none
  | .expire index =>
    match system.attempts[index]? with
    | none => none
    | some attempt =>
      match attempt.answered with
      | none =>
        some (system.set index system.database
          { attempt with answered := some (.error service.timeout) })
      | some _ => none

/-- After the command was sent until the client was told of a success, and when nothing of it is
executed any more, the database is this one. -/
def Resent (service : Service Database Draw Error) (before after : Database) : Prop :=
  ∃ actions final,
    run (step service) { database := before } actions = some final ∧
    (∃ attempt ∈ final.attempts, attempt.answered = some (.ok ())) ∧
    (∀ attempt ∈ final.attempts, attempt.outcome.isSome) ∧ after = final.database

/-! ### What a step does -/

inductive Outcome (service : Service Database Draw Error) (system : System Database Draw Error) :
    System Database Draw Error → Prop where
  | arrived (draw : Draw) :
      Outcome service system { system with attempts := system.attempts ++ [service.begin draw] }
  | changed {index : Nat} {attempt : Attempt Draw Error} (after : Attempt Draw Error)
      (present : system.attempts[index]? = some attempt) (draw : after.draw = attempt.draw)
      (executed : after.executed = attempt.executed)
      (outcome : after.outcome = attempt.outcome ∨
        attempt.outcome = none ∧ ∃ error, after.outcome = some (.error error))
      (answered : after.answered = some (.ok ()) → attempt.answered = some (.ok ())) :
      Outcome service system (system.set index system.database after)
  | took {index : Nat} {attempt : Attempt Draw Error} (after : Attempt Draw Error)
      {statement : Statement Database Error} {next : Database}
      (present : system.attempts[index]? = some attempt) (running : attempt.outcome = none)
      (current : (service.program attempt.draw)[attempt.executed]? = some statement)
      (ran : statement.run system.database = .ok next)
      (passed : after = attempt.advance (service.program attempt.draw).length ∨
        ∃ error, after = attempt.finish (.error error)) :
      Outcome service system (system.set index next after)

theorem Attempt.answered_finish_error {attempt : Attempt Draw Error} {error : Error}
    (told : (attempt.finish (.error error)).answered = some (.ok ())) :
    attempt.answered = some (.ok ()) := by
  unfold finish at told
  cases answered : attempt.answered with
  | none =>
    rw [answered] at told
    cases told
  | some result =>
    rw [answered] at told
    exact told

variable {action : Action Draw} {database after result : Database}
  {statement : Statement Database Error} {leader draw : Draw} {reached : Nat}

theorem step_outcome {service : Service Database Draw Error}
    {system next : System Database Draw Error} (taken : step service system action = some next) :
    Outcome service system next := by
  cases action with simp only [step] at taken
  | arrive draw =>
    split at taken
    · cases taken
      exact .arrived draw
    · cases taken
  | statement index ending =>
    split at taken
    · cases taken
    rename_i attempt present
    split at taken
    · rename_i statement running current
      have ended (error : Error) : Outcome service system
          (system.set index system.database (attempt.finish (.error error))) :=
        .changed _ present rfl rfl (.inr ⟨running, error, rfl⟩) answered_finish_error
      cases ending with
      | done =>
        simp only [System.execute] at taken
        split at taken
        · cases taken
          exact ended _
        rename_i after ran
        cases taken
        exact .took _ present running current ran (.inl rfl)
      | failed => grind [System.execute]
      | lost =>
        simp only [System.execute] at taken
        split at taken
        · rename_i error after _ ran
          cases taken
          exact .took _ present running current ran (.inr ⟨error, rfl⟩)
        · cases taken
    · cases taken
  | expire index =>
    split at taken
    · cases taken
    rename_i attempt present
    split at taken
    · cases taken
      exact .changed _ present rfl rfl (.inl rfl) fun told => by cases told
    · cases taken

/-! ### The rule -/

theorem runAll_cons {next : Database} (ran : statement.run database = .ok next)
    (rest : List (Statement Database Error)) :
    runAll (statement :: rest) database = runAll rest next := by
  simp only [runAll, ran]

theorem runAll_take_succ {statements : List (Statement Database Error)} {index : Nat}
    {before middle : Database} (ran : runAll (statements.take index) before = .ok middle)
    (current : statements[index]? = some statement) (last : statement.run middle = .ok after) :
    runAll (statements.take (index + 1)) before = .ok after := by
  induction statements generalizing index before with
  | nil => cases current
  | cons first rest inductionHypothesis =>
    cases index with
    | zero =>
      cases ran
      cases current
      simp [runAll, last]
    | succ index => grind [runAll]

theorem runAll_of_take_succ {statements : List (Statement Database Error)} {index : Nat}
    {before : Database} (current : statements[index]? = some statement)
    (ran : runAll (statements.take (index + 1)) before = .ok after) :
    ∃ middle, runAll (statements.take index) before = .ok middle ∧
      statement.run middle = .ok after := by
  induction statements generalizing index before with
  | nil => cases current
  | cons first rest inductionHypothesis =>
    simp only [take_succ_cons, runAll] at ran
    split at ran
    · cases ran
    rename_i next ranFirst
    cases index with
    | zero =>
      cases current
      cases ran
      exact ⟨before, rfl, ranFirst⟩
    | succ index =>
      obtain ⟨middle, ranMiddle, last⟩ := inductionHypothesis current ran
      refine ⟨middle, ?_, last⟩
      simp only [take_succ_cons, runAll, ranFirst, ranMiddle]

section Rule

variable {View : Type x} (service : Service Database Draw Error) (view : Database → View)
  (similar : Draw → Draw → Prop) (before : Database)

/-- The statements look at the view only; those behind the first are the same for similar draws;
and a statement that has been passed before, when it succeeds again, leaves the view. -/
structure Absorbing : Prop where
  refl : ∀ draw, similar draw draw
  length : ∀ draw other, (service.program draw).length = (service.program other).length
  respects : ∀ {draw : Draw} {index : Nat} {statement : Statement Database Error}
    {database other next : Database}, (service.program draw)[index]? = some statement →
    view database = view other → statement.run database = .ok next →
    ∃ after, statement.run other = .ok after ∧ view after = view next
  agrees : ∀ {draw other : Draw} {index : Nat} {statement : Statement Database Error}
    {database next : Database}, similar draw other → 0 < index →
    (service.program draw)[index]? = some statement → statement.run database = .ok next →
    ∃ counterpart after, (service.program other)[index]? = some counterpart ∧
      counterpart.run database = .ok after ∧ view after = view next
  repeated : ∀ {draw other : Draw} {reached index : Nat} {statement : Statement Database Error}
    {result database next : Database}, reached ≤ (service.program other).length →
    runAll ((service.program other).take reached) before = .ok result →
    view database = view result → index < reached → index = 0 ∨ similar draw other →
    (service.program draw)[index]? = some statement → statement.run database = .ok next →
    view next = view database ∧
      (index + 1 < (service.program draw).length → similar draw other)

structure Behind (leader : Draw) (reached : Nat) (attempt : Attempt Draw Error) : Prop where
  executed : attempt.executed ≤ reached
  similar : attempt.outcome = none → 0 < attempt.executed → similar attempt.draw leader
  ended : attempt.outcome = some (.ok ()) →
    attempt.executed = (service.program attempt.draw).length
  told : attempt.answered = some (.ok ()) → attempt.outcome = some (.ok ())

structure Reached (system : System Database Draw Error) (leader : Draw) (reached : Nat)
    (result : Database) : Prop where
  within : reached ≤ (service.program leader).length
  ran : runAll ((service.program leader).take reached) before = .ok result
  same : view system.database = view result
  attempts : ∀ attempt ∈ system.attempts, Behind service similar leader reached attempt

variable {service view similar before}

theorem behind_begin (leader draw : Draw) (reached : Nat) :
    Behind service similar leader reached (service.begin draw) := by
  unfold Service.begin
  split
  · refine ⟨Nat.zero_le _, fun wrong => ?_, fun wrong => ?_, fun wrong => ?_⟩ <;> cases wrong
  split
  · rename_i empty
    refine ⟨Nat.zero_le _, fun wrong => (by cases wrong), fun _ => ?_, fun _ => rfl⟩
    exact (length_eq_zero_iff.mpr (isEmpty_iff.mp empty)).symm
  · refine ⟨Nat.zero_le _, fun _ wrong => absurd wrong (Nat.lt_irrefl 0), fun wrong => ?_,
      fun wrong => ?_⟩ <;> cases wrong

variable {attempt : Attempt Draw Error}

theorem Behind.changed {after : Attempt Draw Error}
    (behind : Behind service similar leader reached attempt) (draw : after.draw = attempt.draw)
    (executed : after.executed = attempt.executed) (outcome : after.outcome = attempt.outcome ∨
      attempt.outcome = none ∧ ∃ error, after.outcome = some (.error error))
    (answered : after.answered = some (.ok ()) → attempt.answered = some (.ok ())) :
    Behind service similar leader reached after := by
  rcases outcome with same | ⟨running, error, failed⟩
  · refine ⟨executed ▸ behind.executed, ?_, ?_, fun told => ?_⟩
    · rw [same, draw, executed]
      exact behind.similar
    · rw [same, draw, executed]
      exact behind.ended
    · exact same.trans (behind.told (answered told))
  refine ⟨executed ▸ behind.executed, fun wrong => ?_, fun wrong => ?_, fun told => ?_⟩
  · cases failed.symm.trans wrong
  · cases failed.symm.trans wrong
  · cases running.symm.trans (behind.told (answered told))

theorem Behind.took {after : Attempt Draw Error}
    (told : attempt.answered = some (.ok ()) → attempt.outcome = some (.ok ()))
    (running : attempt.outcome = none) (within : attempt.executed + 1 ≤ reached)
    (bound : attempt.executed < (service.program attempt.draw).length)
    (still : attempt.executed + 1 < (service.program attempt.draw).length →
      similar attempt.draw leader)
    (passed : after = attempt.advance (service.program attempt.draw).length ∨
      ∃ error, after = attempt.finish (.error error)) :
    Behind service similar leader reached after := by
  have untold : attempt.answered ≠ some (.ok ()) := by
    intro wrong
    cases running.symm.trans (told wrong)
  rcases passed with rfl | ⟨error, rfl⟩
  · unfold advance
    split
    · rename_i more
      refine ⟨within, fun _ _ => still more, fun wrong => ?_, fun wrong => absurd wrong untold⟩
      cases running.symm.trans wrong
    rename_i last
    refine ⟨within, fun wrong => (by cases wrong), fun _ => ?_, fun _ => rfl⟩
    exact Nat.le_antisymm bound (Nat.le_of_not_lt last)
  · exact ⟨Nat.le_of_succ_le within, fun wrong => (by cases wrong), fun wrong => (by cases wrong),
      fun wrong => absurd (answered_finish_error wrong) untold⟩

theorem Behind.mono (behind : Behind service similar leader reached attempt) :
    Behind service similar leader (reached + 1) attempt :=
  { behind with executed := Nat.le_succ_of_le behind.executed }

theorem forall_mem_set {attempts : List (Attempt Draw Error)} {index : Nat}
    {after : Attempt Draw Error} {property : Attempt Draw Error → Prop} (new : property after)
    (old : ∀ attempt ∈ attempts, property attempt) :
    ∀ attempt ∈ attempts.set index after, property attempt := by
  intro attempt member
  rcases mem_or_eq_of_mem_set member with earlier | rfl
  · exact old attempt earlier
  · exact new

section

variable (absorbing : Absorbing service view similar before)
include absorbing

theorem Reached.next {system : System Database Draw Error}
    (sound : Reached service view similar before system leader reached result) {index : Nat}
    (present : system.attempts[index]? = some attempt) (running : attempt.outcome = none)
    (here : attempt.executed = reached)
    (current : (service.program attempt.draw)[attempt.executed]? = some statement)
    (ran : statement.run system.database = .ok after) : ∃ first, similar attempt.draw first ∧
      (∀ other ∈ system.attempts, Behind service similar first (reached + 1) other) ∧
      ∃ last, runAll ((service.program first).take (reached + 1)) before = .ok last ∧
        view after = view last := by
  subst here
  rcases Nat.eq_zero_or_pos attempt.executed with zero | positive
  · refine ⟨attempt.draw, absorbing.refl _, fun other member => ?_, ?_⟩
    · have behind := sound.attempts other member
      have none : other.executed = 0 := Nat.le_zero.mp (zero ▸ behind.executed)
      refine { behind.mono with similar := fun _ wrong => ?_ }
      exact absurd wrong (Nat.not_lt_of_le none.le)
    have start : result = before := by
      have ran := sound.ran
      rw [zero] at ran
      exact (Except.ok.inj ran).symm
    obtain ⟨last, ranBefore, same⟩ := absorbing.respects current (start ▸ sound.same) ran
    have nothing : runAll ((service.program attempt.draw).take attempt.executed) before =
        .ok before := by
      rw [zero]
      rfl
    exact ⟨last, runAll_take_succ nothing current ranBefore, same.symm⟩
  have behind := sound.attempts attempt (mem_of_getElem? present)
  have closest := behind.similar running positive
  obtain ⟨counterpart, middle, currentLeader, ranLeader, sameMiddle⟩ :=
    absorbing.agrees closest positive current ran
  obtain ⟨last, ranResult, sameLast⟩ := absorbing.respects currentLeader sound.same ranLeader
  exact ⟨leader, closest, fun other member => (sound.attempts other member).mono, last,
    runAll_take_succ sound.ran currentLeader ranResult, (sameLast.trans sameMiddle).symm⟩

theorem Reached.step {system next : System Database Draw Error}
    (sound : Reached service view similar before system leader reached result)
    (taken : Attempts.step service system action = some next) :
    ∃ leader reached result, Reached service view similar before next leader reached result := by
  cases step_outcome taken with
  | arrived draw =>
    exact ⟨leader, reached, result, { sound with
      attempts := forall_mem_append.mpr
        ⟨sound.attempts, forall_mem_singleton.mpr (behind_begin leader draw reached)⟩ }⟩
  | changed after present draw executed outcome answered =>
    have behind := sound.attempts _ (mem_of_getElem? present)
    exact ⟨leader, reached, result, { sound with
      attempts := forall_mem_set (behind.changed draw executed outcome answered) sound.attempts }⟩
  | @took index attempt after statement next present running current ran passed =>
    have behind := sound.attempts attempt (mem_of_getElem? present)
    have bound : attempt.executed < (service.program attempt.draw).length :=
      (List.getElem?_eq_some_iff.mp current).1
    rcases Nat.lt_or_eq_of_le behind.executed with earlier | here
    · have known : attempt.executed = 0 ∨ similar attempt.draw leader :=
        (Nat.eq_zero_or_pos attempt.executed).imp id (behind.similar running)
      obtain ⟨unchanged, still⟩ := absorbing.repeated sound.within sound.ran sound.same earlier
        known current ran
      exact ⟨leader, reached, result, {
        within := sound.within
        ran := sound.ran
        same := unchanged.trans sound.same
        attempts := forall_mem_set
          (.took behind.told running earlier bound still passed) sound.attempts }⟩
    obtain ⟨first, closest, others, last, ranFirst, sameLast⟩ :=
      sound.next absorbing present running here current ran
    exact ⟨first, reached + 1, last, {
      within := absorbing.length attempt.draw first ▸ here ▸ bound
      ran := ranFirst
      same := sameLast
      attempts := forall_mem_set
        (.took behind.told running (here ▸ Nat.le_refl _) bound (fun _ => closest) passed)
        others }⟩

/-- A command whose statements are absorbed may be sent again: after a success the database looks
as after one execution. -/
theorem resent_once [Inhabited Draw] (resent : Resent service before after) :
    ∃ draw result, runAll (service.program draw) before = .ok result ∧
      view after = view result := by
  obtain ⟨actions, final, taken, ⟨attempt, member, told⟩, _, rfl⟩ := resent
  obtain ⟨leader, reached, result, sound⟩ := run_invariant
    (fun system => ∃ leader reached result,
      Reached service view similar before system leader reached result)
    (fun system action next sound taken => by
      obtain ⟨leader, reached, result, sound⟩ := sound
      exact sound.step absorbing taken)
    ⟨default, 0, before, Nat.zero_le _, rfl, rfl, forall_mem_nil _⟩ taken
  have behind := sound.attempts attempt member
  have ended : attempt.executed = (service.program leader).length :=
    (behind.ended (behind.told told)).trans (absorbing.length _ _)
  have all : (service.program leader).take reached = service.program leader :=
    take_of_length_le (ended ▸ behind.executed)
  exact ⟨leader, result, all ▸ sound.ran, sound.same⟩

end

end Rule

/-! ### Statements that settle something -/

section Settled

variable {View : Type x} {service : Service Database Draw Error} {view : Database → View}
  {similar : Draw → Draw → Prop}

/-- A statement on the view with what it settles there: while that holds, the statement changes
nothing when it succeeds. -/
structure Settler (View : Type x) (Error : Type w) extends Statement View Error where
  settled : View → Prop
  establishes : ∀ {seen next : View}, run seen = .ok next → settled next
  absorbed : ∀ {seen next : View}, settled seen → run seen = .ok next → next = seen

/-- The statements act on the view as the given ones do, none of which undoes what another has
settled. Those behind the first are the same for similar draws; the first settles the same for
all draws. -/
structure Settling (service : Service Database Draw Error) (view : Database → View)
    (similar : Draw → Draw → Prop) (canonical : Draw → List (Settler View Error)) : Prop where
  refl : ∀ draw, similar draw draw
  length : ∀ draw other, (canonical draw).length = (canonical other).length
  simulated : ∀ draw, List.Forall₂
    (fun (statement : Statement Database Error) (settler : Settler View Error) =>
      ∀ database, (statement.run database).map view = settler.run (view database))
    (service.program draw) (canonical draw)
  heads : ∀ {draw other : Draw} {first second : Settler View Error} {seen : View},
    (canonical draw)[0]? = some first → (canonical other)[0]? = some second →
    second.settled seen → first.settled seen
  claims : ∀ {draw : Draw} {first : Settler View Error} {seen next : View},
    (canonical draw)[0]? = some first → first.settled seen → first.run seen = .ok next →
    ∀ other, similar draw other
  tails : ∀ draw other, similar draw other → (canonical draw).tail = (canonical other).tail
  kept : ∀ draw, ∀ settler ∈ canonical draw, ∀ other ∈ canonical draw, ∀ {seen next : View},
    settler.settled seen → other.run seen = .ok next → settler.settled next

variable {canonical : Draw → List (Settler View Error)}

theorem map_eq_ok {result : Except Error Database} {seen : View}
    (mapped : result.map view = .ok seen) : ∃ next, result = .ok next ∧ view next = seen := by
  cases result with
  | error error => cases mapped
  | ok next => exact ⟨next, rfl, Except.ok.inj mapped⟩

theorem Settling.of_const {settlers : List (Settler View Error)}
    (simulated : ∀ draw, List.Forall₂
      (fun (statement : Statement Database Error) (settler : Settler View Error) =>
        ∀ database, (statement.run database).map view = settler.run (view database))
      (service.program draw) settlers)
    (kept : ∀ settler ∈ settlers, ∀ other ∈ settlers, ∀ {seen next : View},
      settler.settled seen → other.run seen = .ok next → settler.settled next) :
    Settling service view (fun _ _ => True) fun _ => settlers where
  refl _ := trivial
  length _ _ := rfl
  simulated := simulated
  heads here there settled := by
    obtain rfl := some.inj (here.symm.trans there)
    exact settled
  claims _ _ _ _ := trivial
  tails _ _ _ := rfl
  kept _ := kept

variable {index : Nat}

namespace Settling

variable (settling : Settling service view similar canonical)

include settling

theorem image (current : (service.program draw)[index]? = some statement) :
    ∃ settler, (canonical draw)[index]? = some settler ∧
      ∀ database, (statement.run database).map view = settler.run (view database) := by
  have paired := forall₂_iff_get.mp (settling.simulated draw)
  obtain ⟨bound, rfl⟩ := List.getElem?_eq_some_iff.mp current
  exact ⟨_, List.getElem?_eq_getElem (paired.1 ▸ bound), paired.2 index bound (paired.1 ▸ bound)⟩

theorem preimage {settler : Settler View Error}
    (current : (canonical draw)[index]? = some settler) :
    ∃ statement, (service.program draw)[index]? = some statement ∧
      ∀ database, (statement.run database).map view = settler.run (view database) := by
  have paired := forall₂_iff_get.mp (settling.simulated draw)
  obtain ⟨bound, rfl⟩ := List.getElem?_eq_some_iff.mp current
  exact ⟨_, List.getElem?_eq_getElem (paired.1.symm ▸ bound),
    paired.2 index (paired.1.symm ▸ bound) bound⟩

theorem image_of_run {next : Database} (current : (service.program draw)[index]? = some statement)
    (ran : statement.run database = .ok next) :
    ∃ settler, (canonical draw)[index]? = some settler ∧
      settler.run (view database) = .ok (view next) := by
  obtain ⟨settler, currentImage, same⟩ := settling.image current
  refine ⟨settler, currentImage, ?_⟩
  rw [← same database, ran]
  rfl

theorem tail_eq {other : Draw} (alike : similar draw other) (positive : 0 < index) :
    (canonical draw)[index]? = (canonical other)[index]? := by
  obtain ⟨index, rfl⟩ := Nat.exists_eq_succ_of_ne_zero positive.ne'
  rw [← List.getElem?_tail, settling.tails draw other alike, List.getElem?_tail]

theorem settled_of_known {other : Draw} (known : index = 0 ∨ similar draw other)
    {first second : Settler View Error} (here : (canonical draw)[index]? = some first)
    (there : (canonical other)[index]? = some second) {seen : View}
    (settled : second.settled seen) :
    first.settled seen := by
  rcases Nat.eq_zero_or_pos index with rfl | positive
  · exact settling.heads here there settled
  have alike := known.resolve_left positive.ne'
  rw [settling.tail_eq alike positive] at here
  obtain rfl := some.inj (here.symm.trans there)
  exact settled

theorem settled_of_runAll (before : index < reached)
    (within : reached ≤ (service.program draw).length)
    (ran : runAll ((service.program draw).take reached) database = .ok result) :
    ∃ settler, (canonical draw)[index]? = some settler ∧ settler.settled (view result) := by
  induction reached generalizing result with
  | zero => cases before
  | succ reached inductionHypothesis =>
    obtain ⟨statement, current⟩ : ∃ statement, (service.program draw)[reached]? = some statement :=
      ⟨_, List.getElem?_eq_getElem within⟩
    obtain ⟨middle, ranMiddle, last⟩ := runAll_of_take_succ current ran
    obtain ⟨here, currentImage, ranImage⟩ := settling.image_of_run current last
    rcases Nat.lt_succ_iff_lt_or_eq.mp before with earlier | rfl
    · obtain ⟨settler, there, settled⟩ :=
        inductionHypothesis earlier (Nat.le_of_succ_le within) ranMiddle
      exact ⟨settler, there, settling.kept draw settler (mem_of_getElem? there) here
        (mem_of_getElem? currentImage) settled ranImage⟩
    · exact ⟨here, currentImage, here.establishes ranImage⟩

theorem absorbing (before : Database) : Absorbing service view similar before where
  refl := settling.refl
  length draw other := by
    rw [(settling.simulated draw).length_eq, (settling.simulated other).length_eq]
    exact settling.length draw other
  respects {draw index statement database other next} current same ran := by
    obtain ⟨settler, _, simulates⟩ := settling.image current
    refine map_eq_ok ?_
    rw [simulates other, ← same, ← simulates database, ran]
    rfl
  agrees {draw other index statement database next} alike positive current ran := by
    obtain ⟨settler, currentImage, ranImage⟩ := settling.image_of_run current ran
    rw [settling.tail_eq alike positive] at currentImage
    obtain ⟨counterpart, currentOther, simulates⟩ := settling.preimage currentImage
    obtain ⟨after, ranAfter, same⟩ := map_eq_ok ((simulates database).trans ranImage)
    exact ⟨counterpart, after, currentOther, ranAfter, same⟩
  repeated {draw other reached index statement result database next} within ranAll same earlier
      known current ran := by
    obtain ⟨settler, here, ranImage⟩ := settling.image_of_run current ran
    obtain ⟨executed, there, settled⟩ := settling.settled_of_runAll earlier within ranAll
    rw [← same] at settled
    have again := settling.settled_of_known known here there settled
    refine ⟨settler.absorbed again ranImage, fun _ => ?_⟩
    rcases known with rfl | alike
    · exact settling.claims here again ranImage other
    · exact alike

/-- A command whose statements settle what they write may be sent again. -/
theorem once [Inhabited Draw] {before : Database} (resent : Resent service before after) :
    ∃ draw result, runAll (service.program draw) before = .ok result ∧ view after = view result :=
  resent_once (settling.absorbing before) resent

end Settling

end Settled

/-! ### Commands that never succeed -/

section Stuck

variable {service : Service Database Draw Error} {index : Nat}

structure Stuck (service : Service Database Draw Error) (index : Nat)
    (attempt : Attempt Draw Error) : Prop where
  outcome : attempt.outcome ≠ some (.ok ())
  answered : attempt.answered ≠ some (.ok ())
  running : attempt.outcome = none → service.refusal = none ∧ attempt.executed ≤ index

def Fails (service : Service Database Draw Error) (index : Nat) : Prop :=
  ∀ draw, ∃ statement, (service.program draw)[index]? = some statement ∧
    ∀ database, ∃ error, statement.run database = .error error

theorem stuck_finish_error {attempt : Attempt Draw Error} (stuck : Stuck service index attempt)
    (error : Error) : Stuck service index (attempt.finish (.error error)) :=
  ⟨fun wrong => (by cases wrong), fun wrong => stuck.answered (answered_finish_error wrong),
    fun wrong => (by cases wrong)⟩

theorem stuck_begin (never : service.refusal.isSome ∨ Fails service index) (draw : Draw) :
    Stuck service index (service.begin draw) := by
  unfold Service.begin
  split
  · refine ⟨fun wrong => ?_, fun wrong => ?_, fun wrong => ?_⟩ <;> cases wrong
  rename_i accepted
  split
  · rename_i empty
    rcases never with refused | fails
    · rw [accepted] at refused
      cases refused
    obtain ⟨statement, current, _⟩ := fails draw
    rw [isEmpty_iff.mp empty] at current
    cases current
  · refine ⟨fun wrong => ?_, fun wrong => ?_, fun _ => ⟨accepted, Nat.zero_le index⟩⟩ <;>
      cases wrong

theorem Stuck.step (never : service.refusal.isSome ∨ Fails service index)
    {system next : System Database Draw Error}
    (stuck : ∀ attempt ∈ system.attempts, Stuck service index attempt)
    (taken : Attempts.step service system action = some next) :
    ∀ attempt ∈ next.attempts, Stuck service index attempt := by
  cases step_outcome taken with
  | arrived draw =>
    exact forall_mem_append.mpr ⟨stuck, forall_mem_singleton.mpr (stuck_begin never draw)⟩
  | @changed position attempt after present draw executed outcome answered =>
    have own := stuck attempt (mem_of_getElem? present)
    refine forall_mem_set ⟨?_, fun told => own.answered (answered told), ?_⟩ stuck
    · rcases outcome with same | ⟨_, error, failed⟩
      · exact same ▸ own.outcome
      · exact fun wrong => by cases failed.symm.trans wrong
    rcases outcome with same | ⟨_, error, failed⟩
    · rw [same, executed]
      exact own.running
    · exact fun wrong => by cases failed.symm.trans wrong
  | @took position attempt after statement database present running current ran passed =>
    have own := stuck attempt (mem_of_getElem? present)
    obtain ⟨accepted, notBehind⟩ := own.running running
    rcases never with refused | fails
    · rw [accepted] at refused
      cases refused
    obtain ⟨failing, there, error⟩ := fails attempt.draw
    have short : attempt.executed < index := by
      refine lt_of_le_of_ne notBehind fun here => ?_
      rw [here] at current
      obtain rfl := some.inj (current.symm.trans there)
      obtain ⟨error, failed⟩ := error system.database
      cases failed.symm.trans ran
    have more : attempt.executed + 1 < (service.program attempt.draw).length :=
      lt_of_le_of_lt short (List.getElem?_eq_some_iff.mp there).1
    refine forall_mem_set ?_ stuck
    rcases passed with rfl | ⟨error, rfl⟩
    · unfold advance
      rw [if_pos more]
      exact ⟨own.outcome, own.answered, fun _ => ⟨accepted, short⟩⟩
    · exact stuck_finish_error own error

/-- A command that is refused, or that has a statement which always fails, never succeeds. -/
theorem not_resent (index : Nat) (never : service.refusal.isSome ∨ Fails service index)
    (before after : Database) : ¬ Resent service before after := by
  rintro ⟨actions, final, taken, ⟨attempt, member, told⟩, _⟩
  refine (run_invariant
    (fun system => ∀ attempt ∈ system.attempts, Stuck service index attempt)
    (fun system action next stuck taken => Stuck.step never stuck taken)
    (forall_mem_nil _) taken attempt member).answered told

end Stuck

/-! ### Two executions one after the other -/

section Twice

variable {service : Service Database Draw Error}

theorem run_statements {remaining : List (Statement Database Error)}
    {attempts : List (Attempt Draw Error)} {index : Nat} {attempt : Attempt Draw Error}
    (present : attempts[index]? = some attempt) (running : attempt.outcome = none)
    (left : (service.program attempt.draw).drop attempt.executed = remaining)
    (some_ : remaining ≠ []) (ran : runAll remaining database = .ok result) :
    ∃ after, run (step service) { database, attempts }
        (replicate remaining.length (.statement index .done)) =
          some { database := result, attempts := attempts.set index after } ∧
      after.outcome = some (.ok ()) ∧ after.answered = some (attempt.answered.getD (.ok ())) := by
  induction remaining generalizing attempts attempt database with
  | nil => exact absurd rfl some_
  | cons statement rest inductionHypothesis =>
    have current : (service.program attempt.draw)[attempt.executed]? = some statement := by
      rw [← head?_drop, left, head?_cons]
    have later : (service.program attempt.draw).drop (attempt.executed + 1) = rest := by
      rw [← tail_drop, left, tail_cons]
    simp only [runAll] at ran
    split at ran
    · cases ran
    rename_i next passed
    have taken : step service { database, attempts }
        (.statement index .done) = some ⟨next,
          attempts.set index (attempt.advance (service.program attempt.draw).length)⟩ := by
      simp only [step, present, running, current, System.execute, passed, System.set]
    rw [length_cons, replicate_succ, run_cons_of_step _ taken]
    by_cases last : rest = []
    · subst last
      cases ran
      have ended : ¬ attempt.executed + 1 < (service.program attempt.draw).length :=
        Nat.not_lt_of_le (drop_eq_nil_iff.mp later)
      refine ⟨attempt.advance (service.program attempt.draw).length, rfl, ?_⟩
      unfold advance
      rw [if_neg ended]
      exact ⟨rfl, rfl⟩
    have more : attempt.executed + 1 < (service.program attempt.draw).length := by grind
    have inside := (List.getElem?_eq_some_iff.mp present).1
    unfold advance
    rw [if_pos more]
    obtain ⟨after, taken, outcome, answered⟩ := @inductionHypothesis _ _
      { attempt with executed := attempt.executed + 1 } (List.getElem?_set_self inside)
      running later last ran
    refine ⟨after, ?_, outcome, answered⟩
    rw [taken, set_set]

/-- A command may be executed twice when the client was told that the first time was over. -/
theorem resent_twice {first second : Draw} {before middle : Database}
    (accepted : service.refusal = none) (retryable : service.retryable service.timeout = true)
    (someFirst : service.program first ≠ []) (someSecond : service.program second ≠ [])
    (ranFirst : runAll (service.program first) before = .ok middle)
    (ranSecond : runAll (service.program second) middle = .ok after) :
    Resent service before after := by
  have begins {draw : Draw} (some_ : service.program draw ≠ []) :
      service.begin draw = { draw } := by
    unfold Service.begin
    rw [accepted]
    dsimp only
    rw [isEmpty_eq_false_iff.mpr some_]
    rfl
  let expired : Attempt Draw Error := { draw := first, answered := some (.error service.timeout) }
  obtain ⟨done, takenFirst, doneOutcome, doneAnswered⟩ := run_statements
    (show [expired][0]? = some expired from rfl) rfl
    (drop_zero (l := service.program first)) someFirst ranFirst
  obtain ⟨told, takenSecond, toldOutcome, toldAnswered⟩ := run_statements
    (show [done, { draw := second }][1]? = some { draw := second } from rfl) rfl
    (drop_zero (l := service.program second)) someSecond ranSecond
  have arrived : step service { database := before } (.arrive first) =
      some { database := before, attempts := [{ draw := first }] } := by
    simp only [step, all_nil, if_true, begins someFirst, nil_append]
  have allowed : done.allowsResend service = true := by
    unfold allowsResend
    rw [doneAnswered]
    exact retryable
  have again : step service { database := middle, attempts := [done] } (.arrive second) =
      some { database := middle, attempts := [done, { draw := second }] } := by
    simp only [step, all_cons, all_nil, allowed, Bool.and_self, if_true,
      begins someSecond, cons_append, nil_append]
  refine ⟨[.arrive first, .expire 0] ++ replicate (service.program first).length
      (.statement 0 .done) ++ ([.arrive second] ++ replicate (service.program second).length
      (.statement 1 .done)), { database := after, attempts := [done, told] }, ?_,
    ⟨told, mem_cons_of_mem _ mem_cons_self, toldAnswered⟩, ?_, rfl⟩
  · refine run_append_eq_some.mpr ⟨{ database := middle, attempts := [done] }, ?_, ?_⟩
    · rw [cons_append, run_cons_of_step _ arrived]
      exact takenFirst
    · rw [singleton_append, run_cons_of_step _ again]
      exact takenSecond
  · grind

end Twice

end Attempts
