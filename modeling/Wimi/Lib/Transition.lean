/-
This file is a small library about step functions. A component is a state type,
an action type and a partial step function: the action carries every choice the
environment makes, and `none` means that the action is not enabled. A run is a
list of actions. The rules below turn a fact about one step into a fact about
every run: an invariant, an invariant that needs each step to meet a condition, a
preorder that the state only climbs, and a relation with another component. The
calls of a concurrent component are a partial map in which a step changes one entry.
-/

import Mathlib.Data.List.Basic
import Mathlib.Logic.Function.Basic
import Mathlib.Order.Basic

namespace Transition

universe u v

variable {State : Type u} {Action : Type v}

/-! ### Runs -/

/-- Take the actions one after the other; `none` as soon as one of them is not enabled. -/
def run (step : State → Action → Option State) : State → List Action → Option State
  | state, [] => some state
  | state, action :: rest =>
    match step state action with
    | none => none
    | some next => run step next rest

/-- Every step of the run meets the condition, read in the state the step starts from. -/
def Along (step : State → Action → Option State) (condition : State → Action → Prop) :
    State → List Action → Prop
  | _, [] => True
  | state, action :: rest =>
    condition state action ∧ ∀ next, step state action = some next → Along step condition next rest

variable {step : State → Action → Option State}

@[simp] theorem run_nil (state : State) : run step state [] = some state := rfl

theorem run_cons (state : State) (action : Action) (rest : List Action) :
    run step state (action :: rest) = (step state action).bind fun next => run step next rest := by
  simp only [run]
  cases step state action <;> rfl

variable {state next final : State} {action : Action} {rest actions : List Action}
  {condition : State → Action → Prop}

theorem run_cons_of_step (rest : List Action) (taken : step state action = some next) :
    run step state (action :: rest) = run step next rest := by
  rw [run_cons, taken, Option.bind_some]

theorem run_singleton (taken : step state action = some next) :
    run step state [action] = some next := by
  rw [run_cons_of_step [] taken, run_nil]

theorem run_cons_eq_some : run step state (action :: rest) = some final ↔
      ∃ next, step state action = some next ∧ run step next rest = some final := by
  rw [run_cons, Option.bind_eq_some_iff]

theorem run_append_eq_some {first second : List Action} :
    run step state (first ++ second) = some final ↔
      ∃ middle, run step state first = some middle ∧ run step middle second = some final := by
  induction first generalizing state with
  | nil => simp
  | cons action rest inductionHypothesis =>
    rw [List.cons_append]
    simp only [inductionHypothesis, run_cons_eq_some]
    exact ⟨fun ⟨next, taken, middle, early, late⟩ => ⟨middle, ⟨next, taken, early⟩, late⟩,
      fun ⟨middle, ⟨next, taken, early⟩, late⟩ => ⟨next, taken, middle, early, late⟩⟩

/-- A condition is checked along a run one step at a time. -/
theorem along_cons (meets : condition state action) (taken : step state action = some next)
    (later : Along step condition next rest) : Along step condition state (action :: rest) := by
  refine ⟨meets, fun other reached => ?_⟩
  rw [taken, Option.some.injEq] at reached
  exact reached ▸ later

theorem along_of_forall {condition : Action → Prop} (all : ∀ action ∈ actions, condition action) :
    Along step (fun _ => condition) state actions := by
  induction actions generalizing state with
  | nil => trivial
  | cons action rest inductionHypothesis =>
    obtain ⟨first, later⟩ := List.forall_mem_cons.mp all
    exact ⟨first, fun _ _ => inductionHypothesis later⟩

theorem Along.imp {weaker : State → Action → Prop}
    (implies : ∀ state action, condition state action → weaker state action)
    (along : Along step condition state actions) : Along step weaker state actions := by
  induction actions generalizing state with
  | nil => trivial
  | cons action rest inductionHypothesis =>
    exact ⟨implies state action along.1, fun next taken => inductionHypothesis (along.2 next taken)⟩

theorem along_cons_iff : Along step condition state (action :: rest) ↔
      condition state action ∧ ∀ next ∈ step state action, Along step condition next rest :=
  Iff.rfl

/-- A condition that can be decided can be decided along a run. -/
instance decidableAlong (condition : State → Action → Prop)
    [∀ state action, Decidable (condition state action)] :
    ∀ (actions : List Action) (state : State), Decidable (Along step condition state actions)
  | [], _ => isTrue trivial
  | action :: rest, state =>
    have : ∀ next, Decidable (Along step condition next rest) :=
      decidableAlong condition rest
    decidable_of_iff _ (@along_cons_iff _ _ step state action rest condition).symm

/-! ### The induction rules -/

/-- A property that every step keeps holds after every run. -/
theorem run_invariant (invariant : State → Prop)
    (kept : ∀ state action next, invariant state → step state action = some next →
      invariant next) (start : invariant state) (taken : run step state actions = some final) :
    invariant final := by
  induction actions generalizing state with
  | nil =>
    cases taken
    exact start
  | cons action rest inductionHypothesis => grind [run_cons_eq_some]

/-- A property that every step meeting the condition keeps holds after every run whose
steps all meet it. -/
theorem run_invariant_along (invariant : State → Prop) (condition : State → Action → Prop)
    (kept : ∀ state action next, invariant state → condition state action →
      step state action = some next → invariant next) (start : invariant state)
    (along : Along step condition state actions) (taken : run step state actions = some final) :
    invariant final := by
  induction actions generalizing state with
  | nil =>
    cases taken
    exact start
  | cons action rest inductionHypothesis =>
    obtain ⟨next, first, later⟩ := run_cons_eq_some.mp taken
    exact inductionHypothesis (kept state action next start along.1 first) (along.2 next first)
      later

/-- A preorder that every step climbs from a state with the invariant is climbed by every
run. -/
theorem run_relation (invariant : State → Prop) (relation : State → State → Prop)
    (refl : ∀ state, relation state state)
    (trans : ∀ first second third, relation first second → relation second third →
      relation first third)
    (kept : ∀ state action next, invariant state → step state action = some next →
      invariant next ∧ relation state next) (start : invariant state)
    (taken : run step state actions = some final) : relation state final := by
  induction actions generalizing state with
  | nil =>
    cases taken
    exact refl _
  | cons action rest inductionHypothesis => grind [run_cons_eq_some]

section

variable (invariant property : State → Prop) (condition : State → Action → Prop)
  (kept : ∀ state action next, invariant state → step state action = some next → invariant next)
include kept

/-- When a step has the property after it exactly if it had it before and the step met the
condition, a run has the property at its end exactly if it had it at its start and every step
met the condition. -/
theorem run_iff_along
    (exactly : ∀ state action next, invariant state → step state action = some next →
      (property next ↔ property state ∧ condition state action)) (start : invariant state)
    (taken : run step state actions = some final) :
    property final ↔ property state ∧ Along step condition state actions := by
  induction actions generalizing state with
  | nil =>
    cases taken
    exact ⟨fun holds => ⟨holds, trivial⟩, fun holds => holds.1⟩
  | cons action rest inductionHypothesis =>
    obtain ⟨next, first, later⟩ := run_cons_eq_some.mp taken
    rw [inductionHypothesis (kept state action next start first) later,
      exactly state action next start first, and_assoc]
    refine and_congr_right fun _ => and_congr_right fun _ => ⟨fun along other reached => ?_, ?_⟩
    · grind
    · exact fun along => along next first

/-- When a step from a state with the property keeps it exactly if it meets the condition, every
state of a run has the property exactly if every step met the condition. -/
theorem always_iff_along (exactly : ∀ state action next, invariant state → property state →
      step state action = some next → (property next ↔ condition state action))
    (start : invariant state) (holds : property state)
    (taken : run step state actions = some final) :
    (∀ early late reached, actions = early ++ late → run step state early = some reached →
      property reached) ↔ Along step condition state actions := by
  induction actions generalizing state with
  | nil =>
    refine iff_of_true (fun early late reached split reaches => ?_) trivial
    rw [(List.nil_eq_append_iff.mp split).1] at reaches
    cases reaches
    exact holds
  | cons action rest inductionHypothesis =>
    obtain ⟨next, first, later⟩ := run_cons_eq_some.mp taken
    have step := exactly state action next start holds first
    constructor
    · intro always
      have nextHolds : property next := always [action] rest next rfl (run_singleton first)
      refine along_cons (step.mp nextHolds) first ?_
      refine (inductionHypothesis (kept state action next start first) nextHolds later).mp ?_
      intro early late reached split reaches
      refine always (action :: early) late reached (by rw [split, List.cons_append]) ?_
      rw [run_cons_of_step early first, reaches]
    intro along early late reached split reaches
    have nextHolds : property next := step.mpr along.1
    cases early with
    | nil =>
      cases reaches
      exact holds
    | cons head early =>
      obtain ⟨rfl, tails⟩ := List.cons.inj split
      rw [run_cons_of_step early first] at reaches
      exact (inductionHypothesis (kept state action next start first) nextHolds later).mpr
        (along.2 next first) early late reached tails reaches

end

/-- When every step of one component is answered by a run of another that keeps the relation, every
run is. -/
theorem run_simulation {Other : Type u} {Move : Type v} {move : Other → Move → Option Other}
    (relation : State → Other → Prop)
    (answered : ∀ state other action next, relation state other → step state action = some next →
      ∃ moves reached, run move other moves = some reached ∧ relation next reached) {other : Other}
    (start : relation state other) (taken : run step state actions = some final) :
    ∃ moves reached, run move other moves = some reached ∧ relation final reached := by
  induction actions generalizing state other with
  | nil =>
    cases taken
    exact ⟨[], other, rfl, start⟩
  | cons action rest inductionHypothesis =>
    obtain ⟨next, first, later⟩ := run_cons_eq_some.mp taken
    obtain ⟨moves, middle, moved, related⟩ := answered state other action next start first
    obtain ⟨more, reached, movedOn, ends⟩ := inductionHypothesis related later
    exact ⟨moves ++ more, reached, run_append_eq_some.mpr ⟨middle, moved, movedOn⟩, ends⟩

/-! ### One entry among many -/

/-- After a step that sets one entry of a partial map, what is found under a key is the new
entry or was there before. -/
theorem update_eq_some {Key : Type u} {Entry : Type v} [DecidableEq Key]
    {entries : Key → Option Entry} {key other : Key} {entry found : Entry}
    (present : Function.update entries key (some entry) other = some found) :
    other = key ∧ found = entry ∨ other ≠ key ∧ entries other = some found := by
  by_cases same : other = key
  · grind
  · grind

/-- What holds of every entry and of the new one holds after the step. -/
theorem forall_update {Key : Type u} {Entry : Type v} [DecidableEq Key]
    {entries : Key → Option Entry} {key : Key} {entry : Entry} {Property : Key → Entry → Prop}
    (kept : ∀ other found, entries other = some found → Property other found)
    (new : Property key entry) :
    ∀ other found, Function.update entries key (some entry) other = some found →
      Property other found := by
  intro other found present
  rcases update_eq_some present with ⟨rfl, rfl⟩ | ⟨_, earlier⟩
  · exact new
  · exact kept other found earlier

end Transition
