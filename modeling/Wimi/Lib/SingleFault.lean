/-
This file is a small library about a list of statements that is executed once, with
nothing else going on, while at most one of the statements fails. Each statement
commits on its own, so an execution that ends early leaves what was written before.
The rules say when an execution that reports an error has left everything as it was.
-/

import Wimi.Lib.Attempts

namespace Attempts

universe u w

variable {Database : Type u} {Error : Type w}

def nextFault : Option Nat → Option Nat
  | some (index + 1) => some index
  | _ => none

/-- The statements one after the other, the one at `fault` failing if it can; the error at the
end, and the database. -/
def runFaulty : List (Statement Database Error) → Option Nat → Database → Option Error × Database
  | [], _, database => (none, database)
  | statement :: rest, fault, database =>
    match if fault = some 0 then statement.fault else none with
    | some error => (some error, database)
    | none =>
      match statement.run database with
      | .error error => (some error, database)
      | .ok next => runFaulty rest (nextFault fault) next

def CleanFrom (same : Database → Database → Prop) (before : Database)
    (result : Option Error × Database) : Prop :=
  result.1 ≠ none → same before result.2

/-- A statement that writes, or is refused with an error that is also that of a failure. -/
def writing (error : Error) (write : Database → Option Database) : Statement Database Error where
  run database :=
    match write database with
    | none => .error error
    | some next => .ok next
  fault := some error

section Rules

variable {same : Database → Database → Prop} {error : Error} {write : Database → Option Database}
  {rest : List (Statement Database Error)} {fault : Option Nat} {before database : Database}

theorem runFaulty_writing :
    runFaulty (writing error write :: rest) fault database =
      match if fault = some 0 then none else write database with
      | none => (some error, database)
      | some next => runFaulty rest (nextFault fault) next := by
  rw [runFaulty]
  by_cases failing : fault = some 0
  · simp only [if_pos failing, writing]
  · simp only [if_neg failing, writing]
    cases write database <;> rfl

theorem runFaulty_writing_of_none (refused : fault = some 0 ∨ write database = none) :
    runFaulty (writing error write :: rest) fault database = (some error, database) := by
  rw [runFaulty_writing]
  rcases refused with failing | refused
  · rw [if_pos failing]
  · rw [refused, ite_self]

theorem runFaulty_writing_of_some (passing : fault ≠ some 0) {next : Database}
    (written : write database = some next) :
    runFaulty (writing error write :: rest) fault database =
      runFaulty rest (nextFault fault) next := by
  rw [runFaulty_writing, if_neg passing, written]

theorem runFaulty_writing_eq_ok {next : Database} :
    runFaulty (writing error write :: rest) fault database = (none, next) ↔
      fault ≠ some 0 ∧ ∃ middle, write database = some middle ∧
        runFaulty rest (nextFault fault) middle = (none, next) := by
  by_cases failing : fault = some 0
  · rw [runFaulty_writing_of_none (.inl failing)]
    exact iff_of_false (fun wrong => by cases wrong) fun passes => passes.1 failing
  cases written : write database with
  | none =>
    rw [runFaulty_writing_of_none (.inr written)]
    refine iff_of_false (fun wrong => by cases wrong) ?_
    rintro ⟨_, middle, wrong, _⟩
    cases wrong
  | some middle => grind [runFaulty_writing_of_some]

theorem fst_eq_none_iff {result : Option Error × Database} :
    result.1 = none ↔ ∃ next, result = (none, next) :=
  ⟨fun none => ⟨result.2, Prod.ext none rfl⟩, fun ⟨_, same⟩ => congrArg Prod.fst same⟩

theorem runFaulty_writing_eq_none :
    (runFaulty (writing error write :: rest) fault database).1 = none ↔
      fault ≠ some 0 ∧ ∃ middle, write database = some middle ∧
        (runFaulty rest (nextFault fault) middle).1 = none := by
  simp only [fst_eq_none_iff, runFaulty_writing_eq_ok]
  constructor
  · grind
  · grind

/-- The first write on its own leaves nothing behind when it does not succeed. -/
theorem cleanFrom_writing_iff (reflexive : same database database) :
    CleanFrom same database (runFaulty (writing error write :: rest) fault database) ↔
      (fault ≠ some 0 → ∀ next, write database = some next →
        CleanFrom same database (runFaulty rest (nextFault fault) next)) := by
  by_cases failing : fault = some 0
  · rw [runFaulty_writing_of_none (.inl failing)]
    exact iff_of_true (fun _ => reflexive) fun passing => absurd failing passing
  cases written : write database with
  | none =>
    rw [runFaulty_writing_of_none (.inr written)]
    refine iff_of_true (fun _ => reflexive) fun _ next wrong => ?_
    cases wrong
  | some next => grind [runFaulty_writing_of_some]

/-- What follows a write that shows is clean when it reports no error. -/
theorem cleanFrom_iff_of_ne {result : Option Error × Database} (shows : ¬ same before result.2) :
    CleanFrom same before result ↔ result.1 = none := by
  constructor
  · intro clean
    by_contra error
    exact shows (clean error)
  · exact fun done error => absurd done error

theorem cleanFrom_single_writing :
    CleanFrom same before (runFaulty [writing error write] fault database) ↔
      same before database ∨ fault ≠ some 0 ∧ (write database).isSome := by
  by_cases failing : fault = some 0
  · rw [runFaulty_writing_of_none (.inl failing)]
    constructor
    · exact fun clean => .inl (clean (Option.some_ne_none error))
    rintro (kept | ⟨passing, _⟩)
    · exact fun _ => kept
    · exact absurd failing passing
  cases written : write database with
  | none =>
    rw [runFaulty_writing_of_none (.inr written)]
    constructor
    · exact fun clean => .inl (clean (Option.some_ne_none error))
    rintro (kept | ⟨_, wrong⟩)
    · exact fun _ => kept
    · cases wrong
  | some next =>
    rw [runFaulty_writing_of_some failing written]
    exact iff_of_true (fun wrong => absurd rfl wrong) (.inr ⟨failing, rfl⟩)

theorem nextFault_eq_some_iff {index : Nat} :
    nextFault fault = some index ↔ fault = some (index + 1) := by
  cases fault with
  | none => exact iff_of_false (fun wrong => by cases wrong) fun wrong => by cases wrong
  | some number =>
    cases number with
    | zero => exact iff_of_false (fun wrong => by cases wrong) fun wrong => by cases wrong
    | succ number => rw [nextFault, Option.some_inj, Option.some_inj, Nat.add_right_cancel_iff]

/-- Two writes: an error is clean unless the first write shows and the second does not succeed
behind it. -/
theorem cleanFrom_two_writings {second : Database → Option Database}
    (reflexive : same database database) :
    CleanFrom same database
        (runFaulty [writing error write, writing error second] fault database) ↔
      (fault ≠ some 0 → ∀ next, write database = some next →
        same database next ∨ fault ≠ some 1 ∧ (second next).isSome) := by
  rw [cleanFrom_writing_iff reflexive]
  simp only [cleanFrom_single_writing, ne_eq, nextFault_eq_some_iff]

theorem runFaulty_append_of_none {first : List (Statement Database Error)} {next : Database}
    (rest : List (Statement Database Error))
    (ended : runFaulty first fault database = (none, next)) :
    ∃ later, runFaulty (first ++ rest) fault database = runFaulty rest later next := by
  induction first generalizing fault database with
  | nil =>
    cases ended
    exact ⟨fault, rfl⟩
  | cons statement others inductionHypothesis =>
    rw [runFaulty] at ended
    rw [List.cons_append, runFaulty]
    split at ended
    · cases ended
    · grind

/-- What no statement lowers, no execution lowers. -/
theorem le_runFaulty (measure : Database → Nat) {statements : List (Statement Database Error)}
    (grows : ∀ statement ∈ statements, ∀ database next, statement.run database = .ok next →
      measure database ≤ measure next) (fault : Option Nat) (database : Database) :
    measure database ≤ measure (runFaulty statements fault database).2 := by
  induction statements generalizing fault database with
  | nil => exact le_refl _
  | cons statement rest inductionHypothesis =>
    obtain ⟨first, others⟩ := List.forall_mem_cons.mp grows
    rw [runFaulty]
    split
    · exact le_refl _
    · grind

end Rules

end Attempts
