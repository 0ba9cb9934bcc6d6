/-
This file is a small library about transactions on one connection. A program of
statements runs between BEGIN and COMMIT; a statement can be refused by the tables,
or fail for an outside reason, and so can BEGIN and COMMIT.

A COMMIT that fails leaves the transaction open, with its writes in it. A program
that then undoes the transaction leaves nothing behind; a program that only reports
the failure leaves the connection unable to begin again.
-/

import Mathlib

namespace Transaction

open List Option

universe u

variable {Tables : Type u}

/-! ### Connections -/

structure Connection (Tables : Type u) where
  tables : Tables
  saved : Option Tables := none
deriving DecidableEq, Repr

/-- A statement gives the tables after it, or is refused by a constraint. -/
abbrev Statement (Tables : Type u) := Tables → Option Tables

inductive Fault where
  | statement
  | transaction
deriving DecidableEq, Repr

structure Faults where
  start : Bool := false
  statement : Nat → Option Fault := fun _ => none
  commit : Bool := false

namespace Connection

variable (connection : Connection Tables)

def begin (faulted : Bool) : Option (Connection Tables) :=
  if faulted || connection.saved.isSome then none
  else some { connection with saved := some connection.tables }

def rollback : Connection Tables :=
  match connection.saved with
  | none => connection
  | some tables => { tables }

def execute (fault : Option Fault) (statement : Statement Tables) : Bool × Connection Tables :=
  match fault with
  | some .statement => (false, connection)
  | some .transaction => (false, connection.rollback)
  | none =>
    match statement connection.tables with
    | none => (false, connection)
    | some tables => (true, { connection with tables })

def executeAll (faults : Nat → Option Fault) :
    List (Statement Tables) → Connection Tables → Bool × Connection Tables
  | [], connection => (true, connection)
  | statement :: rest, connection =>
    match connection.execute (faults 0) statement with
    | (false, stopped) => (false, stopped)
    | (true, next) => executeAll (fun position => faults (position + 1)) rest next

def commit (faulted : Bool) : Bool × Connection Tables :=
  if faulted then (false, connection) else (true, { connection with saved := none })

/-- A program in a transaction of its own. A failed statement is always followed by ROLLBACK,
a failed COMMIT only with `undo`. -/
def atomically (undo : Bool) (program : List (Statement Tables)) (faults : Faults) :
    Bool × Connection Tables :=
  match connection.begin faults.start with
  | none => (false, connection)
  | some started =>
    match executeAll faults.statement program started with
    | (false, stopped) => (false, stopped.rollback)
    | (true, finished) =>
      match finished.commit faults.commit with
      | (true, closed) => (true, closed)
      | (false, stuck) => (false, if undo then stuck.rollback else stuck)

end Connection

/-! ### What a program does -/

def effect : List (Statement Tables) → Statement Tables
  | [], tables => some tables
  | statement :: rest, tables => (statement tables).bind (effect rest)

def Undisturbed (faults : Nat → Option Fault) (length : Nat) : Prop :=
  ∀ position < length, faults position = none

instance (faults : Nat → Option Fault) (length : Nat) : Decidable (Undisturbed faults length) :=
  inferInstanceAs (Decidable (∀ position < length, faults position = none))

variable {faults : Nat → Option Fault} {program : List (Statement Tables)}

theorem undisturbed_succ {length : Nat} :
    Undisturbed faults (length + 1) ↔
      faults 0 = none ∧ Undisturbed (fun position => faults (position + 1)) length :=
  Nat.forall_lt_succ_left

theorem effect_append (first second : List (Statement Tables)) (tables : Tables) :
    effect (first ++ second) tables = (effect first tables).bind (effect second) := by
  induction first generalizing tables with
  | nil => rfl
  | cons statement rest inductionHypothesis =>
    rw [cons_append, effect, effect, bind_assoc]
    congr 1
    funext next
    exact inductionHypothesis next

/-- A program whose statements all keep a relation to the tables before has it at the end. -/
theorem effect_relation (relation : Tables → Tables → Prop)
    (refl : ∀ tables, relation tables tables)
    (trans : ∀ {first second third}, relation first second → relation second third →
      relation first third)
    (kept : ∀ statement ∈ program, ∀ before after, statement before = some after →
      relation before after) {before after : Tables} (done : effect program before = some after) :
    relation before after := by
  induction program generalizing before with
  | nil =>
    obtain rfl : before = after := some.inj done
    exact refl before
  | cons statement rest inductionHypothesis =>
    obtain ⟨next, first, later⟩ := bind_eq_some_iff.mp done
    exact trans (kept statement mem_cons_self before next first)
      (inductionHypothesis (fun other member => kept other (mem_cons_of_mem _ member)) later)

namespace Connection

/-! ### Outcomes -/

theorem executeAll_of_undisturbed {tables after : Tables} {saved : Option Tables}
    (calm : Undisturbed faults program.length) (done : effect program tables = some after) :
    executeAll faults program ⟨tables, saved⟩ = (true, ⟨after, saved⟩) := by
  induction program generalizing faults tables with
  | nil =>
    obtain rfl : tables = after := some.inj done
    rfl
  | cons statement rest inductionHypothesis =>
    obtain ⟨first, others⟩ := undisturbed_succ.mp calm
    obtain ⟨next, written, later⟩ := bind_eq_some_iff.mp done
    simp only [executeAll, execute, first, written]
    exact inductionHypothesis others later

/-- A program that stops early can be undone completely. -/
theorem executeAll_of_stopped {tables : Tables} (saved : Tables)
    (stopped : ¬ (Undisturbed faults program.length ∧ (effect program tables).isSome)) :
    ∃ final, executeAll faults program ⟨tables, some saved⟩ = (false, final) ∧
      final.rollback = ⟨saved, none⟩ := by
  induction program generalizing faults tables with
  | nil => exact absurd ⟨fun position below => absurd below (Nat.not_lt_zero position), rfl⟩ stopped
  | cons statement rest inductionHypothesis =>
    simp only [executeAll, execute]
    cases failing : faults 0 with
    | some fault => cases fault <;> exact ⟨_, rfl, rfl⟩
    | none =>
      cases written : statement tables with
      | none => exact ⟨_, rfl, rfl⟩
      | some next =>
        refine inductionHypothesis fun both => stopped ⟨undisturbed_succ.mpr ⟨failing, both.1⟩, ?_⟩
        rw [effect, written]
        exact both.2

inductive Outcome (undo : Bool) (program : List (Statement Tables)) (faults : Faults)
    (connection : Connection Tables) : Bool × Connection Tables → Prop
  /-- BEGIN fails, for an outside reason or inside a transaction. -/
  | refused (notBegun : faults.start = true ∨ connection.saved ≠ none) :
    Outcome undo program faults connection (false, connection)
  /-- A statement fails. -/
  | stopped (idle : connection.saved = none)
    (early : ¬ (Undisturbed faults.statement program.length ∧
      (effect program connection.tables).isSome)) :
    Outcome undo program faults connection (false, connection)
  | committed {after : Tables} (idle : connection.saved = none) (begun : faults.start = false)
    (calm : Undisturbed faults.statement program.length)
    (done : effect program connection.tables = some after) (closed : faults.commit = false) :
    Outcome undo program faults connection (true, ⟨after, none⟩)
  /-- COMMIT fails and the program undoes the transaction. -/
  | undone (idle : connection.saved = none) (failed : faults.commit = true) (undoes : undo = true) :
    Outcome undo program faults connection (false, connection)
  /-- COMMIT fails and the program leaves it at that. -/
  | left {after : Tables} (idle : connection.saved = none) (begun : faults.start = false)
    (calm : Undisturbed faults.statement program.length)
    (done : effect program connection.tables = some after) (failed : faults.commit = true)
    (leaves : undo = false) :
    Outcome undo program faults connection (false, ⟨after, some connection.tables⟩)

theorem atomically_outcome (undo : Bool) (program : List (Statement Tables)) (faults : Faults)
    (connection : Connection Tables) :
    Outcome undo program faults connection (connection.atomically undo program faults) := by
  obtain ⟨tables, saved⟩ := connection
  cases saved with
  | some before =>
    have refused : (Connection.mk tables (some before)).begin faults.start = none := by
      simp [begin]
    simp only [atomically, refused]
    exact .refused (.inr (by simp))
  | none =>
    cases begun : faults.start with
    | true =>
      simp only [atomically, begun]
      exact .refused (.inl begun)
    | false =>
      simp only [atomically, begin, begun, isSome_none, Bool.or_self, Bool.false_eq_true,
        if_false]
      by_cases whole : Undisturbed faults.statement program.length ∧
          (effect program tables).isSome
      · obtain ⟨calm, finishes⟩ := whole
        obtain ⟨after, done⟩ := isSome_iff_exists.mp finishes
        simp only [executeAll_of_undisturbed calm done]
        cases closing : faults.commit with
        | false => exact .committed rfl begun calm done closing
        | true =>
          cases undo with
          | true => exact .undone rfl closing rfl
          | false => exact .left rfl begun calm done closing rfl
      obtain ⟨final, run, undone⟩ := executeAll_of_stopped tables whole
      simp only [run, undone]
      exact .stopped rfl whole

/-- A successful transaction has done its whole program. -/
theorem atomically_done {undo : Bool} {faults : Faults} {connection : Connection Tables}
    (succeeded : (connection.atomically undo program faults).1) :
    connection.saved = none ∧
      ∃ after, effect program connection.tables = some after ∧
        (connection.atomically undo program faults).2 = ⟨after, none⟩ := by
  have outcome := atomically_outcome undo program faults connection
  generalize connection.atomically undo program faults = result at outcome succeeded
  cases outcome with
  | refused _ | stopped _ _ | undone _ _ _ | left _ _ _ _ _ _ => cases succeeded
  | committed idle _ _ done _ => exact ⟨idle, _, done, rfl⟩

/-- A transaction that is undone whenever it fails leaves the connection alone then. -/
theorem atomically_failed {faults : Faults} {connection : Connection Tables}
    (failed : (connection.atomically true program faults).1 = false) :
    (connection.atomically true program faults).2 = connection := by
  have outcome := atomically_outcome true program faults connection
  generalize connection.atomically true program faults = result at outcome failed
  cases outcome with
  | refused _ | stopped _ _ | undone _ _ _ => rfl
  | committed _ _ _ _ _ => cases failed
  | left _ _ _ _ _ leaves => cases leaves

def Stranded (undo : Bool) (program : List (Statement Tables)) (faults : Faults)
    (tables : Tables) : Prop :=
  undo = false ∧ faults.start = false ∧ Undisturbed faults.statement program.length ∧
    (effect program tables).isSome ∧ faults.commit = true

/-- A transaction that reports a failure leaves the tables as they were and no transaction
open, exactly if none was open before and its COMMIT is not left failed. -/
theorem atomically_traceless_iff (undo : Bool) (program : List (Statement Tables))
    (faults : Faults) (connection : Connection Tables) :
    ((connection.atomically undo program faults).1 = false →
        (connection.atomically undo program faults).2 = ⟨connection.tables, none⟩) ↔
      connection.saved = none ∧ ¬ Stranded undo program faults connection.tables := by
  have outcome := atomically_outcome undo program faults connection
  generalize connection.atomically undo program faults = result at outcome
  obtain ⟨tables, saved⟩ := connection
  cases outcome with
  | refused notBegun =>
    refine ⟨fun clean => ?_, fun idle _ => by rw [show saved = none from idle.1]⟩
    have idle : saved = none := congrArg Connection.saved (clean rfl)
    refine ⟨idle, fun stranded => ?_⟩
    obtain started | opened := notBegun
    · exact absurd (started.symm.trans stranded.2.1) Bool.noConfusion
    · exact opened idle
  | stopped idle early =>
    refine ⟨fun _ => ⟨idle, fun stranded => early ⟨stranded.2.2.1, stranded.2.2.2.1⟩⟩,
      fun _ _ => ?_⟩
    rw [show saved = none from idle]
  | committed idle _ _ _ closed =>
    refine ⟨fun _ => ⟨idle, fun stranded => ?_⟩, fun _ failed => by cases failed⟩
    exact absurd (closed.symm.trans stranded.2.2.2.2) Bool.noConfusion
  | undone idle _ undoes =>
    refine ⟨fun _ => ⟨idle, fun stranded => ?_⟩, fun _ _ => ?_⟩
    · exact absurd (undoes.symm.trans stranded.1) Bool.noConfusion
    · rw [show saved = none from idle]
  | left idle begun calm done failed leaves =>
    refine ⟨fun clean => ?_, fun both => ?_⟩
    · exact absurd (congrArg Connection.saved (clean rfl)) (some_ne_none tables)
    · exact absurd ⟨leaves, begun, calm, by rw [done]; rfl, failed⟩ both.2

end Connection

end Transaction
