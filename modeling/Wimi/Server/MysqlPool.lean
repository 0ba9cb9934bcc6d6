/-
This file is about the connections of `MysqlPool`.

`GetConnectionUntil` lends the front of the queue, `ReturnConnection` puts a connection
back, and once a minute `keepConnectionHandle` takes every idle connection out, tests it
and puts it or a new one back. Each of them runs under the mutex from its first to its last
access, a wait for a connection apart, during which nothing is held.

The loop of `keepConnectionHandle` has one exit between taking a connection out and putting
one back: if the test and the reconnect both fail, the function returns, and the connection
is destroyed. No code makes up for it, so the pool loses one connection with every tick of
an outage.
-/

import Mathlib
import Wimi.Lib.Transition

namespace Wimi.Server

open List Option Transition

/-! ### The pool -/

structure SqlConnection where
  leaseTime : Int
deriving DecidableEq, Repr

structure KeepAnswer where
  query : Bool
  reconnect : Bool
deriving DecidableEq, Repr

structure MysqlPool where
  pool : List SqlConnection
  lent : List SqlConnection := []
deriving DecidableEq, Repr

/-- The loop of `keepConnectionHandle`; the number counts the connections that are left, and the
database answers in turn. -/
def keepLoop (leaseTime : Int) : Nat → (Nat → KeepAnswer) → List SqlConnection →
    List SqlConnection
  | 0, _, pool => pool
  | _ + 1, _, [] => []
  | left + 1, answer, con :: rest =>
    let later := fun index => answer (index + 1)
    if leaseTime - con.leaseTime < 5 then keepLoop leaseTime left later (rest ++ [con])
    else if (answer 0).query then keepLoop leaseTime left later (rest ++ [⟨leaseTime⟩])
    else if (answer 0).reconnect then keepLoop leaseTime left later (rest ++ [⟨leaseTime⟩])
    else rest

inductive PoolAction where
  | getConnectionUntil
  | returnConnection (index : Nat)
  | keepConnectionHandle (leaseTime : Int) (answer : Nat → KeepAnswer)

namespace MysqlPool

/-- A call that finds no connection until its deadline returns without one. -/
def getConnectionUntil (pool : MysqlPool) : MysqlPool :=
  match pool.pool with
  | [] => pool
  | con :: rest => { pool := rest, lent := pool.lent ++ [con] }

def step (pool : MysqlPool) : PoolAction → Option MysqlPool
  | .getConnectionUntil => some pool.getConnectionUntil
  | .returnConnection index =>
    pool.lent[index]?.map fun con =>
      { pool := pool.pool ++ [con], lent := pool.lent.eraseIdx index }
  | .keepConnectionHandle leaseTime answer =>
    some { pool with pool := keepLoop leaseTime pool.pool.length answer pool.pool }

/-- All the connections that the pool started with are idle or lent out. -/
def Conserved (size : Nat) (pool : MysqlPool) : Prop := pool.pool.length + pool.lent.length = size

/-- Every idle connection that is tested answers or is replaced. -/
def Answers (leaseTime : Int) (answer : Nat → KeepAnswer) (pool : List SqlConnection) : Prop :=
  ∀ index con, pool[index]? = some con → 5 ≤ leaseTime - con.leaseTime →
    (answer index).query ∨ (answer index).reconnect

def NoneLost (pool : MysqlPool) : PoolAction → Prop
  | .keepConnectionHandle leaseTime answer => Answers leaseTime answer pool.pool
  | _ => True

/-! ### One tick -/

theorem answers_cons {leaseTime : Int} {answer : Nat → KeepAnswer} {con : SqlConnection}
    {rest : List SqlConnection} :
    Answers leaseTime answer (con :: rest) ↔
      (5 ≤ leaseTime - con.leaseTime → (answer 0).query ∨ (answer 0).reconnect) ∧
        Answers leaseTime (fun index => answer (index + 1)) rest := by
  constructor
  · exact fun all => ⟨all 0 con rfl, fun index => all (index + 1)⟩
  rintro ⟨first, later⟩ (_ | index) other present
  · obtain rfl := some.inj present
    exact first
  · exact later index other present

theorem length_keepLoop (leaseTime : Int) (answer : Nat → KeepAnswer)
    (waiting done : List SqlConnection) :
    (Answers leaseTime answer waiting →
      (keepLoop leaseTime waiting.length answer (waiting ++ done)).length =
        waiting.length + done.length) ∧
      (¬ Answers leaseTime answer waiting →
        (keepLoop leaseTime waiting.length answer (waiting ++ done)).length + 1 =
          waiting.length + done.length) := by
  induction waiting generalizing answer done with
  | nil =>
    refine ⟨fun _ => (Nat.zero_add _).symm, fun lost => absurd ?_ lost⟩
    exact fun index con absent => by simp at absent
  | cons con rest inductionHypothesis =>
    have next (back : SqlConnection) :=
      inductionHypothesis (fun index => answer (index + 1)) (done ++ [back])
    simp only [length_cons, cons_append, append_assoc, keepLoop, answers_cons]
    split_ifs with young query reconnect <;> grind

theorem conserved_step (size : Nat) (pool : MysqlPool) (action : PoolAction) (next : MysqlPool)
    (conserved : Conserved size pool) (taken : step pool action = some next) :
    Conserved size next ↔ NoneLost pool action := by
  cases action with
  | getConnectionUntil =>
    cases taken
    refine iff_of_true ?_ trivial
    obtain ⟨_ | ⟨con, rest⟩, lent⟩ := pool
    · exact conserved
    simp only [Conserved, getConnectionUntil, length_append, length_cons,
      length_nil] at conserved ⊢
    omega
  | returnConnection index =>
    obtain ⟨con, present, rfl⟩ := map_eq_some_iff.mp taken
    refine iff_of_true ?_ trivial
    obtain ⟨bound, _⟩ := List.getElem?_eq_some_iff.mp present
    simp only [Conserved, length_append, length_singleton,
      length_eraseIdx_of_lt bound] at conserved ⊢
    omega
  | keepConnectionHandle leaseTime answer =>
    cases taken
    obtain ⟨kept, lost⟩ := length_keepLoop leaseTime answer pool.pool []
    rw [append_nil, length_nil, Nat.add_zero] at kept lost
    simp only [Conserved] at conserved ⊢
    constructor
    · intro after
      by_contra loses
      have := lost loses
      omega
    · intro answers
      rw [kept answers, conserved]

/-! ### Runs -/

/-- In a run from a pool of idle connections, all of them are idle or lent out in every state,
exactly if no tick loses one. -/
theorem connections_conserved_iff (connections : List SqlConnection) {actions : List PoolAction}
    {final : MysqlPool}
    (taken : run step { pool := connections } actions = some final) :
    (∀ early late reached, actions = early ++ late →
      run step { pool := connections } early = some reached →
        Conserved connections.length reached) ↔
      Along step NoneLost { pool := connections } actions :=
  always_iff_along (fun _ => True) (Conserved connections.length) NoneLost
    (fun _ _ _ _ _ => trivial)
    (fun pool action next _ => conserved_step connections.length pool action next) trivial rfl
    taken

def shortOutage : List PoolAction :=
  [.getConnectionUntil, .keepConnectionHandle 60 fun _ => ⟨false, true⟩, .returnConnection 0]

theorem connections_conserved_iff_reconnected :
    run step { pool := [⟨0⟩, ⟨0⟩] } shortOutage = some { pool := [⟨60⟩, ⟨0⟩] } ∧
      Conserved 2 { pool := [⟨60⟩, ⟨0⟩] } := by
  have taken : run step { pool := [⟨0⟩, ⟨0⟩] } shortOutage =
      some { pool := [⟨60⟩, ⟨0⟩] } := rfl
  refine ⟨taken, (connections_conserved_iff _ taken).mpr ?_ shortOutage [] _ rfl taken⟩
  refine along_cons trivial rfl ?_
  refine along_cons (fun _ _ _ _ => .inr rfl) rfl ?_
  exact along_cons trivial rfl trivial

/-- Two ticks in an outage: neither the test nor the reconnect succeeds. The pool is empty, and
stays so when the database is back. -/
theorem outage_empties_pool :
    run step { pool := [⟨0⟩, ⟨0⟩] }
        [.keepConnectionHandle 60 fun _ => ⟨false, false⟩,
          .keepConnectionHandle 120 fun _ => ⟨false, false⟩,
          .keepConnectionHandle 180 fun _ => ⟨true, true⟩, .getConnectionUntil] =
      some { pool := [] } ∧ ¬ Conserved 2 { pool := [] } :=
  ⟨rfl, by simp [Conserved]⟩

end MysqlPool

end Wimi.Server
