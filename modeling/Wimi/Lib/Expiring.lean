/-
This file is about a key-value store with a clock: an entry may have a time from
which on it is gone. Nothing removes an expired entry; a lookup passes over it.
-/

import Mathlib.Logic.Function.Basic
import Mathlib.Data.Option.Basic

namespace Expiring

open Function Option

universe u v

/-- A value, and the time from which on it is gone. -/
structure Entry (Value : Type v) where
  value : Value
  expiresAt : Option Nat
deriving DecidableEq, Repr

/-- The clock and the entries, expired ones among them. -/
structure Store (Key : Type u) (Value : Type v) where
  now : Nat := 0
  entries : Key → Option (Entry Value) := fun _ => none

variable {Key : Type u} {Value : Type v}

/-- The entry has not expired at this time. -/
def Entry.aliveAt (entry : Entry Value) (time : Nat) : Bool :=
  match entry.expiresAt with
  | none => true
  | some expiresAt => time < expiresAt

/-- What is alive later is alive earlier. -/
theorem Entry.aliveAt_of_le {entry : Entry Value} {earlier later : Nat} (order : earlier ≤ later)
    (alive : entry.aliveAt later = true) : entry.aliveAt earlier = true := by
  simp only [aliveAt] at alive ⊢
  split
  · rfl
  rename_i expiresAt ends
  rw [ends] at alive
  exact decide_eq_true (Nat.lt_of_le_of_lt order (of_decide_eq_true alive))

namespace Store

variable (store : Store Key Value)

/-- The entry of a key, unless it has expired. -/
def lookup (key : Key) : Option (Entry Value) :=
  (store.entries key).filter fun entry => entry.aliveAt store.now

/-- Time passes. -/
def elapse (duration : Nat) : Store Key Value :=
  { store with now := store.now + duration }

variable {store} in
/-- A lookup finds the entries that are alive. -/
theorem lookup_eq_some {key : Key} {entry : Entry Value} :
    store.lookup key = some entry ↔
      store.entries key = some entry ∧ entry.aliveAt store.now = true :=
  filter_eq_some_iff

variable [DecidableEq Key]

/-- Write an entry over what the key has. -/
def put (key : Key) (entry : Entry Value) : Store Key Value :=
  { store with entries := update store.entries key (some entry) }

/-- Remove what the key has. -/
def delete (key : Key) : Store Key Value :=
  { store with entries := update store.entries key none }

@[simp]
theorem now_put (key : Key) (entry : Entry Value) : (store.put key entry).now = store.now := rfl

@[simp]
theorem entries_put (key other : Key) (entry : Entry Value) :
    (store.put key entry).entries other =
      if other = key then some entry else store.entries other :=
  update_apply ..

/-- Of two writes to a key the second stays. -/
theorem put_put (key : Key) (first second : Entry Value) :
    (store.put key first).put key second = store.put key second := by
  simp only [put, update_idem]

@[simp]
theorem entries_delete (key other : Key) :
    (store.delete key).entries other = if other = key then none else store.entries other :=
  update_apply ..

end Store

end Expiring
