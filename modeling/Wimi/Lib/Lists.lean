/-
This file has the facts about lists that the models of tables and queues use: a
table whose first matching row is replaced, a table with a key and how its rows
grow when the row under a key is updated, the order in which two elements of a log
occur, a family of queues of which one loses its head, the row with the highest score,
and the start of a sorted table that is cut at a count, with the key it ends at.
-/

import Mathlib.Data.List.Basic
import Mathlib.Data.List.Induction
import Mathlib.Data.List.MinMax
import Mathlib.Data.List.Nodup
import Mathlib.Data.List.Perm.Basic

namespace Lists

open List Option

universe u v

variable {Row : Type u}

/-! ### Replacing the first match -/

variable {row : Row} {others : List Row}

section Replace

variable {replace : Row → Option Row}

theorem countP_replaceF {counted : Row → Bool}
    (same : ∀ row after, replace row = some after → counted after = counted row)
    (rows : List Row) :
    (rows.replaceF replace).countP counted = rows.countP counted := by
  induction rows with
  | nil => rfl
  | cons row rest inductionHypothesis =>
    cases replaced : replace row with
    | none =>
      rw [replaceF_cons_of_none _ replaced, countP_cons, countP_cons,
        inductionHypothesis]
    | some after =>
      rw [replaceF_cons_of_some _ replaced, countP_cons, countP_cons,
        same row after replaced]

theorem filterMap_replaceF {Image : Type v} {image : Row → Option Image}
    (same : ∀ row after, replace row = some after → image after = image row) (rows : List Row) :
    (rows.replaceF replace).filterMap image = rows.filterMap image := by
  induction rows with
  | nil => rfl
  | cons row rest inductionHypothesis =>
    cases replaced : replace row with
    | none =>
      rw [replaceF_cons_of_none _ replaced, filterMap_cons, filterMap_cons,
        inductionHypothesis]
    | some after =>
      rw [replaceF_cons_of_some _ replaced, filterMap_cons, filterMap_cons,
        same row after replaced]

theorem forall_mem_replaceF {property : Row → Prop} {rows : List Row}
    (all : ∀ row ∈ rows, property row)
    (kept : ∀ row ∈ rows, ∀ after, replace row = some after → property after) :
    ∀ row ∈ rows.replaceF replace, property row := by
  induction rows with
  | nil => exact all
  | cons row rest inductionHypothesis =>
    obtain ⟨first, later⟩ := forall_mem_cons.mp all
    obtain ⟨keptFirst, keptLater⟩ := forall_mem_cons.mp kept
    cases replaced : replace row with
    | none =>
      rw [replaceF_cons_of_none _ replaced]
      exact forall_mem_cons.mpr ⟨first, inductionHypothesis later keptLater⟩
    | some after =>
      rw [replaceF_cons_of_some _ replaced]
      exact forall_mem_cons.mpr ⟨keptFirst after replaced, later⟩

theorem exists_mem_replaceF {rows : List Row} {after : Row} (member : row ∈ rows)
    (replaced : replace row = some after) :
    ∃ first final, replace first = some final ∧ final ∈ rows.replaceF replace := by
  obtain ⟨first, final, before, rest, _, replacedFirst, _, equal⟩ :=
    exists_of_replaceF member replaced
  refine ⟨first, final, replacedFirst, ?_⟩
  rw [equal]
  exact mem_append_right _ mem_cons_self

end Replace

/-! ### Updating the row under a key -/

/-- Change the first row that is selected: the one under a key. -/
def updateFirst (selected : Row → Bool) (change : Row → Row) (rows : List Row) : List Row :=
  rows.replaceF fun row => if selected row then some (change row) else none

/-- Every row of the first table has become, at its place in the second, a row related to it. -/
def Grown (relation : Row → Row → Prop) (before after : List Row) : Prop :=
  ∀ (place : Nat) row, before[place]? = some row → ∃ later, after[place]? = some later ∧
    relation row later

section Update

variable {selected : Row → Bool} {change : Row → Row} {relation : Row → Row → Prop}

theorem updateFirst_cons_of_pos (holds : selected row = true) (rest : List Row) :
    updateFirst selected change (row :: rest) = change row :: rest :=
  replaceF_cons_of_some _ (if_pos holds)

theorem updateFirst_cons_of_neg (fails : ¬ selected row = true) (rest : List Row) :
    updateFirst selected change (row :: rest) = row :: updateFirst selected change rest :=
  replaceF_cons_of_none _ (if_neg fails)

theorem map_updateFirst {Image : Type v} {image : Row → Image}
    (same : ∀ row, image (change row) = image row) (rows : List Row) :
    (updateFirst selected change rows).map image = rows.map image := by
  induction rows with
  | nil => rfl
  | cons row rest inductionHypothesis =>
    by_cases holds : selected row = true
    · rw [updateFirst_cons_of_pos holds, map_cons, map_cons, same]
    · rw [updateFirst_cons_of_neg holds, map_cons, map_cons, inductionHypothesis]

variable {rows : List Row}

theorem exists_updateFirst (found : rows.find? selected = some row) :
    ∃ before behind, rows = before ++ row :: behind ∧
      updateFirst selected change rows = before ++ change row :: behind := by
  induction rows with
  | nil => cases found
  | cons head rest inductionHypothesis =>
    by_cases holds : selected head = true
    · rw [find?_cons_of_pos holds, some.injEq] at found
      subst found
      exact ⟨[], rest, rfl, updateFirst_cons_of_pos holds rest⟩
    rw [find?_cons_of_neg holds] at found
    obtain ⟨before, behind, rfl, changes⟩ := inductionHypothesis found
    refine ⟨head :: before, behind, rfl, ?_⟩
    rw [updateFirst_cons_of_neg holds, changes, cons_append]

/-- Two changes come to the same if they find the same row and agree on it. -/
theorem updateFirst_congr {other : Row → Bool} {again : Row → Row}
    (found : rows.find? selected = some row) (finds : other row = true)
    (narrower : ∀ row, other row = true → selected row = true) (same : again row = change row) :
    updateFirst other again rows = updateFirst selected change rows := by
  induction rows with
  | nil => rfl
  | cons head rest inductionHypothesis =>
    by_cases holds : selected head = true
    · rw [find?_cons_of_pos holds, some.injEq] at found
      subst found
      rw [updateFirst_cons_of_pos holds, updateFirst_cons_of_pos finds, same]
    · grind [updateFirst_cons_of_neg]

theorem updateFirst_eq_modify {Key : Type v} [DecidableEq Key] {key : Row → Key}
    (distinct : (rows.map key).Nodup) {place : Nat} (stands : rows[place]? = some row) :
    updateFirst (fun other => key other = key row) change rows = rows.modify place change := by
  induction rows generalizing place with
  | nil => cases stands
  | cons head rest inductionHypothesis =>
    grind [nodup_cons, updateFirst_cons_of_pos, decide_eq_true, updateFirst_cons_of_neg]

theorem find?_updateFirst (kept : ∀ row, selected row = true → selected (change row) = true)
    (rows : List Row) :
    (updateFirst selected change rows).find? selected = (rows.find? selected).map change := by
  induction rows with
  | nil => rfl
  | cons row rest inductionHypothesis =>
    by_cases holds : selected row = true
    · grind [updateFirst_cons_of_pos]
    · rw [updateFirst_cons_of_neg holds, find?_cons_of_neg holds,
        find?_cons_of_neg holds, inductionHypothesis]

/-- A second change that finds nothing left to do. -/
theorem updateFirst_updateFirst {again : Row → Row}
    (kept : ∀ row, selected row = true → selected (change row) = true)
    (same : ∀ row, again (change row) = change row) (rows : List Row) :
    updateFirst selected again (updateFirst selected change rows) =
      updateFirst selected change rows := by
  induction rows with
  | nil => rfl
  | cons row rest inductionHypothesis =>
    by_cases holds : selected row = true
    · rw [updateFirst_cons_of_pos holds, updateFirst_cons_of_pos (kept row holds), same]
    · rw [updateFirst_cons_of_neg holds, updateFirst_cons_of_neg holds, inductionHypothesis]

theorem grown_append (refl : ∀ row, relation row row) (rows new : List Row) :
    Grown relation rows (rows ++ new) := by
  intro place row found
  exact ⟨row, List.getElem?_append_left (List.getElem?_eq_some_iff.mp found).1 ▸ found, refl row⟩

theorem grown_refl (refl : ∀ row, relation row row) (rows : List Row) :
    Grown relation rows rows :=
  fun _ row found => ⟨row, found, refl row⟩

theorem Grown.trans {first second third : List Row}
    (compose : ∀ row middle later, relation row middle → relation middle later → relation row later)
    (early : Grown relation first second) (late : Grown relation second third) :
    Grown relation first third := by
  intro place row found
  obtain ⟨middle, foundMiddle, toMiddle⟩ := early place row found
  obtain ⟨later, foundLater, toLater⟩ := late place middle foundMiddle
  exact ⟨later, foundLater, compose row middle later toMiddle toLater⟩

theorem Grown.imp {weaker : Row → Row → Prop} {before after : List Row}
    (weaken : ∀ row ∈ before, ∀ later, relation row later → weaker row later)
    (grown : Grown relation before after) : Grown weaker before after := by
  intro place row found
  obtain ⟨later, foundLater, related⟩ := grown place row found
  exact ⟨later, foundLater, weaken row (mem_of_getElem? found) later related⟩

theorem grown_updateFirst (refl : ∀ row, relation row row)
    (changed : ∀ row, rows.find? selected = some row → relation row (change row)) :
    Grown relation rows (updateFirst selected change rows) := by
  induction rows with
  | nil => exact nofun
  | cons head rest inductionHypothesis =>
    intro place row found
    by_cases holds : selected head = true
    · grind [updateFirst_cons_of_pos]
    rw [updateFirst_cons_of_neg holds]
    cases place with
    | zero =>
      cases found
      exact ⟨head, rfl, refl head⟩
    | succ place =>
      refine inductionHypothesis (fun later isFound => changed later ?_) place row found
      rw [find?_cons_of_neg holds]
      exact isFound

theorem forall_mem_updateFirst {property : Row → Prop} (all : ∀ row ∈ rows, property row)
    (changed : ∀ row, rows.find? selected = some row → property (change row)) :
    ∀ row ∈ updateFirst selected change rows, property row := by
  induction rows with
  | nil => exact all
  | cons head rest inductionHypothesis =>
    obtain ⟨first, later⟩ := forall_mem_cons.mp all
    by_cases holds : selected head = true
    · rw [updateFirst_cons_of_pos holds]
      exact forall_mem_cons.mpr ⟨changed head (find?_cons_of_pos holds), later⟩
    rw [updateFirst_cons_of_neg holds]
    refine forall_mem_cons.mpr ⟨first, inductionHypothesis later fun row isFound => ?_⟩
    refine changed row ?_
    rw [find?_cons_of_neg holds]
    exact isFound

end Update

/-! ### Keys -/

/-- In a table with a key, a row is found under its key. -/
theorem find?_key {Key : Type v} [DecidableEq Key] {key : Row → Key} {rows : List Row}
    (keyed : (rows.map key).Nodup) (member : row ∈ rows) :
    (rows.find? fun other => key other = key row) = some row := by
  induction rows with
  | nil => cases member
  | cons first rest inductionHypothesis => grind

/-! ### Order of occurrence -/

theorem pair_sublist_concat {rows : List Row} {first second last : Row} :
    [first, second].Sublist (rows ++ [last]) ↔
      [first, second].Sublist rows ∨ first ∈ rows ∧ second = last := by
  constructor
  · intro occurs
    obtain ⟨early, late, equal, earlySublist, lateSublist⟩ := sublist_append_iff.mp occurs
    rcases sublist_singleton.mp lateSublist with rfl | rfl
    · grind
    obtain ⟨isEarly, isLast⟩ := append_inj' (show [first] ++ [second] = early ++ [last] from
      equal) rfl
    exact .inr ⟨singleton_sublist.mp (isEarly ▸ earlySublist), cons.inj isLast |>.1⟩
  · grind

/-! ### Queues -/

theorem flatten_set_perm {queues : List (List Row)} {index : Nat} {first : Row} {rest : List Row}
    (running : queues[index]? = some (first :: rest)) :
    queues.flatten.Perm (first :: (queues.set index rest).flatten) := by
  induction queues generalizing index with
  | nil => cases running
  | cons queue others inductionHypothesis =>
    cases index with
    | zero =>
      cases running
      exact List.Perm.refl _
    | succ index =>
      exact ((inductionHypothesis running).append_left queue).trans perm_middle

/-! ### Rows by position -/

theorem getElem?_concat_eq_some {rows : List Row} {last : Row} {index : Nat}
    (found : (rows ++ [last])[index]? = some row) :
    rows[index]? = some row ∨ index = rows.length ∧ row = last := by
  rw [List.getElem?_append] at found
  split_ifs at found with early
  · exact .inl found
  · grind

/-- When one row is set, a count changes by what it says of the old and of the new row. -/
theorem countP_set_add {rows : List Row} {index : Nat} (found : rows[index]? = some row) (new : Row)
    (counted : Row → Bool) :
    (rows.set index new).countP counted + (if counted row then 1 else 0) =
      rows.countP counted + (if counted new then 1 else 0) := by
  obtain ⟨bound, rfl⟩ := List.getElem?_eq_some_iff.mp found
  rw [countP_set bound]
  split_ifs with before after
  all_goals first
    | omega
    | have positive : 0 < rows.countP counted :=
        countP_pos_iff.mpr ⟨rows[index], getElem_mem bound, before⟩
      omega

/-! ### The row with the highest score -/

section Best

variable {score : Row → Nat} {rows : List Row}

theorem argmax_eq_some_of_lt {best : Row} (member : best ∈ rows)
    (better : ∀ row ∈ rows, row ≠ best → score row < score best) :
    rows.argmax score = some best := by
  cases found : rows.argmax score with
  | none =>
    rw [argmax_eq_none.mp found] at member
    cases member
  | some other =>
    by_contra different
    have less := better other (argmax_mem found) fun same => different (congrArg some same)
    exact absurd (le_of_mem_argmax member found) (Nat.not_le.mpr less)

section

variable (distinct : (rows.map score).Nodup)
include distinct

theorem lt_of_argmax {best : Row} (found : rows.argmax score = some best) :
    ∀ row ∈ rows, row ≠ best → score row < score best := by
  intro row member different
  refine Nat.lt_of_le_of_ne (le_of_mem_argmax member found) ?_
  exact fun same =>
    different (inj_on_of_nodup_map distinct member (argmax_mem found) same)

theorem argmax_perm (same : others.Perm rows) : others.argmax score = rows.argmax score := by
  cases found : rows.argmax score with
  | none =>
    rw [argmax_eq_none.mp found] at same
    rw [perm_nil.mp same, argmax_nil]
  | some best => grind [argmax_eq_some_of_lt, argmax_mem, lt_of_argmax]

theorem argmax_of_perm_cons {removed : Row} (without : rows.Perm (removed :: others))
    (other : rows.argmax score ≠ some removed) : others.argmax score = rows.argmax score := by
  cases found : rows.argmax score with
  | none =>
    rw [argmax_eq_none.mp found] at without
    cases nil_perm.mp without
  | some best => grind [argmax_mem, argmax_eq_some_of_lt, lt_of_argmax, mem_cons_of_mem]

/-- A new row is the best, or the best stays. -/
theorem argmax_of_cons_perm {added : Row} (extended : others.Perm (added :: rows)) :
    others.argmax score = rows.argmax score ∨ others.argmax score = some added := by
  cases found : others.argmax score with
  | none =>
    rw [argmax_eq_none.mp found] at extended
    cases nil_perm.mp extended
  | some best =>
    rcases mem_cons.mp (extended.mem_iff.mp (argmax_mem found)) with rfl | old
    · exact .inr rfl
    refine .inl (Eq.symm ?_)
    refine argmax_eq_some_of_lt old fun row member different => ?_
    refine Nat.lt_of_le_of_ne ?_ ?_
    · exact le_of_mem_argmax (extended.mem_iff.mpr (mem_cons_of_mem _ member)) found
    · exact fun same => different (inj_on_of_nodup_map distinct member old same)

end

end Best

/-! ### The start of a sorted table -/

theorem mem_take_of_le {key : Row → Nat} {rows : List Row}
    (sorted : rows.Pairwise fun first second => key first ≤ key second)
    (unique : ∀ first ∈ rows, ∀ second ∈ rows, key first = key second → first = second)
    {count : Nat} {last : Row} (isLast : last ∈ rows.take count) (member : row ∈ rows)
    (upTo : key row ≤ key last) : row ∈ rows.take count := by
  rw [← take_append_drop count rows] at member sorted
  refine (mem_append.mp member).elim id fun later => ?_
  have atLeast : key last ≤ key row := (pairwise_append.mp sorted).2.2 last isLast row later
  have same : row = last :=
    unique row (mem_of_mem_drop later) last (mem_of_mem_take isLast)
      (Nat.le_antisymm upTo atLeast)
  exact same ▸ isLast

section Cut

variable {key : Row → Nat} {rows : List Row} {count start : Nat}

def lastKey (key : Row → Nat) (start : Nat) (rows : List Row) : Nat :=
  (rows.getLast?.map key).getD start

theorem lastKey_eq_or (key : Row → Nat) (start : Nat) (rows : List Row) :
    lastKey key start rows = start ∨ ∃ row ∈ rows, key row = lastKey key start rows := by
  unfold lastKey
  cases ends : rows.getLast? with
  | none => exact .inl rfl
  | some last => exact .inr ⟨last, mem_of_getLast? ends, rfl⟩

section

variable (sorted : rows.Pairwise fun first second => key first < key second)
include sorted

theorem le_lastKey (member : row ∈ rows) : key row ≤ lastKey key start rows := by
  induction rows using reverseRecOn with
  | nil => cases member
  | append_singleton before last _ =>
    grind [lastKey, getLast?_concat, Nat.le_of_lt, mem_singleton_self]

theorem lastKey_take_lt (positive : 0 < count) (later : row ∈ rows.drop count) :
    lastKey key start (rows.take count) < key row := by
  have nonempty : rows.take count ≠ [] := by
    intro empty
    rcases take_eq_nil_iff.mp empty with zero | none
    · exact Nat.ne_of_gt positive zero
    · rw [none, drop_nil] at later
      cases later
  rw [← take_append_drop count rows] at sorted
  rw [lastKey, getLast?_eq_getLast_of_ne_nil nonempty]
  exact (pairwise_append.mp sorted).2.2 _ (getLast_mem nonempty) row later

theorem mem_take_iff (positive : 0 < count) :
    row ∈ rows.take count ↔ row ∈ rows ∧ key row ≤ lastKey key start (rows.take count) := by
  constructor
  · grind [mem_of_mem_take, le_lastKey, take_sublist]
  rintro ⟨member, upTo⟩
  rw [← take_append_drop count rows] at member
  refine (mem_append.mp member).elim id fun later => ?_
  exact absurd upTo (Nat.not_le_of_lt (lastKey_take_lt sorted positive later))

theorem lt_lastKey_take (positive : 0 < count) (nonempty : rows ≠ [])
    (above : ∀ row ∈ rows, start < key row) : start < lastKey key start (rows.take count) := by
  obtain ⟨first, isFirst⟩ : ∃ first, first ∈ rows.take count :=
    exists_mem_of_ne_nil _ fun empty => nonempty
      ((take_eq_nil_iff.mp empty).resolve_left (Nat.ne_of_gt positive))
  exact Nat.lt_of_lt_of_le (above first (mem_of_mem_take isFirst))
    (le_lastKey (sorted.sublist (take_sublist count rows)) isFirst)

theorem lt_length_iff (positive : 0 < count) :
    count < rows.length ↔ ∃ row ∈ rows, lastKey key start (rows.take count) < key row := by
  constructor
  · intro longer
    have later : rows[count] ∈ rows.drop count := by
      rw [drop_eq_getElem_cons longer]
      exact mem_cons_self
    exact ⟨rows[count], getElem_mem longer, lastKey_take_lt sorted positive later⟩
  · grind [Nat.lt_of_not_le, take_of_length_le, Nat.not_le_of_lt, le_lastKey]

end

end Cut

/-! ### Updating the rows that match -/

/-- An update of some rows changes nothing when it changes none of them. -/
theorem map_ite_eq_self_iff {selected : Row → Prop} [DecidablePred selected] {update : Row → Row}
    {rows : List Row} :
    (rows.map fun row => if selected row then update row else row) = rows ↔
      ∀ row ∈ rows, selected row → update row = row := by
  have rowwise := map_inj_left (l := rows)
    (f := fun row => if selected row then update row else row) (g := id)
  rw [List.map_id] at rowwise
  refine rowwise.trans (forall₂_congr fun row _ => ?_)
  by_cases chosen : selected row
  · simp
  · simp

end Lists
