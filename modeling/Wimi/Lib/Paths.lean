/-
This file is a small library about POSIX paths: joining two of them, their components, and
the file they lead to when `.` and `..` are resolved from left to right.

A run of components takes away some directories at the end of the one it starts from and
puts names behind what is left. `climb` is that effect, so what the components do is known
without the directory they start from.
-/

import Mathlib.Data.List.Basic

namespace Paths

open List

abbrev Part := List Char

def isAbsolute (path : List Char) : Bool := path.head? = some '/'

/-- `operator/` of `std::filesystem::path`: an absolute right operand replaces the left one. -/
def join (left right : List Char) : List Char :=
  if isAbsolute right then right
  else if left = [] ∨ left.getLast? = some '/' then left ++ right
  else left ++ '/' :: right

def pieces : List Char → List Part
  | [] => [[]]
  | letter :: rest =>
    if letter = '/' then [] :: pieces rest
    else
      match pieces rest with
      | [] => [[letter]]
      | first :: others => (letter :: first) :: others

def parts (path : List Char) : List Part :=
  (pieces path).filter fun part => part ≠ [] ∧ part ≠ ['.']

def up : Part := ['.', '.']

def enter (directory : List Part) (part : Part) : List Part :=
  if part = up then directory.dropLast else directory ++ [part]

def resolve (workingDirectory : List Part) (path : List Char) : List Part :=
  (parts path).foldl enter (if isAbsolute path then [] else workingDirectory)

/-! ### Components -/

theorem pieces_ne_nil (path : List Char) : pieces path ≠ [] := by
  cases path with
  | nil => exact cons_ne_nil _ _
  | cons letter rest =>
    rw [pieces]
    split_ifs
    · exact cons_ne_nil _ _
    · split <;> exact cons_ne_nil _ _

theorem parts_append (left right : List Char) :
    parts (left ++ '/' :: right) = parts left ++ parts right := by
  have pieces_append : pieces (left ++ '/' :: right) = pieces left ++ pieces right := by
    induction left with
    | nil => rfl
    | cons letter rest inductionHypothesis =>
      rw [cons_append, pieces, pieces, inductionHypothesis]
      split_ifs
      · rfl
      · grind [pieces_ne_nil]
  rw [parts, pieces_append, filter_append]
  rfl

theorem parts_singleton {name : Part} (noSlash : '/' ∉ name) (named : name ≠ [] ∧ name ≠ ['.']) :
    parts name = [name] := by
  have whole : pieces name = [name] := by
    clear named
    induction name with
    | nil => rfl
    | cons letter rest inductionHypothesis =>
      obtain ⟨other, later⟩ := not_or.mp (mt mem_cons.mpr noSlash)
      rw [pieces, if_neg (Ne.symm other), inductionHypothesis later]
  rw [parts, whole, filter_singleton, decide_eq_true named, cond_true]

/-! ### What components do to a directory -/

def climb (start : Nat × List Part) (parts : List Part) : Nat × List Part :=
  parts.foldl (fun state part =>
    if part = up then if state.2 = [] then (state.1 + 1, []) else (state.1, state.2.dropLast)
    else (state.1, state.2 ++ [part])) start

theorem foldl_enter (directory : List Part) (parts : List Part) (start : Nat × List Part) :
    parts.foldl enter (directory.take (directory.length - start.1) ++ start.2) =
      directory.take (directory.length - (climb start parts).1) ++ (climb start parts).2 := by
  induction parts generalizing start with
  | nil => rfl
  | cons part rest inductionHypothesis =>
    rw [climb, foldl_cons, foldl_cons, ← climb, ← inductionHypothesis]
    congr 1
    rw [enter]
    split_ifs with isUp empty
    · rw [empty, append_nil, append_nil, dropLast_eq_take, take_take,
        length_take]
      congr 1
      omega
    · exact dropLast_append_of_ne_nil empty
    · exact append_assoc _ _ _

theorem foldl_enter_nil (parts : List Part) : parts.foldl enter [] = (climb (0, []) parts).2 := by
  simpa using foldl_enter [] parts (0, [])

/-- Components stay in a directory exactly if they put back what they took away of it. -/
theorem isPrefix_foldl_enter_iff (directory : List Part) (parts : List Part) :
    directory <+: parts.foldl enter directory ↔
      directory.drop (directory.length - (climb (0, []) parts).1) <+: (climb (0, []) parts).2 := by
  have effect := foldl_enter directory parts (0, [])
  rw [Nat.sub_zero, take_length, append_nil] at effect
  conv_lhs =>
    lhs
    rw [← take_append_drop (directory.length - (climb (0, []) parts).1) directory]
  rw [effect, prefix_append_right_inj]

def Slashless (path : List Char) : Prop := path ≠ [] ∧ path.getLast? ≠ some '/'

theorem join_of_slashless {left : List Char} (slashless : Slashless left) (right : List Char) :
    join left right = if isAbsolute right then right else left ++ '/' :: right := by
  rw [join, if_neg (not_or.mpr slashless)]

theorem resolve_join (workingDirectory : List Part) {left : List Char}
    (slashless : Slashless left) (right : List Char) :
    resolve workingDirectory (join left right) =
      if isAbsolute right then (parts right).foldl enter []
      else (parts right).foldl enter (resolve workingDirectory left) := by
  rw [join_of_slashless slashless]
  split_ifs with absolute
  · rw [resolve, if_pos absolute]
  have start : isAbsolute (left ++ '/' :: right) = isAbsolute left := by
    rw [isAbsolute, isAbsolute, head?_append_of_ne_nil _ slashless.1]
  rw [resolve, resolve, parts_append, foldl_append, start]

end Paths
