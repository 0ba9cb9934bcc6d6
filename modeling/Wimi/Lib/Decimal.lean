/-
This file is a small library about integers written in decimals: reading a text of
digits with an optional sign, that reading undoes writing, and that a number is not
read back from a text that has lost its first digit.
-/

import Mathlib

namespace Decimal

open List Option

def parseNat (digits : List Char) : Option Nat :=
  if digits ≠ [] ∧ digits.all Char.isDigit then some (Nat.ofDigitChars 10 digits 0) else none

def parseInt : List Char → Option Int
  | [] => none
  | first :: rest =>
    if first = '-' then (parseNat rest).map fun value : Nat => -(value : Int)
    else (parseNat (first :: rest)).map fun value : Nat => (value : Int)

theorem parseNat_toDigits (number : Nat) : parseNat (Nat.toDigits 10 number) = some number := by
  have digits : (Nat.toDigits 10 number).all Char.isDigit := all_eq_true.mpr fun digit member =>
    Nat.isDigit_of_mem_toDigits (by decide) (by decide) member
  rw [parseNat, if_pos ⟨Nat.toDigits_ne_nil, digits⟩, Nat.ofDigitChars_ten_toDigits]

theorem parseInt_toDigits (number : Nat) :
    parseInt (Nat.toDigits 10 number) = some (number : Int) := by
  have parsed := parseNat_toDigits number
  cases text : Nat.toDigits 10 number with
  | nil => exact absurd text Nat.toDigits_ne_nil
  | cons first rest =>
    have digit : first.isDigit := Nat.isDigit_of_mem_toDigits (by decide) (by decide)
      (text ▸ mem_cons_self : first ∈ Nat.toDigits 10 number)
    have unsigned : first ≠ '-' := by
      rintro rfl
      exact absurd digit (by decide)
    rw [text] at parsed
    rw [parseInt, if_neg unsigned, parsed, map_some]

theorem parseInt_toString (number : Int) : parseInt (toString number).toList = some number := by
  cases number with
  | ofNat number =>
    change parseInt (Nat.repr number).toList = _
    rw [Nat.toList_repr]
    exact parseInt_toDigits number
  | negSucc number =>
    change parseInt ("-" ++ Nat.repr (number + 1)).toList = _
    rw [String.toList_append, Nat.toList_repr]
    change parseInt ('-' :: Nat.toDigits 10 (number + 1)) = _
    rw [parseInt, parseNat_toDigits]
    rfl

/-! ### A lost digit -/

theorem ofDigitChars_lt (digits : List Char) (allDigits : digits.all Char.isDigit) :
    Nat.ofDigitChars 10 digits 0 < 10 ^ digits.length := by
  induction digits using reverseRecOn with
  | nil => decide
  | append_singleton initial last inductionHypothesis =>
    rw [all_append, Bool.and_eq_true] at allDigits
    have bound := inductionHypothesis allDigits.1
    have digit : last.isDigit := by simpa using allDigits.2
    have small : last.toNat - '0'.toNat ≤ 9 := by grind [Char.isDigit_iff_toNat]
    rw [Nat.ofDigitChars_append, length_append, length_singleton]
    change 10 * _ + (last.toNat - '0'.toNat) < _
    omega

theorem parseInt_ne_of_length_lt {number : Nat} {text : List Char}
    (digits : text.all Char.isDigit) (shorter : text.length < (Nat.toDigits 10 number).length) :
    parseInt text ≠ some (number : Int) := by
  intro parsed
  cases text with
  | nil => cases parsed
  | cons first rest =>
    have digit : first.isDigit := all_eq_true.mp digits first mem_cons_self
    have unsigned : first ≠ '-' := by
      rintro rfl
      exact absurd digit (by decide)
    rw [parseInt, if_neg unsigned, parseNat, if_pos ⟨cons_ne_nil _ _, digits⟩, map_some,
      some_inj, Int.natCast_inj] at parsed
    have small := ofDigitChars_lt (first :: rest) digits
    rw [parsed] at small
    exact absurd ((Nat.length_toDigits_le_iff (by decide) (Nat.succ_pos _)).mpr small)
      (Nat.not_le.mpr shorter)

theorem parseInt_tail_toDigits_ne (number : Nat) :
    parseInt (Nat.toDigits 10 number).tail ≠ some (number : Int) := by
  refine parseInt_ne_of_length_lt (all_eq_true.mpr fun digit member =>
    Nat.isDigit_of_mem_toDigits (by decide) (by decide) (mem_of_mem_tail member)) ?_
  rw [length_tail]
  exact Nat.sub_lt (length_pos_iff.mpr Nat.toDigits_ne_nil) Nat.one_pos

end Decimal
