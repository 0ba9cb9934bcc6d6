/-
This file is a small library about numbers written as bytes, most significant
byte first. The width is a parameter; a number is written modulo what the width
holds, and reading is the inverse of writing in both directions.
-/

import Mathlib.Data.List.Induction
import Mathlib.Tactic.Ring

namespace Bytes

def toBigEndian : Nat → Nat → List UInt8
  | 0, _ => []
  | width + 1, value => toBigEndian width (value / 256) ++ [UInt8.ofNat value]

def ofBigEndian (bytes : List UInt8) : Nat :=
  bytes.foldl (fun value byte => value * 256 + byte.toNat) 0

@[simp] theorem length_toBigEndian (width value : Nat) :
    (toBigEndian width value).length = width := by
  induction width generalizing value with
  | zero => rfl
  | succ width inductionHypothesis => simp [toBigEndian, inductionHypothesis]

theorem ofBigEndian_concat (bytes : List UInt8) (byte : UInt8) :
    ofBigEndian (bytes ++ [byte]) = ofBigEndian bytes * 256 + byte.toNat := by
  simp [ofBigEndian]

theorem ofBigEndian_toBigEndian (width value : Nat) :
    ofBigEndian (toBigEndian width value) = value % 256 ^ width := by
  induction width generalizing value with
  | zero => simp [toBigEndian, ofBigEndian, Nat.mod_one]
  | succ width inductionHypothesis =>
    have lowest : (UInt8.ofNat value).toNat = value % 256 := UInt8.toNat_ofNat'
    rw [toBigEndian, ofBigEndian_concat, inductionHypothesis, lowest, Nat.pow_succ,
      Nat.mul_comm (256 ^ width), Nat.mod_mul]
    ring

theorem toBigEndian_ofBigEndian (bytes : List UInt8) :
    toBigEndian bytes.length (ofBigEndian bytes) = bytes := by
  induction bytes using List.reverseRecOn with
  | nil => rfl
  | append_singleton front byte inductionHypothesis =>
    have upper : (ofBigEndian front * 256 + byte.toNat) / 256 = ofBigEndian front := by
      have := byte.toNat_lt
      omega
    have lowest : UInt8.ofNat (ofBigEndian front * 256 + byte.toNat) = byte := by simp
    rw [List.length_append, List.length_singleton, toBigEndian, ofBigEndian_concat, upper,
      lowest, inductionHypothesis]

theorem ofBigEndian_lt (bytes : List UInt8) : ofBigEndian bytes < 256 ^ bytes.length := by
  have readBack := ofBigEndian_toBigEndian bytes.length (ofBigEndian bytes)
  rw [toBigEndian_ofBigEndian] at readBack
  rw [readBack]
  exact Nat.mod_lt _ (Nat.pow_pos (by decide))

end Bytes
