/-
This file is a small library about the wire format of Protobuf messages, as far as
their size goes. A message is the list of its fields; a number is written in groups of
seven bits, bytes are written behind their length, and each field has a key in front.

Setting a field takes the place of the field under the same number. What the size of a
message becomes when fields are set is said with the size of the fields that are kept.
-/

import Mathlib

namespace Protobuf

open List Option

/-! ### The encoding -/

def varintGroups : Nat → Nat → List UInt8
  | 0, _ => []
  | fuel + 1, value =>
    if value < 128 then [UInt8.ofNat value]
    else UInt8.ofNat (value % 128 + 128) :: varintGroups fuel (value / 128)

def varint (value : Nat) : List UInt8 := varintGroups 10 value

@[irreducible] def word (value : Int) : Nat := (value % 2 ^ 64).toNat

inductive Value where
  | int (value : Int)
  | bytes (content : List UInt8)
  | fixed (content : List UInt8)
deriving DecidableEq, Repr

def Value.wireType : Value → Nat
  | .int _ => 0
  | .bytes _ => 2
  | .fixed content => if content.length = 8 then 1 else 5

def Value.encode : Value → List UInt8
  | .int value => varint (word value)
  | .bytes content => varint content.length ++ content
  | .fixed content => content

structure Field where
  number : Nat
  value : Value
deriving DecidableEq, Repr

def Field.encode (field : Field) : List UInt8 :=
  varint (field.number * 8 + field.value.wireType) ++ field.value.encode

def Field.size (field : Field) : Nat := field.encode.length

abbrev Message := List Field

namespace Message

def serialize (message : Message) : List UInt8 := message.flatMap Field.encode

def size (message : Message) : Nat := (message.map Field.size).sum

def get? (message : Message) (number : Nat) : Option Value :=
  (message.find? fun field => field.number = number).map Field.value

def getInt (message : Message) (number : Nat) : Int :=
  match message.get? number with
  | some (.int value) => value
  | _ => 0

def getBytes (message : Message) (number : Nat) : List UInt8 :=
  match message.get? number with
  | some (.bytes content) => content
  | _ => []

def has (message : Message) (number : Nat) : Bool := (message.get? number).isSome

def set (message : Message) (number : Nat) (value : Value) : Message :=
  message.filter (fun field => field.number ≠ number) ++ [⟨number, value⟩]

def setAll (message fields : Message) : Message :=
  fields.foldl (fun message field => message.set field.number field.value) message

def numbers (message : Message) : List Nat := message.map Field.number

def kept (message : Message) (numbers : List Nat) : Nat :=
  size (message.filter fun field => field.number ∉ numbers)

end Message

def plainInt (number : Nat) (value : Int) : Message :=
  if value = 0 then [] else [⟨number, .int value⟩]

def plainBytes (number : Nat) (content : List UInt8) : Message :=
  if content = [] then [] else [⟨number, .bytes content⟩]

/-! ### The length of a number -/

variable {value width : Nat}

theorem length_varintGroups_le {fuel : Nat} (positive : 0 < width) (small : value < 128 ^ width) :
    (varintGroups fuel value).length ≤ width := by
  induction fuel generalizing value width with
  | zero => exact Nat.zero_le _
  | succ fuel inductionHypothesis =>
    simp only [varintGroups]
    split
    · exact positive
    rename_i large
    obtain ⟨width, rfl⟩ := Nat.exists_eq_succ_of_ne_zero positive.ne'
    have more : 0 < width := by grind
    have rest : value / 128 < 128 ^ width := by
      rw [Nat.div_lt_iff_lt_mul (by decide)]
      exact small
    exact Nat.succ_le_succ (inductionHypothesis more rest)

theorem lt_length_varintGroups {fuel : Nat} (enough : width < fuel) (large : 128 ^ width ≤ value) :
    width < (varintGroups fuel value).length := by
  induction fuel generalizing value width with
  | zero => cases enough
  | succ fuel inductionHypothesis =>
    simp only [varintGroups]
    cases width with
    | zero => split <;> exact Nat.succ_pos _
    | succ width =>
      have wide : ¬ value < 128 := by grind
      rw [if_neg wide]
      have rest : 128 ^ width ≤ value / 128 := by
        rw [Nat.le_div_iff_mul_le (by decide)]
        exact large
      exact Nat.succ_lt_succ (inductionHypothesis (Nat.lt_of_succ_lt_succ enough) rest)

theorem length_varint_le (positive : 0 < width) (small : value < 128 ^ width) :
    (varint value).length ≤ width := length_varintGroups_le positive small

theorem lt_length_varint (enough : width < 10) (large : 128 ^ width ≤ value) :
    width < (varint value).length := lt_length_varintGroups enough large

theorem length_varint_eq_one (small : value < 128) : (varint value).length = 1 := by
  unfold varint varintGroups
  rw [if_pos small, length_singleton]

/-! ### The size of a field and of a message -/

theorem Field.size_bytes (number : Nat) (content : List UInt8) :
    Field.size ⟨number, .bytes content⟩ =
      (varint (number * 8 + 2)).length + ((varint content.length).length + content.length) := by
  simp only [Field.size, Field.encode, Value.wireType, Value.encode, length_append]

theorem Field.size_pos (field : Field) : 0 < field.size := by
  have key : 0 < (varint (field.number * 8 + field.value.wireType)).length := by
    unfold varint varintGroups
    split <;> exact Nat.succ_pos _
  rw [Field.size, Field.encode, length_append]
  omega

namespace Message

variable {message : Message}

theorem get?_set_self (message : Message) (number : Nat) (value : Value) :
    (message.set number value).get? number = some value := by
  have none : (message.filter fun field => decide (field.number ≠ number)).find?
      (fun field => decide (field.number = number)) = none := by
    simp
  simp only [get?, set, find?_append, none, none_or, find?_singleton, decide_true,
    if_true, map_some]

theorem get?_set_of_ne {number other : Nat} (different : other ≠ number) (message : Message)
    (value : Value) : (message.set number value).get? other = message.get? other := by
  have same : (fun field : Field =>
        decide (decide (field.number ≠ number) = true ∧ decide (field.number = other) = true)) =
      fun field => decide (field.number = other) := by
    funext field
    by_cases here : field.number = other
    · simp [here, different]
    · simp [here]
  simp only [get?, set, find?_append, find?_filter, same, find?_singleton,
    decide_eq_false different.symm, Bool.false_eq_true, if_false, or_none]

theorem length_serialize (message : Message) : message.serialize.length = message.size :=
  length_flatMap

theorem serialize_ne_nil (filled : 0 < message.size) : message.serialize ≠ [] := by
  rw [← length_serialize] at filled
  exact ne_nil_of_length_pos filled

@[simp] theorem size_nil : size [] = 0 := rfl

@[simp] theorem size_cons (field : Field) (rest : Message) :
    size (field :: rest) = field.size + size rest := by
  simp only [size, map_cons, sum_cons]

@[simp] theorem size_append (first second : Message) :
    size (first ++ second) = size first + size second := by
  simp only [size, map_append, sum_append]

theorem kept_nil (message : Message) : message.kept [] = message.size := by
  simp only [kept, not_mem_nil, not_false_eq_true, decide_true, filter_true]

theorem kept_cons (field : Field) (rest : Message) (numbers : List Nat) :
    kept (field :: rest) numbers =
      (if field.number ∈ numbers then 0 else field.size) + kept rest numbers := by
  unfold kept
  split
  · grind
  · rename_i other
    rw [filter_cons_of_pos (by simpa using other), size_cons]

theorem kept_set (message : Message) (number : Nat) (value : Value) (numbers : List Nat) :
    (message.set number value).kept numbers =
      message.kept (number :: numbers) +
        if number ∈ numbers then 0 else Field.size ⟨number, value⟩ := by
  have both : (fun field : Field => decide (field.number ∉ number :: numbers)) =
      fun field => decide (field.number ∉ numbers) && decide (field.number ≠ number) := by
    funext field
    rw [← Bool.decide_and]
    refine decide_eq_decide.mpr ?_
    rw [mem_cons, not_or, and_comm]
  rw [kept, set, filter_append, size_append, kept, both, ← List.filter_filter]
  split
  · rename_i member
    rw [filter_singleton, decide_eq_false (not_not.mpr member)]
    rfl
  rename_i member
  rw [filter_singleton, decide_eq_true member]
  exact Nat.add_zero _

/-- The fields that are kept when several of them were set. -/
theorem kept_setAll {fields : Message} (distinct : fields.numbers.Nodup) (message : Message)
    (others : List Nat) :
    (message.setAll fields).kept others =
      message.kept (fields.numbers ++ others) + fields.kept others := by
  induction fields generalizing message with
  | nil => rfl
  | cons field rest inductionHypothesis =>
    obtain ⟨new, distinct⟩ := nodup_cons.mp distinct
    have part : (if field.number ∈ numbers rest ++ others then 0 else field.size) +
        kept rest others = kept (field :: rest) others := by
      rw [kept_cons]
      by_cases member : field.number ∈ others
      · rw [if_pos (mem_append_right _ member), if_pos member]
      have absent : field.number ∉ numbers rest ++ others :=
        mem_append.not.mpr (not_or.mpr ⟨new, member⟩)
      rw [if_neg absent, if_neg member]
    calc (message.setAll (field :: rest)).kept others
      _ = (message.set field.number field.value).kept (numbers rest ++ others) +
            kept rest others := inductionHypothesis distinct _
      _ = message.kept (numbers (field :: rest) ++ others) + kept (field :: rest) others := by
          rw [kept_set, Nat.add_assoc, part]
          rfl

theorem size_setAll {fields : Message} (distinct : fields.numbers.Nodup) (message : Message) :
    (message.setAll fields).size = message.kept fields.numbers + fields.size := by
  rw [← kept_nil, kept_setAll distinct, append_nil, kept_nil]

theorem kept_congr {numbers others : List Nat} (same : ∀ number, number ∈ numbers ↔ number ∈ others)
    (message : Message) : message.kept numbers = message.kept others := by
  unfold kept
  congr 2
  funext field
  exact decide_eq_decide.mpr (not_congr (same field.number))

end Message

end Protobuf
