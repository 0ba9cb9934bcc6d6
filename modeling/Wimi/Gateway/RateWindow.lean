/-
This file is about the limit on the commands of a connection: a hundred in a window that
starts again with the first command a second or more after its start.

The counter is an unsigned int. A window only counts commands of one second, so it does
not wrap as long as there are fewer than 2 ^ 32 of them. Then a second meets at most two
windows, the one that is open at its start and one that starts in it: a third would have
to start a second after the second one.
-/

import Wimi.Gateway.Session

namespace Wimi.Gateway

open List

open Session (GatewaySession)

/-! ### The window -/

structure RateWindow where
  rateWindowStarted : Int
  commandsInRateWindow : Nat := 0
deriving DecidableEq, Repr

namespace RateWindow

def count (second : Int) (window : RateWindow) (now : Int) : RateWindow :=
  let current := if second ≤ now - window.rateWindowStarted then ⟨now, 0⟩ else window
  { current with commandsInRateWindow := (current.commandsInRateWindow + 1) % 2 ^ 32 }

def passed (second : Int) (window : RateWindow) : List Int → List Int
  | [] => []
  | now :: rest =>
    let counted := window.count second now
    if 100 < counted.commandsInRateWindow then passed second counted rest
    else now :: passed second counted rest

def inSecond (second start time : Int) : Bool := start ≤ time ∧ time < start + second

/-- The session counts as the window does, in milliseconds. -/
theorem count_session {Rest Wire : Type} (session : GatewaySession Rest Wire) (now : Int) :
    count 1000 ⟨session.rateWindowStarted, session.commandsInRateWindow⟩ now =
      ⟨(session.countCommand now).rateWindowStarted,
        (session.countCommand now).commandsInRateWindow⟩ := by
  simp only [count, GatewaySession.countCommand]
  split <;> rfl

/-! ### Runs without a wrap -/

variable {second now start : Int} {window : RateWindow} {rest arrivals : List Int} {bound : Nat}

/-- At most `bound` commands come in any second, those counted in the window included. -/
structure Within (second : Int) (bound : Nat) (window : RateWindow) (arrivals : List Int) :
    Prop where
  short : bound < 2 ^ 32
  own : window.commandsInRateWindow +
    arrivals.countP (inSecond second window.rateWindowStarted) ≤ bound
  every : ∀ start, arrivals.countP (inSecond second start) ≤ bound

theorem Within.count_eq (within : Within second bound window (now :: rest))
    (order : window.rateWindowStarted ≤ now) :
    window.count second now =
      if second ≤ now - window.rateWindowStarted then ⟨now, 1⟩
      else ⟨window.rateWindowStarted, window.commandsInRateWindow + 1⟩ := by
  rw [count]
  split_ifs with restarts
  · rfl
  have inWindow : inSecond second window.rateWindowStarted now = true := by
    simp only [inSecond, decide_eq_true_eq]
    omega
  have own := within.own
  rw [countP_cons_of_pos inWindow] at own
  have short := within.short
  rw [Nat.mod_eq_of_lt (by omega)]

theorem Within.count (within : Within second bound window (now :: rest)) (positive : 0 < second)
    (order : window.rateWindowStarted ≤ now) :
    Within second bound (window.count second now) rest where
  short := within.short
  own := by
    rw [within.count_eq order]
    split_ifs with restarts
    · have every := within.every now
      rw [countP_cons_of_pos (by simp only [inSecond, decide_eq_true_eq]; omega)] at every
      simpa only [Nat.add_comm] using every
    have own := within.own
    rw [countP_cons_of_pos (by simp only [inSecond, decide_eq_true_eq]; omega)] at own
    dsimp only
    omega
  every other := le_trans (by rw [countP_cons]; omega) (within.every other)

theorem started_count (ordered : (now :: rest).Pairwise (· ≤ ·))
    (order : window.rateWindowStarted ≤ now) :
    ((window.count second now).rateWindowStarted :: rest).Pairwise (· ≤ ·) := by
  obtain ⟨later, sorted⟩ := pairwise_cons.mp ordered
  refine pairwise_cons.mpr ⟨fun time member => le_trans ?_ (later time member), sorted⟩
  rw [RateWindow.count]
  split_ifs
  · exact le_rfl
  · exact order

theorem countP_inSecond_eq_zero (late : ∀ time ∈ arrivals, start + second ≤ time) :
    arrivals.countP (inSecond second start) = 0 := by
  refine countP_eq_zero.mpr fun time member within => ?_
  have := late time member
  simp only [inSecond, decide_eq_true_eq] at within
  omega

theorem passed_subset : passed second window arrivals ⊆ arrivals := by
  induction arrivals generalizing window with
  | nil => exact List.Subset.refl _
  | cons now rest inductionHypothesis => grind [passed, subset_cons_of_subset, cons_subset_cons]

/-! ### The two bounds -/

section

variable (positive : 0 < second) (within : Within second bound window arrivals)
  (ordered : (window.rateWindowStarted :: arrivals).Pairwise (· ≤ ·))
include positive within ordered

/-- From the start of a second on, the window that is open there and the next one let through
what is left of their hundred commands. -/
theorem passed_le_of_after (after : ∀ time ∈ arrivals, start ≤ time) :
    (passed second window arrivals).countP (inSecond second start) +
        min window.commandsInRateWindow 100 ≤
      if start ≤ window.rateWindowStarted then 100 else 200 := by
  induction arrivals generalizing window with
  | nil =>
    simp only [passed, countP_nil]
    split_ifs <;> omega
  | cons now rest inductionHypothesis =>
    obtain ⟨started, ordered⟩ := pairwise_cons.mp ordered
    have later := (pairwise_cons.mp ordered).1
    have order := started now mem_cons_self
    have counted := within.count positive order
    have equation := within.count_eq order
    have remaining := inductionHypothesis counted (started_count ordered order)
      fun time member => after time (mem_cons_of_mem now member)
    have isAfter := after now mem_cons_self
    rw [passed]
    rw [equation] at remaining ⊢
    by_cases restarts : second ≤ now - window.rateWindowStarted
    · rw [if_pos restarts] at remaining ⊢
      rw [if_pos isAfter] at remaining
      dsimp only at remaining ⊢
      rw [if_neg (by omega)]
      by_cases opened : start ≤ window.rateWindowStarted
      · -- a window that starts in the second leaves the next one behind it
        have none := @countP_inSecond_eq_zero second start (now :: passed second ⟨now, 1⟩ rest)
          (forall_mem_cons.mpr ⟨by omega, fun time member => by
            have := later time (passed_subset member)
            omega⟩)
        rw [none, if_pos opened]
        omega
      · rw [countP_cons, if_neg opened]
        split_ifs <;> omega
    · grind

/-- No second lets more than two hundred commands through. -/
theorem passed_le (start : Int) :
    (passed second window arrivals).countP (inSecond second start) ≤ 200 := by
  induction arrivals generalizing window with
  | nil => exact Nat.zero_le _
  | cons now rest inductionHypothesis =>
    by_cases before : now < start
    · obtain ⟨started, later⟩ := pairwise_cons.mp ordered
      have order := started now mem_cons_self
      have remaining :=
        inductionHypothesis (within.count positive order) (started_count later order)
      have outside : ¬ inSecond second start now = true := by
        simp only [inSecond, decide_eq_true_eq]
        omega
      rw [passed]
      split_ifs
      · exact remaining
      · rwa [countP_cons_of_neg outside]
    have after : ∀ time ∈ now :: rest, start ≤ time := by
      have later := (pairwise_cons.mp (pairwise_cons.mp ordered).2).1
      refine forall_mem_cons.mpr ⟨not_lt.mp before, fun time member => ?_⟩
      exact (not_lt.mp before).trans (later time member)
    have bounded := passed_le_of_after positive within ordered after
    split_ifs at bounded <;> omega

end

/-- Where at most a hundred commands come in a second, all are let through. -/
theorem passed_eq_self (positive : 0 < second) (within : Within second 100 window arrivals)
    (ordered : (window.rateWindowStarted :: arrivals).Pairwise (· ≤ ·)) :
    passed second window arrivals = arrivals := by
  induction arrivals generalizing window with
  | nil => rfl
  | cons now rest inductionHypothesis =>
    obtain ⟨started, later⟩ := pairwise_cons.mp ordered
    have order := started now mem_cons_self
    have counted := within.count positive order
    have own := counted.own
    rw [passed, if_neg (by omega), inductionHypothesis counted (started_count later order)]

/-- Among commands of which fewer than 2 ^ 32 come in any second, no second lets more than two
hundred through; and where no more than a hundred come in any second, all are let through. -/
theorem rate_window_bounds (positive : 0 < second) (started : Int)
    (ordered : (started :: arrivals).Pairwise (· ≤ ·)) :
    ((∀ start, arrivals.countP (inSecond second start) < 2 ^ 32) →
      ∀ start, (passed second ⟨started, 0⟩ arrivals).countP (inSecond second start) ≤ 200) ∧
      ((∀ start, arrivals.countP (inSecond second start) ≤ 100) →
        passed second ⟨started, 0⟩ arrivals = arrivals) := by
  refine ⟨fun few start => ?_, fun few => ?_⟩
  · have within : Within second (2 ^ 32 - 1) ⟨started, 0⟩ arrivals :=
      ⟨by decide, by simpa using Nat.le_sub_one_of_lt (few started),
        fun start => Nat.le_sub_one_of_lt (few start)⟩
    exact passed_le positive within ordered start
  · exact passed_eq_self positive ⟨by decide, by simpa using few started, few⟩ ordered

/-- A hundred and one commands at the start of a second: one too many for the window, and at most
two hundred for the second. -/
theorem rate_window_bounds_burst :
    (∀ start, (passed 1000 ⟨0, 0⟩ (replicate 101 5)).countP (inSecond 1000 start) ≤ 200) ∧
      (passed 1000 ⟨0, 0⟩ (replicate 101 5)).length = 100 := by
  refine ⟨(rate_window_bounds (by decide) 0 (by decide +kernel)).1 fun start => ?_,
    by decide +kernel⟩
  exact lt_of_le_of_lt (countP_le_length) (by decide)

/-! ### The counter wraps -/

theorem count_same (window : RateWindow) (positive : 0 < second) :
    window.count second window.rateWindowStarted =
      ⟨window.rateWindowStarted, (window.commandsInRateWindow + 1) % 2 ^ 32⟩ := by
  rw [count, if_neg (by omega)]

theorem passed_replicate_add (positive : 0 < second) (started : Int) (early late : Nat)
    {commands : Nat} (short : commands < 2 ^ 32) :
    passed second ⟨started, commands⟩ (replicate (early + late) started) =
      passed second ⟨started, commands⟩ (replicate early started) ++
        passed second ⟨started, (commands + early) % 2 ^ 32⟩ (replicate late started) := by
  induction early generalizing commands with
  | zero =>
    rw [Nat.zero_add, Nat.add_zero, Nat.mod_eq_of_lt short]
    rfl
  | succ early inductionHypothesis =>
    have next := inductionHypothesis (Nat.mod_lt (commands + 1) (by decide))
    rw [Nat.mod_add_mod, Nat.add_assoc, Nat.add_comm 1] at next
    rw [Nat.add_right_comm, replicate_succ, replicate_succ, passed, passed,
      count_same ⟨started, commands⟩ positive, next]
    split_ifs <;> rfl

/-- With 2 ^ 32 + 100 commands at once the counter starts again, and 201 are let through. -/
theorem wrapped_counter_lets_through :
    200 < (passed 1000 ⟨0, 0⟩ (replicate (100 + ((2 ^ 32 - 101) + 101)) 0)).countP
      (inSecond 1000 0) := by
  rw [passed_replicate_add (by decide) 0 100 _ (by decide),
    passed_replicate_add (by decide) 0 (2 ^ 32 - 101) 101 (by decide), countP_append,
    countP_append]
  have first : (passed 1000 ⟨0, 0⟩ (replicate 100 0)).countP (inSecond 1000 0) = 100 := by
    decide +kernel
  have last : (passed 1000 ⟨0, 2 ^ 32 - 1⟩ (replicate 101 0)).countP (inSecond 1000 0) =
      101 := by
    decide +kernel
  have wraps : ((0 + 100) % 2 ^ 32 + (2 ^ 32 - 101)) % 2 ^ 32 = 2 ^ 32 - 1 := by decide
  rw [wraps, first, last]
  omega

end RateWindow

end Wimi.Gateway
