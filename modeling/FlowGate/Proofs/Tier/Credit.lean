/-
# Charges and credits in numbers

What a tier does to its count and to the start of its window, said in natural numbers. Words bring
in three places where a result could differ from the arithmetic that is meant: the sum that is held
at the largest word, the product in the wide accumulator, and the quotient that is narrowed to a
word. The first can be seen only on a tier that was charged 2^64 times. The other two are never
seen: the product of two words always fits, and a quotient beyond a word exceeds every count.

After this module a tier is its rule, its count and its window start, as numbers; words are not
opened again.
-/

import FlowGate.Tier
import Mathlib.Algebra.Ring.Nat

namespace FlowGate

open Config (Rule)

/-- The units of a rule's quota that fall due in `elapsed` milliseconds, rounded down. -/
def Config.Rule.due (rule : Rule) (elapsed : Nat) : Nat :=
  elapsed * rule.quota.toNat / rule.period.toNat

/-- In a whole period the whole quota falls due. -/
theorem Config.Rule.quota_le_due {rule : Rule} {elapsed : Nat} (positive : rule.period ≠ 0)
    (whole : rule.period.toNat ≤ elapsed) : rule.quota.toNat ≤ rule.due elapsed := by
  have nonzero : 0 < rule.period.toNat := Nat.pos_of_ne_zero fun zero =>
    positive (UInt64.toNat_inj.mp zero)
  rw [Rule.due, Nat.le_div_iff_mul_le nonzero, Nat.mul_comm]
  exact Nat.mul_le_mul_right _ whole

namespace Word

theorem toNat_min (a b : UInt64) : (min a b).toNat = min a.toNat b.toNat := by
  show (if a ≤ b then a else b).toNat = _
  rw [Nat.min_def]
  simp only [UInt64.le_iff_toNat_le]
  split <;> rfl

/-- What is held at a word in the end may be held at the largest word before. -/
theorem min_top_min (units : Nat) (word : UInt64) :
    min (min units top.toNat) word.toNat = min units word.toNat := by
  rw [Nat.min_assoc, Nat.min_eq_right (toNat_le_top word)]

/-- The difference that a credit computes never passes zero. -/
theorem subChecked_min (due count : UInt64) :
    subChecked count (min due count) = .ok (count - min due count) := by
  refine if_neg ?_
  rw [UInt64.lt_iff_toNat_lt, toNat_min]
  omega

theorem umulOverflow_widen (a b : UInt64) :
    BitVec.umulOverflow (widen a) (widen b) = false := by
  have fits : a.toNat * b.toNat < 2 ^ 64 * 2 ^ 64 :=
    Nat.mul_lt_mul'' a.toNat_lt b.toNat_lt
  rw [BitVec.umulOverflow, toNat_widen, toNat_widen]
  simpa using fits

/-- The product of two words always fits into the wide accumulator. -/
theorem mulChecked_widen (a b : UInt64) :
    mulChecked (widen a) (widen b) = .ok (widen a * widen b) := by
  rw [mulChecked, umulOverflow_widen]
  rfl

theorem toNat_widen_mul (a b : UInt64) :
    (widen a * widen b).toNat = a.toNat * b.toNat := by
  have fits := umulOverflow_widen a b
  rw [BitVec.toNat_mul_of_not_umulOverflow (by simp [fits]), toNat_widen, toNat_widen]

theorem widen_eq_zero_iff (a : UInt64) : widen a = 0 ↔ a = 0 := by
  rw [← BitVec.toNat_inj, toNat_widen, ← UInt64.toNat_inj]
  rfl

/-- A share per nonzero period is there, and it is the exact quotient up to the largest word. -/
theorem share_of_period_ne_zero {period : UInt64} (elapsed quota : UInt64)
    (positive : period ≠ 0) :
    ∃ units, share elapsed quota period = .ok units ∧
      units.toNat = min (elapsed.toNat * quota.toNat / period.toNat) top.toNat := by
  refine ⟨narrow (widen elapsed * widen quota / widen period), ?_, ?_⟩
  · have divisor : ¬ widen period = 0 := fun zero =>
      positive ((widen_eq_zero_iff period).mp zero)
    rw [share, mulChecked_widen]
    show (divChecked (widen elapsed * widen quota) (widen period) >>= fun quotient =>
      pure (narrow quotient)) = _
    rw [divChecked, if_neg divisor]
    rfl
  · rw [toNat_narrow, BitVec.toNat_udiv, toNat_widen_mul, toNat_widen]

/-- There is no share per period of zero. -/
theorem share_of_period_eq_zero (elapsed quota : UInt64) :
    share elapsed quota 0 = .error .divisionByZero := by
  rw [share, mulChecked_widen]
  rfl

end Word

namespace Tier

@[simp]
theorem charge_rule (tier : Tier) : tier.charge.rule = tier.rule := rfl

@[simp]
theorem charge_windowStart (tier : Tier) : tier.charge.windowStart = tier.windowStart := rfl

theorem toNat_charge_count (tier : Tier) :
    tier.charge.count.toNat = min (tier.count.toNat + 1) Word.top.toNat :=
  Word.toNat_addSat tier.count 1

/-- A count below the largest word grows by one. -/
theorem toNat_charge_count_of_lt {tier : Tier} (small : tier.count.toNat + 1 < 2 ^ 64) :
    tier.charge.count.toNat = tier.count.toNat + 1 := by
  rw [toNat_charge_count, Word.toNat_top]
  omega

theorem toNat_charge_count_le (tier : Tier) :
    tier.charge.count.toNat ≤ tier.count.toNat + 1 := by
  rw [toNat_charge_count]
  exact Nat.min_le_left _ _

theorem overBudget_iff (tier : Tier) :
    tier.overBudget = true ↔ tier.rule.quota.toNat < tier.count.toNat := by
  rw [overBudget, decide_eq_true_iff, UInt64.lt_iff_toNat_lt]

theorem overBudget_eq_false_iff (tier : Tier) :
    tier.overBudget = false ↔ tier.count.toNat ≤ tier.rule.quota.toNat := by
  rw [← Bool.not_eq_true, overBudget_iff, Nat.not_lt]

/-! ## Many units at once -/

@[simp]
theorem chargeTimes_rule (tier : Tier) (units : Nat) :
    (tier.chargeTimes units).rule = tier.rule := by
  induction units generalizing tier with
  | zero => rfl
  | succ units ih => exact ih tier.charge

@[simp]
theorem chargeTimes_windowStart (tier : Tier) (units : Nat) :
    (tier.chargeTimes units).windowStart = tier.windowStart := by
  induction units generalizing tier with
  | zero => rfl
  | succ units ih => exact ih tier.charge

theorem toNat_chargeTimes_count (tier : Tier) (units : Nat) :
    (tier.chargeTimes units).count.toNat = min (tier.count.toNat + units) Word.top.toNat := by
  induction units generalizing tier with
  | zero => exact (Nat.min_eq_left (Word.toNat_le_top tier.count)).symm
  | succ units ih =>
      rw [chargeTimes, ih, toNat_charge_count]
      omega

/-! ## Credits -/

/-- Up to a whole period after the window started, and at any time before it, nothing is credited
and nothing changes. -/
theorem credit_of_le_period {tier : Tier} {now : UInt64}
    (early : now.toNat - tier.windowStart.toNat ≤ tier.rule.period.toNat) :
    tier.credit now = .ok (0, tier) := by
  rw [credit]
  refine if_pos ?_
  rwa [UInt64.le_iff_toNat_le, Word.toNat_subSat]

/-- More than a period after the window started, the tier is credited what fell due meanwhile, but
no more than was consumed, and the window starts anew. -/
theorem credit_of_period_lt {tier : Tier} {now : UInt64} (positive : tier.rule.period ≠ 0)
    (late : tier.rule.period.toNat < now.toNat - tier.windowStart.toNat) :
    ∃ units count, tier.credit now = .ok (units, { tier with count, windowStart := now }) ∧
      units.toNat =
        min (tier.rule.due (now.toNat - tier.windowStart.toNat)) tier.count.toNat ∧
      count.toNat + units.toNat = tier.count.toNat := by
  obtain ⟨due, shared, dueEq⟩ :=
    Word.share_of_period_ne_zero (Word.subSat now tier.windowStart) tier.rule.quota positive
  rw [Word.toNat_subSat] at dueEq
  have small := Word.toNat_min due tier.count
  refine ⟨min due tier.count, tier.count - min due tier.count, ?_, ?_, ?_⟩
  · have notEarly : ¬ Word.subSat now tier.windowStart ≤ tier.rule.period := by
      rwa [UInt64.le_iff_toNat_le, Word.toNat_subSat, Nat.not_le]
    rw [credit]
    simp only [if_neg notEarly, shared]
    show (Word.subChecked tier.count (min due tier.count) >>= fun remaining =>
      pure (min due tier.count, { tier with count := remaining, windowStart := now })) = _
    rw [Word.subChecked_min]
    rfl
  · rw [small, dueEq, Rule.due, Word.min_top_min]
  · rw [UInt64.toNat_sub_of_le _ _ (UInt64.le_iff_toNat_le.mpr (by rw [small]; omega)), small]
    omega

/-- A period of zero is found out by the first credit after the window started. -/
theorem credit_of_period_eq_zero {tier : Tier} {now : UInt64} (zero : tier.rule.period = 0)
    (late : tier.windowStart.toNat < now.toNat) :
    tier.credit now = .error .divisionByZero := by
  have notEarly : ¬ Word.subSat now tier.windowStart ≤ 0 := by
    rw [UInt64.le_iff_toNat_le, Word.toNat_subSat, UInt64.toNat_zero]
    omega
  rw [credit, zero]
  simp only [if_neg notEarly, Word.share_of_period_eq_zero]
  rfl

/-- All that a credit can do if it does not fail: nothing, or a credit after more than a period. -/
theorem credit_cases {tier next : Tier} {now units : UInt64}
    (credited : tier.credit now = .ok (units, next)) :
    (now.toNat - tier.windowStart.toNat ≤ tier.rule.period.toNat ∧ units = 0 ∧ next = tier) ∨
      (tier.rule.period.toNat < now.toNat - tier.windowStart.toNat ∧
        next.rule = tier.rule ∧ next.windowStart = now ∧
        units.toNat =
          min (tier.rule.due (now.toNat - tier.windowStart.toNat)) tier.count.toNat ∧
        next.count.toNat + units.toNat = tier.count.toNat) := by
  rcases Nat.lt_or_ge tier.rule.period.toNat (now.toNat - tier.windowStart.toNat) with late | early
  · by_cases zero : tier.rule.period = 0
    · rw [credit_of_period_eq_zero zero (by omega)] at credited
      cases credited
    · obtain ⟨units', count, computed, unitsEq, countEq⟩ := credit_of_period_lt zero late
      rw [computed] at credited
      cases credited
      exact Or.inr ⟨late, rfl, rfl, unitsEq, countEq⟩
  · rw [credit_of_le_period early] at credited
    cases credited
    exact Or.inl ⟨early, rfl, rfl⟩

theorem credit_rule {tier next : Tier} {now units : UInt64}
    (credited : tier.credit now = .ok (units, next)) : next.rule = tier.rule := by
  rcases credit_cases credited with ⟨-, -, rfl⟩ | ⟨-, same, -⟩
  · rfl
  · exact same

/-- What a credit takes from the count it answers. -/
theorem credit_count {tier next : Tier} {now units : UInt64}
    (credited : tier.credit now = .ok (units, next)) :
    next.count.toNat + units.toNat = tier.count.toNat := by
  rcases credit_cases credited with ⟨-, rfl, rfl⟩ | ⟨-, -, -, -, sum⟩
  · rfl
  · exact sum

/-- The units of a credit are paid for by the time over which the window start moves, and the window
start moves at most to the reading. -/
theorem credit_paid {tier next : Tier} {now units : UInt64}
    (credited : tier.credit now = .ok (units, next)) :
    tier.windowStart.toNat ≤ next.windowStart.toNat ∧
      next.windowStart.toNat ≤ max tier.windowStart.toNat now.toNat ∧
      units.toNat * tier.rule.period.toNat ≤
        (next.windowStart.toNat - tier.windowStart.toNat) * tier.rule.quota.toNat := by
  rcases credit_cases credited with ⟨-, rfl, rfl⟩ | ⟨late, -, start, unitsEq, -⟩
  · exact ⟨Nat.le_refl _, Nat.le_max_left _ _, by simp⟩
  · rw [start]
    refine ⟨by omega, by omega, ?_⟩
    calc
      units.toNat * tier.rule.period.toNat ≤
          tier.rule.due (now.toNat - tier.windowStart.toNat) * tier.rule.period.toNat :=
        Nat.mul_le_mul_right _ (by omega)
      _ ≤ (now.toNat - tier.windowStart.toNat) * tier.rule.quota.toNat :=
        Nat.div_mul_le_self _ _

/-- On a rule that lasts at least a millisecond no credit fails. -/
theorem exists_credit_eq_ok {tier : Tier} (now : UInt64) (positive : tier.rule.period ≠ 0) :
    ∃ units next, tier.credit now = .ok (units, next) := by
  rcases Nat.lt_or_ge tier.rule.period.toNat (now.toNat - tier.windowStart.toNat) with late | early
  · obtain ⟨units, count, computed, -⟩ := credit_of_period_lt positive late
    exact ⟨units, _, computed⟩
  · exact ⟨0, tier, credit_of_le_period early⟩

end Tier

end FlowGate
