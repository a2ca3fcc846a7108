/-
# Words

Instants, durations in milliseconds, quotas and counters are 64-bit words. Sums and differences
that must not wrap are held at the ends of the range, and a product of two words is formed in an
accumulator of twice the width before it is divided. Each operation is tied to the natural numbers
by one lemma, which is all that later arguments need.
-/

import FlowGate.Fault

namespace FlowGate.Word

/-- The largest word. -/
def top : UInt64 := 18446744073709551615

@[simp] theorem toNat_top : top.toNat = 18446744073709551615 := rfl

theorem toNat_le_top (a : UInt64) : a.toNat ≤ top.toNat := by
  have := a.toNat_lt
  rw [toNat_top]
  omega

/-! ## Sums and differences held at the ends of the range -/

/-- The sum of two words, held at the largest word. A sum that wrapped is below its terms. -/
def addSat (a b : UInt64) : UInt64 :=
  if a + b < a then top else a + b

/-- The difference of two words, held at zero. -/
def subSat (a b : UInt64) : UInt64 :=
  if a < b then 0 else a - b

theorem toNat_addSat (a b : UInt64) :
    (addSat a b).toNat = min (a.toNat + b.toNat) top.toNat := by
  have ha := a.toNat_lt
  have hb := b.toNat_lt
  unfold addSat
  split
  · next wrapped =>
    rw [UInt64.lt_iff_toNat_lt, UInt64.toNat_add] at wrapped
    rw [toNat_top]
    omega
  · next fits =>
    rw [UInt64.lt_iff_toNat_lt, UInt64.toNat_add] at fits
    rw [UInt64.toNat_add, toNat_top]
    omega

theorem toNat_subSat (a b : UInt64) : (subSat a b).toNat = a.toNat - b.toNat := by
  unfold subSat
  split
  · next less =>
    rw [UInt64.lt_iff_toNat_lt] at less
    rw [UInt64.toNat_zero]
    omega
  · next notLess =>
    rw [UInt64.lt_iff_toNat_lt, Nat.not_lt] at notLess
    exact UInt64.toNat_sub_of_le _ _ (UInt64.le_iff_toNat_le.2 notLess)

/-- The difference of two words, refused where it would pass zero. -/
def subChecked (a b : UInt64) : Except Fault UInt64 :=
  if a < b then .error .differenceUnderflow else .ok (a - b)

/-! ## The wide accumulator -/

/-- The accumulator for products: twice the width of a word. -/
abbrev Wide : Type := BitVec 128

/-- A word in the accumulator. -/
def widen (a : UInt64) : Wide := a.toBitVec.setWidth 128

/-- A product in the accumulator, refused where it does not fit. -/
def mulChecked (a b : Wide) : Except Fault Wide :=
  if BitVec.umulOverflow a b then .error .productOverflow else .ok (a * b)

/-- A quotient in the accumulator, refused where the divisor is zero. -/
def divChecked (a b : Wide) : Except Fault Wide :=
  if b = 0 then .error .divisionByZero else .ok (a / b)

/-- What the accumulator holds, as a word: held at the largest word. -/
def narrow (a : Wide) : UInt64 :=
  if a.toNat ≤ top.toNat then UInt64.ofNat a.toNat else top

@[simp] theorem toNat_widen (a : UInt64) : (widen a).toNat = a.toNat := by
  have := a.toNat_lt
  simp only [widen, BitVec.toNat_setWidth, UInt64.toNat_toBitVec]
  omega

theorem toNat_narrow (a : Wide) : (narrow a).toNat = min a.toNat top.toNat := by
  unfold narrow
  rw [toNat_top]
  split
  · rw [UInt64.toNat_ofNat']; omega
  · rw [toNat_top]; omega

/-- How many units of `quota` per `period` fall into `elapsed`: the product in the wide
accumulator, the quotient rounded down, the result held at the largest word. -/
def share (elapsed quota period : UInt64) : Except Fault UInt64 := do
  let product ← mulChecked (widen elapsed) (widen quota)
  let quotient ← divChecked product (widen period)
  pure (narrow quotient)

end FlowGate.Word
