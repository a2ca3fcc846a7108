/-
# Credits among the integers

A credit is computed in words: the time that has passed is held at zero, the product is formed in
the wide accumulator, and the quotient is held at the largest word before it is compared with the
count. Here the same credit is written down for an account in integers, where a difference may be
negative and nothing is ever held, and the two are shown to be one.

So none of these bounds can be told from what a credit answers. A clock that was set back is early
in both; two words always have a product in the accumulator; and a quotient that had to be held is
no less than any count, before and after.
-/

import FlowGate.Proofs.Tier.Credit

namespace FlowGate

open Config (Rule)

namespace Tier

/-! ## Accounts -/

/-- What a tier holds, as integers. -/
structure Account where
  quota : Int
  period : Int
  count : Int
  windowStart : Int
  deriving DecidableEq

namespace Account

/-- The units that fall due from the start of the window to `now`, rounded down. -/
def due (account : Account) (now : Int) : Int :=
  ((now - account.windowStart) * account.quota).fdiv account.period

/-- Give back what fell due by `now`, if more than a whole period has passed since the window
started; but no more than is counted. Answers the units given back. -/
def credit (account : Account) (now : Int) : Int × Account :=
  if now - account.windowStart ≤ account.period then (0, account)
  else
    let units := min (account.due now) account.count
    (units, { account with count := account.count - units, windowStart := now })

end Account

/-- The integers that the words of a tier stand for. -/
def account (tier : Tier) : Account :=
  ⟨tier.rule.quota.toNat, tier.rule.period.toNat, tier.count.toNat, tier.windowStart.toNat⟩

/-- Nothing about a tier is lost in its account. -/
theorem account_inj {one other : Tier} : one.account = other.account ↔ one = other := by
  obtain ⟨⟨quota, period⟩, count, windowStart⟩ := one
  obtain ⟨⟨quota', period'⟩, count', windowStart'⟩ := other
  simp only [account, Account.mk.injEq, mk.injEq, Rule.mk.injEq, Int.natCast_inj,
    UInt64.toNat_inj, and_assoc]

/-! ## From words to integers -/

theorem account_due {tier : Tier} {now : UInt64}
    (begun : tier.windowStart.toNat ≤ now.toNat) :
    tier.account.due now.toNat = tier.rule.due (now.toNat - tier.windowStart.toNat) := by
  rw [Rule.due, Int.ofNat_fdiv, Int.natCast_mul, Int.natCast_sub begun]
  rfl

/-- What a credit answers in words, it answers in integers. -/
theorem account_credit_of_credit {tier next : Tier} {now units : UInt64}
    (credited : tier.credit now = .ok (units, next)) :
    tier.account.credit now.toNat = ((units.toNat : Int), next.account) := by
  rcases credit_cases credited with ⟨early, rfl, rfl⟩ | ⟨late, sameRule, starts, share, sum⟩
  · refine if_pos ?_
    show (now.toNat : Int) - next.windowStart.toNat ≤ next.rule.period.toNat
    omega
  · have notEarly : ¬ (now.toNat : Int) - tier.windowStart.toNat ≤ tier.rule.period.toNat := by
      omega
    have unitsEq : min (tier.account.due now.toNat) tier.count.toNat = units.toNat := by
      rw [account_due (by omega)]
      omega
    have countEq : (tier.count.toNat : Int) - units.toNat = next.count.toNat := by omega
    calc
      tier.account.credit now.toNat =
          (min (tier.account.due now.toNat) tier.count.toNat,
            { tier.account with
              count := tier.count.toNat - min (tier.account.due now.toNat) tier.count.toNat
              windowStart := now.toNat }) := if_neg notEarly
      _ = ((units.toNat : Int), next.account) := by
        rw [unitsEq, countEq, account, account, sameRule, starts]

/-- A quotient that is held at the largest word is still no less than any count. -/
theorem toNat_min_narrow (quotient : Word.Wide) (count : UInt64) :
    (min (Word.narrow quotient) count).toNat = min quotient.toNat count.toNat := by
  rw [Word.toNat_min, Word.toNat_narrow, Word.min_top_min]

/-- Under a rule that lasts at least a millisecond, whatever words a tier holds and a clock shows,
a credit answers and leaves exactly what it does among the integers. The product is formed in full,
and whether the quotient is held at the largest word makes no difference to the units given
back. -/
theorem credit_as_among_integers {tier : Tier} (positive : tier.rule.period ≠ 0) (now : UInt64) :
    let elapsed := Word.widen (Word.subSat now tier.windowStart)
    let quota := Word.widen tier.rule.quota
    let quotient := elapsed * quota / Word.widen tier.rule.period
    (∃ units next, tier.credit now = .ok (units, next)) ∧
      (∀ units next, tier.credit now = .ok (units, next) ↔
        tier.account.credit now.toNat = ((units.toNat : Int), next.account)) ∧
      Word.mulChecked elapsed quota = .ok (elapsed * quota) ∧
      (elapsed * quota).toNat = elapsed.toNat * quota.toNat ∧
      (min (Word.narrow quotient) tier.count).toNat = min quotient.toNat tier.count.toNat := by
  intro elapsed quota quotient
  refine ⟨exists_credit_eq_ok now positive, fun units next => ⟨account_credit_of_credit, ?_⟩,
    Word.mulChecked_widen _ _, ?_, toNat_min_narrow quotient tier.count⟩
  · intro answered
    obtain ⟨units', next', credited⟩ := exists_credit_eq_ok now positive
    rw [account_credit_of_credit credited, Prod.mk.injEq, Int.natCast_inj, UInt64.toNat_inj,
      account_inj] at answered
    obtain ⟨rfl, rfl⟩ := answered
    exact credited
  · rw [Word.toNat_widen_mul, Word.toNat_widen, Word.toNat_widen]

/-- The largest words all at once: no product comes closer to the end of the accumulator, the
quotient is far beyond a word, and the credit takes off the whole count. -/
theorem credit_largestWords :
    let tier : Tier := ⟨⟨Word.top, 1⟩, Word.top, 0⟩
    let emptied : Tier := ⟨⟨Word.top, 1⟩, 0, Word.top⟩
    tier.rule.period ≠ 0 ∧ tier.account.due Word.top.toNat = Word.top.toNat * Word.top.toNat ∧
      tier.account.credit Word.top.toNat = ((Word.top.toNat : Int), emptied.account) ∧
      tier.credit Word.top = .ok (Word.top, emptied) := by
  intro tier emptied
  have positive : tier.rule.period ≠ 0 := by decide
  have answered :
      tier.account.credit Word.top.toNat = ((Word.top.toNat : Int), emptied.account) := by
    decide +kernel
  obtain ⟨-, same, -⟩ := credit_as_among_integers positive Word.top
  exact ⟨positive, by decide +kernel, answered, (same Word.top emptied).mpr answered⟩

end Tier

end FlowGate
