/-
# Waiting on a tier

A caller that is blocked naps, looks, and naps again, and nothing in this loop counts down. What
does is the time until the credits have come that the backlog needs, on a clock that moves by every
nap: a look in vain either brings the next credit closer or is a credit, which takes a whole quota
off the backlog. `timeLeft` is that time, and `exists_doze` is the induction on it.

The one thing that a wait can run into is the end of the clock's range. Past it the hand shows small
numbers again, the window seems to start in the future, and how long the caller would have to wait
then is not said here. So every statement about a wait is an alternative: the caller is released in
time, or its naps reach past the end of the range.
-/

import FlowGate.Proofs.Limiter.Build
import FlowGate.Proofs.Tier.Credit
import FlowGate.Time.ManualClock
import Mathlib.Algebra.Order.Floor.Div

namespace FlowGate

open Config (Rule)
open Time (Duration ManualClock)

/-! ## Naps on a clock -/

namespace Time.ManualClock

/-- The clock after so many naps of one length. -/
def sleepTimes (clock : ManualClock) (nap : Duration) : Nat → ManualClock
  | 0 => clock
  | times + 1 => (clock.sleep nap).sleepTimes nap times

/-- The milliseconds of all the naps on record. -/
def asleep (clock : ManualClock) : Nat := (clock.naps.map (·.millis.toNat)).sum

theorem asleep_sleep (clock : ManualClock) (nap : Duration) :
    (clock.sleep nap).asleep = clock.asleep + nap.millis.toNat := by
  show nap.millis.toNat + clock.asleep = _
  exact Nat.add_comm _ _

theorem asleep_le_of_suffix {earlier later : ManualClock} (more : earlier.naps <:+ later.naps) :
    earlier.asleep ≤ later.asleep := by
  obtain ⟨naps, all⟩ := more
  rw [asleep, asleep, ← all, List.map_append, List.sum_append]
  exact Nat.le_add_left _ _

theorem sleepTimes_succ (clock : ManualClock) (nap : Duration) (times : Nat) :
    clock.sleepTimes nap (times + 1) = (clock.sleepTimes nap times).sleep nap := by
  induction times generalizing clock with
  | zero => rfl
  | succ times ih => exact ih (clock.sleep nap)

theorem naps_sleepTimes (clock : ManualClock) (nap : Duration) (times : Nat) :
    (clock.sleepTimes nap times).naps = List.replicate times nap ++ clock.naps := by
  induction times with
  | zero => rfl
  | succ times ih =>
      rw [sleepTimes_succ]
      show nap :: (clock.sleepTimes nap times).naps = _
      rw [ih]
      rfl

theorem asleep_sleepTimes (clock : ManualClock) (nap : Duration) (times : Nat) :
    (clock.sleepTimes nap times).asleep = clock.asleep + times * nap.millis.toNat := by
  induction times with
  | zero => simp [sleepTimes]
  | succ times ih => rw [sleepTimes_succ, asleep_sleep, ih, Nat.succ_mul, Nat.add_assoc]

/-- A hand that does not go round shows the time slept. -/
theorem toNat_now_sleepTimes {clock : ManualClock} {nap : Duration} {times : Nat}
    (fits : clock.now.toNat + times * nap.millis.toNat < 2 ^ 64) :
    (clock.sleepTimes nap times).now.toNat = clock.now.toNat + times * nap.millis.toNat := by
  induction times with
  | zero => simp [sleepTimes]
  | succ times ih =>
      rw [Nat.succ_mul] at fits ⊢
      rw [sleepTimes_succ]
      show ((clock.sleepTimes nap times).now + nap.millis).toNat = _
      rw [UInt64.toNat_add, ih (by omega), Nat.mod_eq_of_lt (by omega)]
      omega

end Time.ManualClock

namespace Tier

/-- The nap of a caller that is blocked on a tier. -/
def nap (tier : Tier) : Duration := .ofMillis tier.interval

@[simp]
theorem millis_nap (tier : Tier) : tier.nap.millis = tier.interval :=
  Duration.millis_ofMillis _

@[simp]
theorem nap_charge (tier : Tier) : tier.charge.nap = tier.nap := rfl

@[simp]
theorem interval_charge (tier : Tier) : tier.charge.interval = tier.interval := rfl

/-- No nap is shorter than the shortest poll interval. -/
theorem shortestPoll_le_interval (tier : Tier) : 50 ≤ tier.interval.toNat := by
  have atLeast : shortestPoll ≤ tier.interval := by
    show shortestPoll ≤ if shortestPoll ≤ _ then _ else shortestPoll
    split
    · next le => exact le
    · exact UInt64.le_refl _
  exact UInt64.le_iff_toNat_le.mp atLeast

theorem interval_of_rule_eq {first second : Tier} (same : first.rule = second.rule) :
    first.interval = second.interval := by
  rw [interval, interval, same]

theorem nap_of_rule_eq {first second : Tier} (same : first.rule = second.rule) :
    first.nap = second.nap := by
  rw [nap, nap, interval_of_rule_eq same]

/-! ## Looking in vain -/

/-- A caller naps on a tier, looks, finds it over budget, and naps again: so many looks in vain,
from a tier at an instant to the tier as the last look leaves it. -/
inductive Doze : Tier → ManualClock → Nat → Tier → Prop
  | nil {tier clock} : Doze tier clock 0 tier
  | look {tier next last clock units looks}
      (credited : tier.credit (clock.sleep tier.nap).now = .ok (units, next))
      (exceeds : next.overBudget = true)
      (rest : Doze next (clock.sleep tier.nap) looks last) :
      Doze tier clock (looks + 1) last

theorem Doze.rule_eq {tier last : Tier} {clock : ManualClock} {looks : Nat}
    (doze : Doze tier clock looks last) : last.rule = tier.rule := by
  induction doze with
  | nil => rfl
  | look credited exceeds rest ih => exact ih.trans (credit_rule credited)

/-- A backlog of no more than a quota is gone with the first credit; until then a look in vain
leaves the tier as it is. -/
theorem Doze.eq_of_count_le {tier last : Tier} {clock : ManualClock} {looks : Nat}
    (doze : Doze tier clock looks last) (positive : tier.rule.period ≠ 0)
    (small : tier.count.toNat ≤ tier.rule.quota.toNat + tier.rule.quota.toNat) : last = tier := by
  induction doze with
  | nil => rfl
  | look credited exceeds rest ih =>
      rcases credit_cases credited with ⟨-, -, rfl⟩ | ⟨late, sameRule, -, unitsEq, sum⟩
      · exact ih positive small
      · have due := Rule.quota_le_due positive (Nat.le_of_lt late)
        rw [overBudget_iff, sameRule] at exceeds
        omega

/-- A bound on the time until a tier has been credited `more` times after the next credit, for a
caller that waits from the instant `now` on. -/
def timeLeft (tier : Tier) (now more : Nat) : Nat :=
  (tier.windowStart.toNat + tier.rule.period.toNat - now) + tier.interval.toNat +
    more * (tier.rule.period.toNat + tier.interval.toNat)

/-- A look in vain brings the next credit closer, or it is a credit and one less is needed. -/
theorem exists_timeLeft_add_le {tier next : Tier} {now more : Nat} {look units : UInt64}
    (positive : tier.rule.period ≠ 0)
    (backlog : tier.count.toNat ≤ tier.rule.quota.toNat + (more + 1) * tier.rule.quota.toNat)
    (later : look.toNat = now + tier.interval.toNat)
    (credited : tier.credit look = .ok (units, next)) (exceeds : next.overBudget = true) :
    ∃ more', next.count.toNat ≤ tier.rule.quota.toNat + (more' + 1) * tier.rule.quota.toNat ∧
      next.timeLeft look.toNat more' + tier.interval.toNat ≤ tier.timeLeft now more := by
  rcases credit_cases credited with ⟨early, -, rfl⟩ | ⟨late, sameRule, start, unitsEq, sum⟩
  · refine ⟨more, backlog, ?_⟩
    rw [timeLeft, timeLeft]
    omega
  · have due := Rule.quota_le_due positive (Nat.le_of_lt late)
    rw [overBudget_iff, sameRule] at exceeds
    -- Whatever is still beyond the quota after a credit of a whole quota needs another credit.
    cases more with
    | zero => omega
    | succ more =>
        rw [Nat.succ_mul] at backlog
        refine ⟨more, by omega, ?_⟩
        rw [timeLeft, timeLeft, start, sameRule, interval_of_rule_eq sameRule, Nat.succ_mul]
        omega

/-- A caller that waits on a tier looks in vain for some time, and then either the next look finds
the tier within budget, or the clock goes round during the next nap. The time until then is bounded
by the credits that the backlog needs. -/
theorem exists_doze (tier : Tier) (clock : ManualClock) (more : Nat)
    (positive : tier.rule.period ≠ 0)
    (backlog : tier.count.toNat ≤ tier.rule.quota.toNat + (more + 1) * tier.rule.quota.toNat) :
    ∃ looks last, Doze tier clock looks last ∧
      (looks + 1) * tier.interval.toNat ≤ tier.timeLeft clock.now.toNat more ∧
      clock.now.toNat + looks * tier.interval.toNat < 2 ^ 64 ∧
      (2 ^ 64 ≤ clock.now.toNat + (looks + 1) * tier.interval.toNat ∨
        ∃ units next, last.credit (clock.sleepTimes tier.nap (looks + 1)).now = .ok (units, next) ∧
          next.overBudget = false) := by
  induction left : tier.timeLeft clock.now.toNat more using Nat.strong_induction_on
    generalizing tier clock more with
  | _ left' ih =>
      subst left
      have long := tier.shortestPoll_le_interval
      have shown := clock.now.toNat_lt
      have first : tier.interval.toNat ≤ tier.timeLeft clock.now.toNat more := by
        rw [timeLeft]
        omega
      by_cases wraps : 2 ^ 64 ≤ clock.now.toNat + tier.interval.toNat
      · exact ⟨0, tier, .nil, by omega, by omega, Or.inl (by omega)⟩
      · have later : (clock.sleep tier.nap).now.toNat =
            clock.now.toNat + tier.interval.toNat := by
          have fits : clock.now.toNat + 1 * tier.nap.millis.toNat < 2 ^ 64 := by
            rw [millis_nap]
            omega
          have shows := ManualClock.toNat_now_sleepTimes fits
          rwa [millis_nap, Nat.one_mul] at shows
        obtain ⟨units, next, credited⟩ :=
          exists_credit_eq_ok (clock.sleep tier.nap).now positive
        cases exceeds : next.overBudget with
        | false =>
            exact ⟨0, tier, .nil, by omega, by omega, Or.inr ⟨units, next, credited, exceeds⟩⟩
        | true =>
            obtain ⟨more', backlog', closer⟩ :=
              exists_timeLeft_add_le positive backlog later credited exceeds
            have sameRule := credit_rule credited
            have sameInterval := interval_of_rule_eq sameRule
            obtain ⟨looks, last, doze, bound, fits, ends⟩ :=
              ih _ (by omega) next (clock.sleep tier.nap) more' (sameRule ▸ positive)
                (sameRule ▸ backlog') rfl
            rw [later, sameInterval] at fits ends
            rw [sameInterval] at bound
            rw [nap_of_rule_eq sameRule] at ends
            refine ⟨looks + 1, last, .look credited exceeds doze, ?_, ?_, ?_⟩
            · rw [Nat.succ_mul]
              omega
            · rw [Nat.succ_mul]
              omega
            · rw [Nat.succ_mul (looks + 1)]
              rcases ends with wraps | released
              · exact Or.inl (by omega)
              · exact Or.inr released

/-! ## Getting past a tier -/

/-- A caller reaches a tier and, with nobody else around, gets past it after so many naps. -/
inductive Visit (tier : Tier) (clock : ManualClock) : Nat → Tier → Prop
  /-- The unit is within the budget. -/
  | enter (within : tier.charge.overBudget = false) : Visit tier clock 0 tier.charge
  /-- The unit is beyond the budget; the caller naps until a look finds the tier within it. -/
  | wait {looks last units next} (exceeds : tier.charge.overBudget = true)
      (doze : Doze tier.charge clock looks last)
      (credited : last.credit (clock.sleepTimes tier.nap (looks + 1)).now = .ok (units, next))
      (within : next.overBudget = false) : Visit tier clock (looks + 1) next

namespace Visit

variable {tier next : Tier} {clock : ManualClock} {naps : Nat}

theorem rule_eq (visit : Visit tier clock naps next) : next.rule = tier.rule := by
  cases visit with
  | enter within => rfl
  | wait exceeds doze credited within => exact (credit_rule credited).trans doze.rule_eq

theorem within (visit : Visit tier clock naps next) : next.overBudget = false := by
  cases visit with
  | enter within => exact within
  | wait exceeds doze credited within => exact within

end Visit

/-- The longest time that a caller can be held by a tier which it reaches at the instant `now`:
nothing if there is room, and otherwise the time until the window starts and a period and a nap for
every credit that the backlog needs. -/
def longestWait (tier : Tier) (now : Nat) : Nat :=
  if tier.rule.quota.toNat ≤ tier.count.toNat then
    (tier.windowStart.toNat - now) +
      (tier.count.toNat + 1 - tier.rule.quota.toNat) ⌈/⌉ tier.rule.quota.toNat *
        (tier.rule.period.toNat + tier.interval.toNat)
  else 0

theorem longestWait_anti (tier : Tier) {now later : Nat} (le : now ≤ later) :
    tier.longestWait later ≤ tier.longestWait now := by
  rw [longestWait, longestWait]
  split <;> omega

/-- A caller gets past a tier within the longest wait, unless the clock goes round before. -/
theorem exists_visit (tier : Tier) (clock : ManualClock) (enforceable : tier.rule.Enforceable) :
    (∃ naps next, Visit tier clock naps next ∧
      naps * tier.interval.toNat ≤ tier.longestWait clock.now.toNat ∧
      clock.now.toNat + naps * tier.interval.toNat < 2 ^ 64) ∨
    ∃ looks last, tier.charge.overBudget = true ∧ Doze tier.charge clock looks last ∧
      (looks + 1) * tier.interval.toNat ≤ tier.longestWait clock.now.toNat ∧
      clock.now.toNat + looks * tier.interval.toNat < 2 ^ 64 ∧
      2 ^ 64 ≤ clock.now.toNat + (looks + 1) * tier.interval.toNat := by
  cases exceeds : tier.charge.overBudget with
  | false =>
      have shown := clock.now.toNat_lt
      exact Or.inl ⟨0, tier.charge, .enter exceeds, by omega, by omega⟩
  | true =>
      have quota := enforceable.quota_pos
      have excess := (overBudget_iff tier.charge).mp exceeds
      have charged := tier.toNat_charge_count_le
      rw [charge_rule] at excess
      obtain ⟨more, credits⟩ : ∃ more,
          (tier.count.toNat + 1 - tier.rule.quota.toNat) ⌈/⌉ tier.rule.quota.toNat = more + 1 := by
        refine Nat.exists_eq_succ_of_ne_zero fun zero => ?_
        have none := (ceilDiv_le_iff_le_mul quota).mp (Nat.le_of_eq zero)
        omega
      have enough := (ceilDiv_le_iff_le_mul quota).mp (Nat.le_of_eq credits)
      rw [Nat.mul_comm] at enough
      obtain ⟨looks, last, doze, bound, fits, ends⟩ :=
        exists_doze tier.charge clock more enforceable.2 (by rw [charge_rule]; omega)
      have longest : tier.charge.timeLeft clock.now.toNat more ≤
          tier.longestWait clock.now.toNat := by
        rw [timeLeft, longestWait, if_pos (by omega), credits, charge_windowStart, charge_rule,
          interval_charge, Nat.succ_mul]
        omega
      rcases ends with wraps | ⟨units, next, credited, within⟩
      · exact Or.inr ⟨looks, last, rfl, doze, Nat.le_trans bound longest, fits, wraps⟩
      · by_cases wraps : 2 ^ 64 ≤ clock.now.toNat + (looks + 1) * tier.interval.toNat
        · exact Or.inr ⟨looks, last, rfl, doze, Nat.le_trans bound longest, fits, wraps⟩
        · exact Or.inl ⟨looks + 1, next, .wait exceeds doze credited within,
            Nat.le_trans bound longest, by omega⟩

end Tier

end FlowGate
