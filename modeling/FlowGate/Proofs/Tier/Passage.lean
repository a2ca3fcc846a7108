/-
# Getting past a list of tiers

A caller that is alone reaches each tier when it has left the one before, so the naps on one tier
are time that passes for all that follow; it can only help there, since no longest wait grows with
time. `Passage` lists the naps on each tier and the tiers afterwards, `Stall` the naps of a caller
whose clock goes round before it is done, and `exists_passage` says that one of the two is the case.
Nothing here knows of calls or of how they are run.
-/

import FlowGate.Proofs.Tier.Waiting
import Mathlib.Algebra.Order.BigOperators.Group.List

namespace FlowGate.Tier

open Time (ManualClock)

/-- A caller gets past tiers in order, each reached at the instant at which the one before was left:
the naps on each of them, the tiers afterwards, and the clock. -/
inductive Passage : List Tier → ManualClock → List Nat → List Tier → ManualClock → Prop
  | nil {clock} : Passage [] clock [] [] clock
  | cons {tier next tiers nexts clock naps counts last} (visit : Visit tier clock naps next)
      (rest : Passage tiers (clock.sleepTimes tier.nap naps) counts nexts last) :
      Passage (tier :: tiers) clock (naps :: counts) (next :: nexts) last

/-- A caller gets past some tiers in order, and on the next one it naps until the clock goes round;
the tiers from there on do not matter. -/
inductive Stall : List Tier → ManualClock → List Nat → Prop
  | here {tier tiers clock looks last} (exceeds : tier.charge.overBudget = true)
      (doze : Doze tier.charge clock looks last)
      (fits : clock.now.toNat + looks * tier.interval.toNat < 2 ^ 64)
      (wraps : 2 ^ 64 ≤ clock.now.toNat + (looks + 1) * tier.interval.toNat) :
      Stall (tier :: tiers) clock [looks + 1]
  | later {tier next tiers clock naps counts} (visit : Visit tier clock naps next)
      (fits : clock.now.toNat + naps * tier.interval.toNat < 2 ^ 64)
      (rest : Stall tiers (clock.sleepTimes tier.nap naps) counts) :
      Stall (tier :: tiers) clock (naps :: counts)

/-- The milliseconds slept in so many naps on each of the tiers. -/
def sleepTime : List Tier → List Nat → Nat
  | tier :: tiers, naps :: counts => naps * tier.interval.toNat + sleepTime tiers counts
  | _, _ => 0

@[simp]
theorem sleepTime_nil (tiers : List Tier) : sleepTime tiers [] = 0 := by
  cases tiers <;> rfl

/-- The longest time that a caller can be held by tiers altogether, the first reached at `now`. -/
def longestDelay (tiers : List Tier) (now : Nat) : Nat :=
  (tiers.map (·.longestWait now)).sum

theorem toNat_now_after {tier : Tier} {clock : ManualClock} {naps : Nat}
    (fits : clock.now.toNat + naps * tier.interval.toNat < 2 ^ 64) :
    (clock.sleepTimes tier.nap naps).now.toNat =
      clock.now.toNat + naps * tier.interval.toNat := by
  rw [← millis_nap] at fits ⊢
  exact ManualClock.toNat_now_sleepTimes fits

theorem longestDelay_anti (tiers : List Tier) {now later : Nat} (le : now ≤ later) :
    longestDelay tiers later ≤ longestDelay tiers now :=
  List.sum_le_sum fun tier _ => tier.longestWait_anti le

/-- Tiers that hold a caller no longer than their longest waits do so altogether, too. -/
theorem sleepTime_le_longestDelay {tiers : List Tier} {counts : List Nat} {now : Nat}
    (bounds : ∀ (place : Nat) (tier : Tier) (naps : Nat), tiers[place]? = some tier →
      counts[place]? = some naps → naps * tier.interval.toNat ≤ tier.longestWait now) :
    sleepTime tiers counts ≤ longestDelay tiers now := by
  induction tiers generalizing counts with
  | nil => exact Nat.zero_le _
  | cons tier tiers ih =>
      cases counts with
      | nil => exact Nat.zero_le _
      | cons naps counts =>
          have first := bounds 0 tier naps rfl rfl
          have rest := ih fun place tier' naps' here there =>
            bounds (place + 1) tier' naps' here there
          rw [longestDelay] at rest ⊢
          rw [sleepTime, List.map_cons, List.sum_cons]
          omega

namespace Passage

variable {tiers nexts : List Tier} {clock last : ManualClock} {counts : List Nat}

theorem length_eq (passage : Passage tiers clock counts nexts last) :
    counts.length = tiers.length ∧ nexts.length = tiers.length := by
  induction passage with
  | nil => exact ⟨rfl, rfl⟩
  | cons visit rest ih => simp [ih]

theorem asleep_eq (passage : Passage tiers clock counts nexts last) :
    last.asleep = clock.asleep + sleepTime tiers counts := by
  induction passage with
  | nil => rfl
  | cons visit rest ih =>
      rw [ih, ManualClock.asleep_sleepTimes, millis_nap, sleepTime, Nat.add_assoc]

theorem length_naps_eq (passage : Passage tiers clock counts nexts last) :
    last.naps.length = clock.naps.length + counts.sum := by
  induction passage with
  | nil => rfl
  | cons visit rest ih =>
      rw [ih, ManualClock.naps_sleepTimes, List.length_append, List.length_replicate,
        List.sum_cons]
      omega

/-- The naps on the way are those of the tiers on which there are any. -/
theorem naps_eq (passage : Passage tiers clock counts nexts last) :
    ∃ naps, last.naps = naps ++ clock.naps ∧
      ∀ nap ∈ naps, ∃ (place : Nat) (tier : Tier) (times : Nat), tiers[place]? = some tier ∧
        counts[place]? = some times ∧ 0 < times ∧ nap = tier.nap := by
  induction passage with
  | nil => exact ⟨[], rfl, by simp⟩
  | @cons tier next tiers nexts clock times counts last visit rest ih =>
      obtain ⟨naps, later, listed⟩ := ih
      refine ⟨naps ++ List.replicate times tier.nap, ?_, fun nap napped => ?_⟩
      · rw [later, ManualClock.naps_sleepTimes, List.append_assoc]
      · rcases List.mem_append.mp napped with there | here
        · obtain ⟨place, tier', times', found⟩ := listed nap there
          exact ⟨place + 1, tier', times', found⟩
        · obtain ⟨some, rfl⟩ := List.mem_replicate.mp here
          exact ⟨0, tier, times, rfl, rfl, Nat.pos_of_ne_zero some, rfl⟩

theorem rules_eq (passage : Passage tiers clock counts nexts last) :
    nexts.map Tier.rule = tiers.map Tier.rule := by
  induction passage with
  | nil => rfl
  | cons visit rest ih => rw [List.map_cons, List.map_cons, visit.rule_eq, ih]

/-- Whoever gets past tiers leaves all of them within budget. -/
theorem within (passage : Passage tiers clock counts nexts last) :
    ∀ next ∈ nexts, next.overBudget = false := by
  induction passage with
  | nil => simp
  | cons visit rest ih => exact List.forall_mem_cons.mpr ⟨visit.within, ih⟩

/-- A hand that does not go round shows the time slept. -/
theorem toNat_now_eq (passage : Passage tiers clock counts nexts last)
    (fits : clock.now.toNat + sleepTime tiers counts < 2 ^ 64) :
    last.now.toNat = clock.now.toNat + sleepTime tiers counts := by
  induction passage with
  | nil => rfl
  | cons visit rest ih =>
      rw [sleepTime] at fits ⊢
      have after := toNat_now_after (Nat.lt_of_le_of_lt (Nat.add_le_add_left
        (Nat.le_add_right _ _) _) fits)
      rw [after, Nat.add_assoc] at ih
      exact ih fits

/-- Every tier on the way is visited after the start, and left before the end. -/
theorem exists_visit (passage : Passage tiers clock counts nexts last)
    (fits : clock.now.toNat + sleepTime tiers counts < 2 ^ 64) {place : Nat} {tier : Tier}
    (here : tiers[place]? = some tier) :
    ∃ reached naps next, counts[place]? = some naps ∧ nexts[place]? = some next ∧
      Visit tier reached naps next ∧ clock.now.toNat ≤ reached.now.toNat ∧
      reached.now.toNat + naps * tier.interval.toNat ≤ last.now.toNat := by
  induction passage generalizing place with
  | nil => simp at here
  | @cons first _ _ _ clock naps counts last visit rest ih =>
      rw [sleepTime] at fits
      have left := toNat_now_after (Nat.lt_of_le_of_lt (Nat.add_le_add_left
        (Nat.le_add_right _ _) _) fits)
      cases place with
      | zero =>
          cases here
          have ends := rest.toNat_now_eq (by omega)
          exact ⟨clock, naps, _, rfl, rfl, visit, Nat.le_refl _, by omega⟩
      | succ place =>
          obtain ⟨reached, naps', next, there, after, visit', started, ended⟩ := ih (by omega) here
          exact ⟨reached, naps', next, there, after, visit', by omega, ended⟩

end Passage

/-- The naps of a caller that gets stalled reach past the end of the clock's range, by less than
one nap. -/
theorem Stall.le_sleepTime {tiers : List Tier} {clock : ManualClock} {counts : List Nat}
    (stall : Stall tiers clock counts) :
    2 ^ 64 ≤ clock.now.toNat + sleepTime tiers counts := by
  induction stall with
  | here exceeds doze fits wraps =>
      rw [sleepTime, sleepTime_nil]
      exact wraps
  | later visit fits rest ih =>
      rw [toNat_now_after fits] at ih
      rw [sleepTime]
      omega

/-- A caller that gets stalled takes no nap after the clock has gone round. -/
theorem Stall.sleepTime_lt {tiers : List Tier} {clock : ManualClock} {counts : List Nat}
    (stall : Stall tiers clock counts) :
    clock.now.toNat + sleepTime tiers counts < 2 ^ 64 + 2 ^ 64 := by
  induction stall with
  | @here tier tiers clock looks last exceeds doze fits wraps =>
      have nap := tier.interval.toNat_lt
      rw [sleepTime, sleepTime_nil, Nat.succ_mul]
      omega
  | later visit fits rest ih =>
      rw [toNat_now_after fits] at ih
      rw [sleepTime]
      omega

theorem Stall.length_le {tiers : List Tier} {clock : ManualClock} {counts : List Nat}
    (stall : Stall tiers clock counts) : counts.length ≤ tiers.length := by
  induction stall with
  | here exceeds doze fits wraps => simp
  | later visit fits rest ih => simpa using ih

/-- As every nap takes a while, there are not many of them in a given time. -/
theorem sum_le_sleepTime {tiers : List Tier} {counts : List Nat}
    (few : counts.length ≤ tiers.length) : 50 * counts.sum ≤ sleepTime tiers counts := by
  induction tiers generalizing counts with
  | nil =>
      rw [List.eq_nil_of_length_eq_zero (Nat.le_zero.mp few), sleepTime_nil]
      rfl
  | cons tier tiers ih =>
      cases counts with
      | nil => simp
      | cons naps counts =>
          have rest := ih (Nat.le_of_succ_le_succ few)
          have first := Nat.mul_le_mul_left naps tier.shortestPoll_le_interval
          rw [sleepTime, List.sum_cons]
          omega

theorem sleepTime_eq_zero {tiers : List Tier} {counts : List Nat} (none : counts.sum = 0) :
    sleepTime tiers counts = 0 := by
  induction tiers generalizing counts with
  | nil => rfl
  | cons tier tiers ih =>
      cases counts with
      | nil => rfl
      | cons naps counts =>
          rw [List.sum_cons, Nat.add_eq_zero_iff] at none
          rw [sleepTime, none.1, Nat.zero_mul, Nat.zero_add, ih none.2]

/-- Whoever reaches a list of tiers gets past all of them, held by none for longer than its longest
wait, or is stalled until the clock goes round, and then the longest waits go so far. -/
theorem exists_passage (tiers : List Tier) (clock : ManualClock)
    (enforceable : ∀ tier ∈ tiers, tier.rule.Enforceable) :
    (∃ counts nexts last, Passage tiers clock counts nexts last ∧
      clock.now.toNat + sleepTime tiers counts < 2 ^ 64 ∧
      ∀ (place : Nat) (tier : Tier) (naps : Nat), tiers[place]? = some tier →
        counts[place]? = some naps →
          naps * tier.interval.toNat ≤ tier.longestWait clock.now.toNat) ∨
    ∃ counts, Stall tiers clock counts ∧
      2 ^ 64 ≤ clock.now.toNat + longestDelay tiers clock.now.toNat := by
  induction tiers generalizing clock with
  | nil =>
      refine Or.inl ⟨[], [], clock, .nil, clock.now.toNat_lt, ?_⟩
      simp
  | cons tier tiers ih =>
      rw [List.forall_mem_cons] at enforceable
      rcases exists_visit tier clock enforceable.1 with
        ⟨naps, next, visit, bound, fits⟩ | ⟨looks, last, exceeds, doze, bound, fits, wraps⟩
      · have after := toNat_now_after fits
        have later : clock.now.toNat ≤ (clock.sleepTimes tier.nap naps).now.toNat := by omega
        rcases ih (clock.sleepTimes tier.nap naps) enforceable.2 with
          ⟨counts, nexts, last, passage, fitsRest, bounds⟩ | ⟨counts, stall, long⟩
        · refine Or.inl ⟨naps :: counts, next :: nexts, last, .cons visit passage, ?_, ?_⟩
          · rw [sleepTime]
            omega
          · rintro (_ | place) tier' naps' here there
            · cases here
              cases there
              exact bound
            · exact Nat.le_trans (bounds place tier' naps' here there)
                (tier'.longestWait_anti later)
        · refine Or.inr ⟨naps :: counts, .later visit fits stall, ?_⟩
          have less := longestDelay_anti tiers later
          rw [longestDelay, List.map_cons, List.sum_cons, ← longestDelay]
          omega
      · refine Or.inr ⟨[looks + 1], .here exceeds doze fits wraps, ?_⟩
        rw [longestDelay, List.map_cons, List.sum_cons]
        omega

end FlowGate.Tier
