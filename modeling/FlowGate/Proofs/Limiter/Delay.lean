/-
# How long a call can be delayed

A call has no limit on its time: it waits on every tier until the tier is back within budget. That
it comes back nevertheless, and when at the latest, is shown here for a limiter whose tiers are in
any state at all, with counts far beyond the quota and windows that start in the future, as failed
calls and a clock that was set back leave them. The caller must be alone, and the clock must not go
round before the longest delay is over; past that instant all windows would start in the future.
-/

import FlowGate.Proofs.Limiter.Alone

namespace FlowGate.Limiter

open Time (Duration)

/-- On a limiter that was built, whatever its tiers have come to, a call that nobody disturbs
returns, and no later than the longest delay of the tiers, unless the clock goes round before. All
its naps are naps on tiers that blocked it, and it leaves every tier within budget. -/
theorem control_returns_within_longestDelay {settings : List Setting} {start : UInt64}
    {limiter : Limiter} (built : build settings start = .ok limiter) {world : World}
    (rules : world.limiter.rules = limiter.rules) (unscripted : world.script = [])
    (works : world.answers = none)
    (fits : world.clock.now.toNat +
      Tier.longestDelay world.limiter.tiers world.clock.now.toNat < 2 ^ 64) :
    ∃ after delay, world.control = (after, .returned delay) ∧
      delay.toNat ≤ Tier.longestDelay world.limiter.tiers world.clock.now.toNat ∧
      (∃ naps, after.clock.naps = naps ++ world.clock.naps ∧
        ∀ nap ∈ naps, ∃ (place : Nat) (tier : Tier), world.limiter.tiers[place]? = some tier ∧
          world.blocksOn place = true ∧ nap = Duration.ofMillis tier.interval) ∧
      after.limiter.rules = limiter.rules ∧
      ∀ tier ∈ after.limiter.tiers, tier.count.toNat ≤ tier.rule.quota.toNat := by
  have enforceable : ∀ tier ∈ world.limiter.tiers, tier.rule.Enforceable := fun tier there =>
    enforceable_of_build built _ (rules ▸ List.mem_map_of_mem there)
  rcases Tier.exists_passage world.limiter.tiers world.clock enforceable with
    ⟨counts, nexts, last, passage, fitsToo, bounds⟩ | ⟨counts, -, beyond⟩
  · obtain ⟨after, delay, served⟩ := World.exists_served unscripted works passage fitsToo
    refine ⟨after, delay, served.control_eq, ?_, ?_, ?_, ?_⟩
    · rw [served.delay_eq]
      exact Tier.sleepTime_le_longestDelay bounds
    · obtain ⟨naps, all, listed⟩ := passage.naps_eq
      refine ⟨naps, by rw [served.clock_eq, all], fun nap napped => ?_⟩
      obtain ⟨place, tier, times, here, there, some, rfl⟩ := listed nap napped
      exact ⟨place, tier, here, (served.blocksOn_iff place).mpr ⟨times, there, some⟩, rfl⟩
    · rw [Limiter.rules, served.tiers_eq, passage.rules_eq]
      exact rules
    · rw [served.tiers_eq]
      exact fun tier listed => (Tier.overBudget_eq_false_iff tier).mp (passage.within tier listed)
  · omega

/-- Two tiers as failed calls and a clock that was set back can leave them: both are far over
budget, and their windows start in the future. -/
def overdrawn : World where
  limiter := { tiers := [⟨⟨1, 1000⟩, 3, 5000⟩, ⟨⟨2, 3000⟩, 4, 8000⟩] }
  clock := { now := 2000 }

/-- The first tier holds the call as long as it can, for 6300 milliseconds; of the longest wait on
the second one half is over by then. -/
theorem control_overdrawn :
    let limiter := ofRules [⟨1, 1000⟩, ⟨2, 3000⟩] 0
    build [.tier 1 ⟨1, 0, by decide⟩, .tier 2 ⟨3, 0, by decide⟩] 0 = .ok limiter ∧
      overdrawn.limiter.rules = limiter.rules ∧ overdrawn.script = [] ∧ overdrawn.answers = none ∧
      Tier.longestDelay overdrawn.limiter.tiers 2000 = 6300 + 12600 ∧
      overdrawn.control.2 = .returned 12600 ∧
      ∃ after delay, overdrawn.control = (after, .returned delay) ∧ delay.toNat ≤ 18900 ∧
        ∀ tier ∈ after.limiter.tiers, tier.count.toNat ≤ tier.rule.quota.toNat := by
  intro limiter
  have built : build [.tier 1 ⟨1, 0, by decide⟩, .tier 2 ⟨3, 0, by decide⟩] 0 = .ok limiter := by
    decide +kernel
  have rules : overdrawn.limiter.rules = limiter.rules := by decide +kernel
  have longest : Tier.longestDelay overdrawn.limiter.tiers 2000 = 18900 := by decide +kernel
  have fits : overdrawn.clock.now.toNat +
      Tier.longestDelay overdrawn.limiter.tiers overdrawn.clock.now.toNat < 2 ^ 64 := by
    decide +kernel
  have ends : overdrawn.control.2 = .returned 12600 := by decide +kernel
  obtain ⟨after, delay, returned, bound, -, -, within⟩ :=
    control_returns_within_longestDelay built rules rfl rfl fits
  exact ⟨built, rules, rfl, rfl, longest, ends, after, delay, returned, longest ▸ bound, within⟩

end FlowGate.Limiter
