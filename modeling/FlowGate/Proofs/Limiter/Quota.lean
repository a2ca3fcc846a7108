/-
# How many calls a tier lets past

Over a whole run a tier lets past its quota and what fell due since it was created, and no more,
whoever the callers are, in whatever order they step, and whatever their clocks show. The rounding
of single credits never adds up to more than one rounding of the whole, since each credit pays for
its own stretch of time and the stretches do not overlap.
-/

import FlowGate.Proofs.Limiter.Books

namespace FlowGate.Limiter

open Config (Rule)

/-- Whoever got past a tier either found room in the quota or used units that were given back. -/
theorem Books.passesAt_le {rule : Rule} {opened : UInt64} {place held : Nat} {tier : Tier}
    {past : List Deed} (books : Books rule opened place tier held past)
    (few : chargesAt place past < 2 ^ 64) :
    passesAt place past ≤ rule.quota.toNat + creditsAt place past := by
  have standing := books.standing
  have overdraft := books.overdraft
  have balance := books.balance few
  omega

/-- The units given back fell due between the creation of the tier and the latest reading. -/
theorem Books.creditsAt_le {rule : Rule} {opened : UInt64} {place held : Nat} {tier : Tier}
    {past : List Deed} (books : Books rule opened place tier held past)
    (positive : 0 < rule.period.toNat) :
    creditsAt place past ≤ rule.due (latestReading opened place past - opened.toNat) := by
  rw [Rule.due, Nat.le_div_iff_mul_le positive]
  calc
    creditsAt place past * rule.period.toNat ≤
        (tier.windowStart.toNat - opened.toNat) * rule.quota.toNat := books.funded
    _ ≤ (latestReading opened place past - opened.toNat) * rule.quota.toNat :=
      Nat.mul_le_mul_right _ (Nat.sub_le_sub_right books.le_latest _)

/-- In every run of a limiter that was built, the calls that get past a tier are at most its quota
and the share of the quota that falls due from the moment of building to the latest reading at the
tier. This holds of all tiers at once, of each as long as it has been charged fewer than 2^64
times. -/
theorem passesAt_le_quota_add_due {settings : List Setting} {start : UInt64} {limiter : Limiter}
    (built : build settings start = .ok limiter) (moves : List Move) :
    let deeds := (Crowd.play { limiter } moves).2
    ∀ place rule, limiter.rules[place]? = some rule → chargesAt place deeds < 2 ^ 64 →
      passesAt place deeds ≤ rule.quota.toNat +
        (latestReading start place deeds - start.toNat) * rule.quota.toNat / rule.period.toNat := by
  intro deeds place rule listed few
  obtain ⟨-, -, period⟩ := tier_of_build built listed
  have positive : 0 < rule.period.toNat := Nat.pos_of_ne_zero fun zero =>
    period (UInt64.toNat_inj.mp zero)
  obtain ⟨tier, -, books⟩ := books_of_build built moves listed
  calc
    passesAt place deeds ≤ rule.quota.toNat + creditsAt place deeds := books.passesAt_le few
    _ ≤ rule.quota.toNat + rule.due (latestReading start place deeds - start.toNat) :=
      Nat.add_le_add_left (books.creditsAt_le positive) _

/-- Three callers at a tier for one unit a second, built at 500: the first goes on, the others are
blocked; a look with the clock set back gives nothing, and a look at 2600 releases both. -/
def threeCallers : List Move :=
  [.join, .join, .join, .step 0 (some 500), .step 0 (some 600), .step 1 (some 600),
    .step 1 (some 600), .step 2 (some 700), .step 2 (some 700), .step 2 (some 400),
    .step 1 (some 2600), .step 2 (some 2600)]

/-- The bound is reached: all three get past, one by the quota and two by what fell due. -/
theorem passesAt_threeCallers :
    let rule : Rule := ⟨1, 1000⟩
    let limiter := ofRules [rule] 500
    let deeds := (Crowd.play { limiter } threeCallers).2
    let due := (latestReading 500 0 deeds - 500) * rule.quota.toNat / rule.period.toNat
    build [.list [rule]] 500 = .ok limiter ∧ limiter.rules[0]? = some rule ∧
      chargesAt 0 deeds < 2 ^ 64 ∧ passesAt 0 deeds = 3 ∧ due = 2 ∧
      passesAt 0 deeds ≤ rule.quota.toNat + due := by
  intro rule limiter deeds due
  have built : build [.list [rule]] 500 = .ok limiter := rfl
  have listed : limiter.rules[0]? = some rule := rfl
  have few : chargesAt 0 deeds < 2 ^ 64 := by decide +kernel
  refine ⟨built, listed, few, by decide +kernel, by decide +kernel, ?_⟩
  exact passesAt_le_quota_add_due built threeCallers 0 rule listed few

end FlowGate.Limiter
