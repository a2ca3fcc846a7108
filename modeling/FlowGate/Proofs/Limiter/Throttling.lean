/-
# How much a limiter holds back

The bound on the calls that a limiter lets past has a counterpart: it does not hold back more than
it has to. When calls are made one after the other, each on a clock that only moves forward, a tier
blocks at most one call out of as many as its quota, and one blocked call costs at most a period and
a nap. What is counted for that is what the calls consumed: a blocked call leaves at most one unit
behind, itself, so the next call that is blocked comes a whole quota later, however long or short
the pauses are. Naps on one tier are pauses for all others, so tiers never add to each other's
blocks.
-/

import FlowGate.Proofs.Limiter.Delay

namespace FlowGate

open Config (Rule)
open Time (Duration ManualClock)

/-! ## One tier -/

/-- What a tier shows at the instant `now` after so many calls, one after the other, so many of
which it blocked. -/
structure Tier.Tally (calls blocks now : Nat) (tier : Tier) : Prop where
  /-- The window has started. -/
  started : tier.windowStart.toNat ≤ now
  within : tier.count.toNat ≤ tier.rule.quota.toNat
  /-- For every block a whole quota was consumed that is not counted any more. -/
  spent : tier.rule.quota.toNat * blocks + tier.count.toNat ≤ calls
  /-- The call that was blocked last is not one of those that had consumed the quota before it. -/
  paid : tier.rule.quota.toNat * blocks ≤ calls - 1

namespace Tier.Tally

variable {tier next : Tier} {calls blocks now : Nat}

theorem fresh (rule : Rule) (start : UInt64) : Tally 0 0 start.toNat (create rule start) where
  started := Nat.le_refl _
  within := Nat.zero_le _
  spent := Nat.le_refl _
  paid := Nat.le_refl _

theorem later (tally : Tally calls blocks now tier) {after : Nat} (le : now ≤ after) :
    Tally calls blocks after tier where
  started := Nat.le_trans tally.started le
  within := tally.within
  spent := tally.spent
  paid := tally.paid

/-- A tier within budget never holds a call for longer than a period and a nap. -/
theorem longestWait_le (tally : Tally calls blocks now tier) (enforceable : tier.rule.Enforceable) :
    tier.longestWait now ≤ tier.rule.period.toNat + tier.interval.toNat := by
  have quota := enforceable.quota_pos
  have started := tally.started
  have within := tally.within
  have once : (tier.count.toNat + 1 - tier.rule.quota.toNat) ⌈/⌉ tier.rule.quota.toNat ≤ 1 :=
    (ceilDiv_le_iff_le_mul quota).mpr (by omega)
  rw [longestWait]
  split
  · calc
      _ ≤ 0 + 1 * (tier.rule.period.toNat + tier.interval.toNat) :=
        Nat.add_le_add (by omega) (Nat.mul_le_mul_right _ once)
      _ = tier.rule.period.toNat + tier.interval.toNat := by omega
  · exact Nat.zero_le _

/-- A call that gets past the tier is entered in the tally. If it was blocked, the whole quota had
been consumed, and the credit that released it left at most its own unit. -/
theorem visit (tally : Tally calls blocks now tier) (enforceable : tier.rule.Enforceable)
    {clock : ManualClock} {naps : Nat} (visit : Visit tier clock naps next)
    (reached : now ≤ clock.now.toNat)
    (fits : clock.now.toNat + naps * tier.interval.toNat < 2 ^ 64) :
    Tally (calls + 1) (blocks + (decide (0 < naps)).toNat)
      (clock.now.toNat + naps * tier.interval.toNat) next := by
  have started := tally.started
  have within := tally.within
  have spent := tally.spent
  have paid := tally.paid
  have charged := tier.toNat_charge_count_le
  cases visit with
  | enter entered =>
      rw [overBudget_eq_false_iff, charge_rule] at entered
      refine ⟨?_, entered, ?_, ?_⟩
      · rw [charge_windowStart]
        omega
      · show tier.rule.quota.toNat * blocks + _ ≤ _
        omega
      · show tier.rule.quota.toNat * blocks ≤ _
        omega
  | @wait looks last units next exceeds doze credited released =>
      have quota := enforceable.quota_pos
      rw [overBudget_iff, charge_rule] at exceeds
      obtain rfl := doze.eq_of_count_le enforceable.2 (by rw [charge_rule]; omega)
      have look := toNat_now_after fits
      rw [overBudget_eq_false_iff] at released
      rcases credit_cases credited with ⟨-, -, rfl⟩ | ⟨late, sameRule, start, unitsEq, sum⟩
      · rw [charge_rule] at released
        omega
      · have due := Rule.quota_le_due enforceable.2 (Nat.le_of_lt late)
        have blocked : (decide (0 < looks + 1)).toNat = 1 := by simp
        rw [charge_rule] at unitsEq sameRule
        rw [blocked]
        refine ⟨?_, released, ?_, ?_⟩
        · rw [start]
          omega
        · rw [sameRule, Nat.mul_succ]
          omega
        · rw [sameRule, Nat.mul_succ]
          omega

end Tier.Tally

/-! ## All tiers -/

/-- The time that a period and a nap for every block on each of the tiers takes. -/
def Tier.costOf : List Rule → (Nat → Nat) → Nat
  | [], _ => 0
  | rule :: rules, blocks =>
    blocks 0 * (rule.period.toNat + (pollInterval rule.period).toNat) +
      costOf rules fun place => blocks (place + 1)

namespace Tier

theorem costOf_add (rules : List Rule) (first second : Nat → Nat) :
    costOf rules (fun place => first place + second place) =
      costOf rules first + costOf rules second := by
  induction rules generalizing first second with
  | nil => rfl
  | cons rule rules ih =>
      rw [costOf, costOf, costOf, ih, Nat.add_mul]
      omega

theorem costOf_le_sum {rules : List Rule} {blocks : Nat → Nat} {bound : Rule → Nat}
    (few : ∀ (place : Nat) (rule : Rule), rules[place]? = some rule → blocks place ≤ bound rule) :
    costOf rules blocks ≤ (rules.map fun rule =>
      bound rule * (rule.period.toNat + (pollInterval rule.period).toNat)).sum := by
  induction rules generalizing blocks with
  | nil => exact Nat.zero_le _
  | cons rule rules ih =>
      rw [costOf, List.map_cons, List.sum_cons]
      exact Nat.add_le_add (Nat.mul_le_mul_right _ (few 0 rule rfl))
        (ih fun place rule' listed => few (place + 1) rule' listed)

/-- Tiers that hold a call for at most a period and a nap each, if at all. -/
theorem sleepTime_le_costOf {tiers : List Tier} {counts : List Nat} {blocked : Nat → Bool}
    (bounds : ∀ (place : Nat) (tier : Tier) (naps : Nat), tiers[place]? = some tier →
      counts[place]? = some naps → naps * tier.interval.toNat ≤
        (blocked place).toNat * (tier.rule.period.toNat + tier.interval.toNat)) :
    sleepTime tiers counts ≤
      costOf (tiers.map Tier.rule) (fun place => (blocked place).toNat) := by
  induction tiers generalizing counts blocked with
  | nil => exact Nat.zero_le _
  | cons tier tiers ih =>
      cases counts with
      | nil => exact Nat.zero_le _
      | cons naps counts =>
          rw [sleepTime, List.map_cons, costOf]
          exact Nat.add_le_add (bounds 0 tier naps rfl rfl)
            (ih fun place tier' naps' here there => bounds (place + 1) tier' naps' here there)

end Tier

namespace Limiter

/-- One call among several: the world in which it was made, and how it ended. -/
structure Attempt where
  before : World
  ending : Ending

namespace World

/-- Let a pause pass. -/
def paused (world : World) (pause : Duration) : World :=
  { world with clock := world.clock.advance pause }

/-- Call after each of the pauses in turn. -/
def callAfter (world : World) : List Duration → World × List Attempt
  | [] => (world, [])
  | pause :: pauses =>
    let before := world.paused pause
    let later := before.control.1.callAfter pauses
    (later.1, ⟨before, before.control.2⟩ :: later.2)

theorem callAfter_cons (world : World) (pause : Duration) (pauses : List Duration) :
    (world.callAfter (pause :: pauses)).1 =
        ((world.paused pause).control.1.callAfter pauses).1 ∧
      (world.callAfter (pause :: pauses)).2 =
        ⟨world.paused pause, (world.paused pause).control.2⟩ ::
          ((world.paused pause).control.1.callAfter pauses).2 := ⟨rfl, rfl⟩

theorem toNat_now_paused {world : World} {pause : Duration}
    (fits : world.clock.now.toNat + pause.millis.toNat < 2 ^ 64) :
    (world.paused pause).clock.now.toNat = world.clock.now.toNat + pause.millis.toNat := by
  show (world.clock.now + pause.millis).toNat = _
  rw [UInt64.toNat_add, Nat.mod_eq_of_lt fits]

theorem Served.blocksOn_eq {world after : World} {counts : List Nat} {nexts : List Tier}
    {last : ManualClock} {delay : UInt64} (served : world.Served counts nexts last after delay)
    {place naps : Nat} (there : counts[place]? = some naps) :
    world.blocksOn place = decide (0 < naps) := by
  rw [Bool.eq_iff_iff, served.blocksOn_iff, there, decide_eq_true_iff]
  simp

/-- A world in which so many calls were made one after the other, and `blocks` tells how many of
them the tier at a place has blocked. -/
structure Tallied (rules : List Rule) (calls : Nat) (blocks : Nat → Nat) (world : World) :
    Prop where
  rules_eq : world.limiter.rules = rules
  unscripted : world.script = []
  works : world.answers = none
  tally (place : Nat) (tier : Tier) : world.limiter.tiers[place]? = some tier →
    tier.Tally calls (blocks place) world.clock.now.toNat

namespace Tallied

variable {rules : List Rule} {calls : Nat} {blocks : Nat → Nat} {world : World}

/-- The world of a limiter that was just built. -/
theorem start {settings : List Setting} {start : UInt64} {limiter : Limiter}
    (built : build settings start = .ok limiter) :
    Tallied limiter.rules 0 (fun _ => 0) (Session.start limiter start).world where
  rules_eq := rfl
  unscripted := rfl
  works := rfl
  tally place tier here := by
    have listed : limiter.rules[place]? = some tier.rule := by
      rw [Limiter.rules, List.getElem?_map]
      exact congrArg (Option.map Tier.rule) here
    have fresh := (tier_of_build built listed).1
    rw [Option.some.inj (here.symm.trans fresh)]
    exact .fresh _ _

theorem enforceable (tallied : Tallied rules calls blocks world)
    (all : ∀ rule ∈ rules, rule.Enforceable) :
    ∀ tier ∈ world.limiter.tiers, tier.rule.Enforceable := fun _ listed =>
  all _ (tallied.rules_eq ▸ List.mem_map_of_mem listed)

/-- Pausing makes no difference to the tallies. -/
theorem advance (tallied : Tallied rules calls blocks world) {pause : Duration}
    (fits : world.clock.now.toNat + pause.millis.toNat < 2 ^ 64) :
    Tallied rules calls blocks (world.paused pause) where
  rules_eq := tallied.rules_eq
  unscripted := tallied.unscripted
  works := tallied.works
  tally place tier here := by
    refine (tallied.tally place tier here).later ?_
    rw [toNat_now_paused fits]
    exact Nat.le_add_right _ _

variable {counts : List Nat} {nexts : List Tier} {last : ManualClock} {after : World}
  {delay : UInt64}

/-- Every tier that a call gets past enters it in its tally. -/
theorem served (tallied : Tallied rules calls blocks world)
    (all : ∀ rule ∈ rules, rule.Enforceable)
    (passage : Tier.Passage world.limiter.tiers world.clock counts nexts last)
    (fits : world.clock.now.toNat + Tier.sleepTime world.limiter.tiers counts < 2 ^ 64)
    (served : world.Served counts nexts last after delay) :
    Tallied rules (calls + 1) (fun place => blocks place + (world.blocksOn place).toNat) after := by
  refine ⟨?_, served.unscripted, served.works, fun place next there => ?_⟩
  · rw [Limiter.rules, served.tiers_eq, passage.rules_eq]
    exact tallied.rules_eq
  · rw [served.tiers_eq] at there
    have inside : place < world.limiter.tiers.length := by
      rw [← passage.length_eq.2]
      exact (List.getElem?_eq_some_iff.mp there).1
    have here := List.getElem?_eq_getElem inside
    obtain ⟨reached, naps, next', counted, there', visit, started, ended⟩ :=
      passage.exists_visit fits here
    obtain rfl : next = next' := Option.some.inj (there.symm.trans there')
    have entered := (tallied.tally place _ here).visit
      (tallied.enforceable all _ (List.getElem_mem inside)) visit started
      (Nat.lt_of_le_of_lt ended last.now.toNat_lt)
    rw [served.clock_eq, served.blocksOn_eq counted]
    exact entered.later ended

/-- The naps of a call take at most a period and a nap for each tier that blocks it. -/
theorem sleepTime_le (tallied : Tallied rules calls blocks world)
    (all : ∀ rule ∈ rules, rule.Enforceable)
    (served : world.Served counts nexts last after delay)
    (bounds : ∀ (place : Nat) (tier : Tier) (naps : Nat), world.limiter.tiers[place]? = some tier →
      counts[place]? = some naps →
        naps * tier.interval.toNat ≤ tier.longestWait world.clock.now.toNat) :
    Tier.sleepTime world.limiter.tiers counts ≤
      Tier.costOf rules (fun place => (world.blocksOn place).toNat) := by
  rw [← tallied.rules_eq]
  refine Tier.sleepTime_le_costOf fun place tier naps here there => ?_
  rw [served.blocksOn_eq there]
  rcases Nat.eq_zero_or_pos naps with rfl | napped
  · simp
  · rw [decide_eq_true napped, Bool.toNat_true, Nat.one_mul]
    exact Nat.le_trans (bounds place tier naps here there)
      ((tallied.tally place tier here).longestWait_le
        (tallied.enforceable all tier (List.mem_of_getElem? here)))

/-- A call returns after a delay of at most a period and a nap for each tier that blocked it. -/
theorem control (tallied : Tallied rules calls blocks world)
    (all : ∀ rule ∈ rules, rule.Enforceable)
    (fits : world.clock.now.toNat + world.control.1.clock.asleep < 2 ^ 64 + world.clock.asleep) :
    ∃ delay, world.control.2 = .returned delay ∧
      delay.toNat ≤ Tier.costOf rules (fun place => (world.blocksOn place).toNat) ∧
      world.control.1.clock.now.toNat + world.clock.asleep =
        world.clock.now.toNat + world.control.1.clock.asleep ∧
      Tallied rules (calls + 1) (fun place => blocks place + (world.blocksOn place).toNat)
        world.control.1 := by
  obtain ⟨counts, nexts, last, after, delay, passage, fitsToo, bounds, served⟩ :=
    exists_served_of_fits (tallied.enforceable all) tallied.unscripted tallied.works fits
  have shows := passage.toNat_now_eq fitsToo
  have slept := passage.asleep_eq
  rw [served.control_eq]
  refine ⟨delay, rfl, ?_, ?_, tallied.served all passage fitsToo served⟩
  · rw [served.delay_eq]
    exact tallied.sleepTime_le all served bounds
  · rw [served.clock_eq]
    omega

end Tallied

/-- How many of these calls were blocked on the tier at a place. -/
def blocksAmong (attempts : List Attempt) (place : Nat) : Nat :=
  attempts.countP (·.before.blocksOn place)

theorem blocksAmong_cons (attempt : Attempt) (attempts : List Attempt) (place : Nat) :
    blocksAmong (attempt :: attempts) place =
      (attempt.before.blocksOn place).toNat + blocksAmong attempts place := by
  rw [blocksAmong, blocksAmong, List.countP_cons, Nat.add_comm]
  cases attempt.before.blocksOn place <;> rfl

theorem asleep_paused (world : World) (pause : Duration) :
    (world.paused pause).clock.asleep = world.clock.asleep := rfl

theorem asleep_le_callAfter (world : World) (pauses : List Duration) :
    world.clock.asleep ≤ (world.callAfter pauses).1.clock.asleep := by
  induction pauses generalizing world with
  | nil => exact Nat.le_refl _
  | cons pause pauses ih =>
      rw [(world.callAfter_cons pause pauses).1]
      exact Nat.le_trans (asleep_le_control (world.paused pause)) (ih _)

/-- Calls after pauses, one after the other, all return, and their delays add up to no more than a
period and a nap for every block. -/
theorem Tallied.callAfter {rules : List Rule} {calls : Nat} {blocks : Nat → Nat} {world : World}
    (tallied : Tallied rules calls blocks world) (all : ∀ rule ∈ rules, rule.Enforceable)
    (pauses : List Duration)
    (fits : world.clock.now.toNat + (pauses.map (·.millis.toNat)).sum +
      (world.callAfter pauses).1.clock.asleep < 2 ^ 64 + world.clock.asleep) :
    (∃ delays : List UInt64,
      (world.callAfter pauses).2.map Attempt.ending = delays.map Ending.returned ∧
      (delays.map UInt64.toNat).sum ≤ Tier.costOf rules (blocksAmong (world.callAfter pauses).2)) ∧
    Tallied rules (calls + pauses.length)
      (fun place => blocks place + blocksAmong (world.callAfter pauses).2 place)
      (world.callAfter pauses).1 := by
  induction pauses generalizing world calls blocks with
  | nil => exact ⟨⟨[], rfl, Nat.zero_le _⟩, tallied⟩
  | cons pause pauses ih =>
      obtain ⟨lastEq, attemptsEq⟩ := world.callAfter_cons pause pauses
      rw [lastEq] at fits ⊢
      rw [attemptsEq]
      obtain ⟨before, paused⟩ : ∃ before, before = world.paused pause := ⟨_, rfl⟩
      rw [← paused] at fits ⊢
      rw [List.map_cons, List.sum_cons] at fits
      have more := before.control.1.asleep_le_callAfter pauses
      have grows := before.asleep_le_control
      have asleep : before.clock.asleep = world.clock.asleep := by rw [paused, asleep_paused]
      have shows : before.clock.now.toNat = world.clock.now.toNat + pause.millis.toNat := by
        rw [paused, toNat_now_paused (by omega)]
      have ready : Tallied rules calls blocks before := by
        rw [paused]
        exact tallied.advance (by omega)
      obtain ⟨delay, returned, short, elapsed, first⟩ := ready.control all (by omega)
      obtain ⟨⟨delays, rest, sum⟩, final⟩ := ih first (by omega)
      have split : ∀ place, blocksAmong (⟨before, before.control.2⟩ ::
          (before.control.1.callAfter pauses).2) place = (before.blocksOn place).toNat +
            blocksAmong (before.control.1.callAfter pauses).2 place :=
        blocksAmong_cons ⟨before, before.control.2⟩ _
      refine ⟨⟨delay :: delays, ?_, ?_⟩, ?_⟩
      · rw [List.map_cons, List.map_cons, rest, returned]
      · rw [funext split, Tier.costOf_add, List.map_cons, List.sum_cons]
        exact Nat.add_le_add short sum
      · simp only [split]
        simpa only [List.length_cons, Nat.add_assoc, Nat.add_comm 1] using final

end World

/-- Calls are made after a limiter was built, one after the other and after pauses of any length, on
a clock that does not go round. All of them return; the tier at a place blocks at most one call out
of every quota of them, not counting the first; and the delays add up to at most a period and a nap
for each block that the tiers may cause. -/
theorem blocks_le_and_delays_le {settings : List Setting} {start : UInt64} {limiter : Limiter}
    (built : build settings start = .ok limiter) (pauses : List Duration)
    (fits : start.toNat + (pauses.map (·.millis.toNat)).sum +
      ((Session.start limiter start).world.callAfter pauses).1.clock.asleep < 2 ^ 64) :
    let attempts := ((Session.start limiter start).world.callAfter pauses).2
    (∀ place rule, limiter.rules[place]? = some rule →
      attempts.countP (·.before.blocksOn place) ≤ (pauses.length - 1) / rule.quota.toNat) ∧
    ∃ delays : List UInt64, attempts.map Attempt.ending = delays.map Ending.returned ∧
      (delays.map UInt64.toNat).sum ≤ (limiter.rules.map fun rule =>
        (pauses.length - 1) / rule.quota.toNat *
          (rule.period.toNat + (pollInterval rule.period).toNat)).sum := by
  intro attempts
  have rested : (Session.start limiter start).world.clock.asleep = 0 := rfl
  obtain ⟨⟨delays, ended, sum⟩, final⟩ :=
    (World.Tallied.start built).callAfter (enforceable_of_build built) pauses (by
      rw [rested, Nat.add_zero]
      exact fits)
  have few : ∀ place rule, limiter.rules[place]? = some rule →
      World.blocksAmong attempts place ≤ (pauses.length - 1) / rule.quota.toNat := by
    intro place rule listed
    have quota := (tier_of_build built listed).2.quota_pos
    rw [← final.rules_eq, Limiter.rules, List.getElem?_map] at listed
    obtain ⟨tier, here, rfl⟩ := Option.map_eq_some_iff.mp listed
    have paid := (final.tally place tier here).paid
    rw [Nat.zero_add, Nat.zero_add, Nat.mul_comm] at paid
    exact (Nat.le_div_iff_mul_le quota).mpr paid
  exact ⟨few, delays, ended, Nat.le_trans sum (Tier.costOf_le_sum few)⟩

/-- Five calls, the last of them after a pause. -/
def fiveCalls : List Duration := [.zero, .zero, .zero, .zero, .ofMillis 100]

/-- Five calls on tiers for two and for four units: both tiers block as often as they may, the first
one twice and the second one once, and the delays come to 3000 of at most 5500 milliseconds. -/
theorem blocks_fiveCalls :
    let limiter := ofRules [⟨2, 1000⟩, ⟨4, 3000⟩] 500
    let called := (Session.start limiter 500).world.callAfter fiveCalls
    build [.list [⟨2, 1000⟩, ⟨4, 3000⟩]] 500 = .ok limiter ∧
      500 + (fiveCalls.map (·.millis.toNat)).sum + called.1.clock.asleep < 2 ^ 64 ∧
      called.2.countP (·.before.blocksOn 0) = 2 ∧ called.2.countP (·.before.blocksOn 1) = 1 ∧
      called.2.map Attempt.ending = [0, 0, 1100, 0, 1900].map Ending.returned ∧
      (∀ place rule, limiter.rules[place]? = some rule →
        called.2.countP (·.before.blocksOn place) ≤ 4 / rule.quota.toNat) ∧
      ∃ delays : List UInt64, called.2.map Attempt.ending = delays.map Ending.returned ∧
        (delays.map UInt64.toNat).sum ≤ 5500 := by
  intro limiter called
  have built : build [.list [⟨2, 1000⟩, ⟨4, 3000⟩]] 500 = .ok limiter := by decide +kernel
  have fits : 500 + (fiveCalls.map (·.millis.toNat)).sum + called.1.clock.asleep < 2 ^ 64 := by
    decide +kernel
  have first : called.2.countP (·.before.blocksOn 0) = 2 := by decide +kernel
  have second : called.2.countP (·.before.blocksOn 1) = 1 := by decide +kernel
  have ended : called.2.map Attempt.ending = [0, 0, 1100, 0, 1900].map Ending.returned := by
    decide +kernel
  have cost : (limiter.rules.map fun rule => (fiveCalls.length - 1) / rule.quota.toNat *
      (rule.period.toNat + (pollInterval rule.period).toNat)).sum = 5500 := by decide +kernel
  obtain ⟨few, delays, returned, sum⟩ := blocks_le_and_delays_le built fiveCalls fits
  exact ⟨built, fits, first, second, ended, few, delays, returned, cost ▸ sum⟩

end Limiter

end FlowGate
