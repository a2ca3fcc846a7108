/-
# How a backlog drains

A tier that is overdrawn gets back within budget by the looks of the callers that are blocked on it.
A look that comes more than a period after the window started takes a whole quota off the count, or
all of it, and starts the window anew, so that the next looks find nothing due again; every other
look leaves the tier as it is. What counts is therefore only how many looks of the first kind there
were, not who made them, in which order, or when. Once they are enough for the backlog, whoever
looks next is released.

Nothing is assumed of the clocks. That enough looks come late enough is up to them: here it is not
said that a backlog drains within some time, but that no look of a blocked caller is lost for the
others.
-/

import FlowGate.Proofs.Limiter.Overdraft
import Mathlib.Algebra.Order.Floor.Div

namespace FlowGate

open Config (Rule)

/-- A credit more than a period after the window started takes a whole quota off the count, or all
of it. -/
theorem Tier.count_add_min_le_of_credit {tier next : Tier} {now units : UInt64}
    (positive : tier.rule.period ≠ 0)
    (late : tier.windowStart.toNat + tier.rule.period.toNat < now.toNat)
    (credited : tier.credit now = .ok (units, next)) :
    next.count.toNat + min tier.rule.quota.toNat tier.count.toNat ≤ tier.count.toNat := by
  rcases credit_cases credited with ⟨early, -, -⟩ | ⟨long, -, -, unitsEq, sum⟩
  · omega
  · have due := Rule.quota_le_due positive (Nat.le_of_lt long)
    omega

namespace Limiter

/-- A turn at a tier that does not consume a unit of it never adds to its count. -/
theorem Turn.count_le {place held held' : Nat} {tier next : Tier} {deed : Option Deed}
    (turn : Turn place tier held deed next held') (quiet : chargesAt place deed.toList = 0) :
    next.rule = tier.rule ∧ next.count.toNat ≤ tier.count.toNat := by
  cases turn with
  | aside idle => exact ⟨rfl, Nat.le_refl _⟩
  | enter within onward => simp [chargesAt, Deed.charges] at quiet
  | block exceeds => simp [chargesAt, Deed.charges] at quiet
  | wait credited exceeds =>
      exact ⟨Tier.credit_rule credited, Nat.le.intro (Tier.credit_count credited)⟩
  | release credited within onward =>
      exact ⟨Tier.credit_rule credited, Nat.le.intro (Tier.credit_count credited)⟩

namespace Crowd

/-- Whether a caller is blocked on the tier at a place. -/
def isBlocked (crowd : Crowd) (caller place : Nat) : Bool :=
  crowd.calls[caller]?.any (·.progress == .underway (.blocked place))

/-- Whether `now` comes more than a period after the window of the tier at a place started. -/
def isLate (crowd : Crowd) (place : Nat) (now : UInt64) : Bool :=
  crowd.limiter.tiers[place]?.any fun tier =>
    tier.windowStart.toNat + tier.rule.period.toNat < now.toNat

/-- Whether a move is a look at the tier at a place, by a caller that is blocked on it, more than a
period after its window started. -/
def isCreditingLook (crowd : Crowd) (place : Nat) : Move → Bool
  | .step caller (some now) => crowd.isBlocked caller place && crowd.isLate place now
  | _ => false

/-- How many of the moves are looks at the tier at a place that come more than a period after its
window started. -/
def creditingLooks (crowd : Crowd) (place : Nat) : List Move → Nat
  | [] => 0
  | move :: moves =>
    (crowd.isCreditingLook place move).toNat + (crowd.move move).1.creditingLooks place moves

variable {crowd : Crowd} {place caller : Nat} {tier : Tier}

theorem isBlocked_iff : crowd.isBlocked caller place = true ↔
    ∃ call, crowd.calls[caller]? = some call ∧ call.progress = .underway (.blocked place) := by
  rw [isBlocked, Option.any_eq_true]
  simp only [beq_iff_eq]

theorem isLate_iff {now : UInt64} (here : crowd.limiter.tiers[place]? = some tier) :
    crowd.isLate place now = true ↔
      tier.windowStart.toNat + tier.rule.period.toNat < now.toNat := by
  simp [isLate, here]

/-! ## One look -/

/-- A look of a blocked caller credits the tier, and the caller is blocked still exactly if the tier
is over budget still. -/
theorem exists_look (here : crowd.limiter.tiers[place]? = some tier)
    (positive : tier.rule.period ≠ 0) (blocked : crowd.isBlocked caller place = true)
    (now : UInt64) :
    ∃ after done units next, crowd.move (.step caller (some now)) = (after, some done) ∧
      after.limiter.tiers[place]? = some next ∧ tier.credit now = .ok (units, next) ∧
      (next.overBudget = false → done.passes place = true) := by
  obtain ⟨call, found, standing⟩ := isBlocked_iff.mp blocked
  obtain ⟨units, next, credited⟩ := Tier.exists_credit_eq_ok now positive
  have acts : crowd.limiter.step call (some now) = crowd.limiter.recheck call place now := by
    simp [step, standing, Call.reads, act]
  rw [recheck_of_credit here credited] at acts
  refine ⟨_, _, units, next, move_step (some now) found standing, ?_, credited, ?_⟩
  · show (crowd.limiter.step call (some now)).limiter.tiers[place]? = some next
    rw [acts]
    exact getElem?_putTier_self here next
  · intro within
    simp [acts, within, Deed.passes, Call.movedTo, stageFrom_ne_blocked]

/-- As long as nobody consumes a unit of a tier, its count does not grow, and a look that comes more
than a period after the window started takes a whole quota off it. -/
theorem exists_move_le (here : crowd.limiter.tiers[place]? = some tier)
    (positive : tier.rule.period ≠ 0) (move : Move)
    (quiet : chargesAt place (crowd.move move).2.toList = 0) :
    ∃ next, (crowd.move move).1.limiter.tiers[place]? = some next ∧ next.rule = tier.rule ∧
      next.count.toNat ≤ tier.count.toNat -
        (crowd.isCreditingLook place move).toNat * tier.rule.quota.toNat := by
  by_cases crediting : crowd.isCreditingLook place move = true
  · obtain ⟨caller, now, rfl⟩ : ∃ caller now, move = .step caller (some now) := by
      match move, crediting with
      | .step caller (some now), _ => exact ⟨caller, now, rfl⟩
    rw [crediting]
    obtain ⟨blocked, late⟩ := Bool.and_eq_true_iff.mp crediting
    obtain ⟨after, done, units, next, moved, there, credited, -⟩ :=
      exists_look here positive blocked now
    rw [moved]
    refine ⟨next, there, Tier.credit_rule credited, ?_⟩
    have less := Tier.count_add_min_le_of_credit positive ((isLate_iff here).mp late) credited
    rw [Bool.toNat_true, Nat.one_mul]
    omega
  · obtain ⟨next, there, turn⟩ := crowd.move_turn move here
    rw [Bool.eq_false_iff.mpr crediting, Bool.toNat_false, Nat.zero_mul, Nat.sub_zero]
    exact ⟨next, there, turn.count_le quiet⟩

/-! ## Whole runs -/

/-- As long as nobody consumes a unit of a tier, its count goes down by a whole quota with every
look that comes more than a period after the window started. -/
theorem exists_play_le (here : crowd.limiter.tiers[place]? = some tier)
    (positive : tier.rule.period ≠ 0) (moves : List Move)
    (quiet : chargesAt place (crowd.play moves).2 = 0) :
    ∃ next, (crowd.play moves).1.limiter.tiers[place]? = some next ∧ next.rule = tier.rule ∧
      next.count.toNat ≤ tier.count.toNat -
        crowd.creditingLooks place moves * tier.rule.quota.toNat := by
  induction moves generalizing crowd tier with
  | nil => exact ⟨tier, here, rfl, by simp [creditingLooks]⟩
  | cons move moves ih =>
      obtain ⟨first, rest⟩ : chargesAt place (crowd.move move).2.toList = 0 ∧
          chargesAt place ((crowd.move move).1.play moves).2 = 0 :=
        Nat.add_eq_zero_iff.mp ((chargesAt_append place _ _).symm.trans quiet)
      obtain ⟨mid, between, sameRule, less⟩ := exists_move_le here positive move first
      obtain ⟨next, there, rule, still⟩ := ih between (by rwa [sameRule]) rest
      refine ⟨next, there, rule.trans sameRule, ?_⟩
      rw [sameRule] at still
      rw [creditingLooks, Nat.add_mul]
      omega

end Crowd

/-- From every state that a limiter can reach from where it was built, if no unit of a tier is
consumed any more, then for every order and timing of what the callers do: a look of a blocked
caller more than a period after the window started takes a whole quota off the count or all of it,
every other look leaves the tier as it is, and once there were as many of the former as the backlog
has quotas, rounded up, whoever looks next is released. -/
theorem looks_drain_backlog {settings : List Setting} {start : UInt64} {limiter : Limiter}
    (built : build settings start = .ok limiter) (moves : List Move) {place : Nat} {rule : Rule}
    (listed : limiter.rules[place]? = some rule) :
    let crowd := (Crowd.play { limiter } moves).1
    ∃ tier, crowd.limiter.tiers[place]? = some tier ∧
      ∀ more, chargesAt place (crowd.play more).2 = 0 →
        ∀ caller, (crowd.play more).1.isBlocked caller place = true → ∀ now,
          ∃ before, (crowd.play more).1.limiter.tiers[place]? = some before ∧
          ∃ after done next,
            (crowd.play more).1.move (.step caller (some now)) = (after, some done) ∧
            after.limiter.tiers[place]? = some next ∧
            (before.windowStart.toNat + rule.period.toNat < now.toNat →
              next.count.toNat + min rule.quota.toNat before.count.toNat ≤ before.count.toNat) ∧
            (now.toNat ≤ before.windowStart.toNat + rule.period.toNat → next = before) ∧
            ((tier.count.toNat - rule.quota.toNat) ⌈/⌉ rule.quota.toNat ≤
                crowd.creditingLooks place more →
              done.passes place = true) := by
  intro crowd
  obtain ⟨-, enforceable⟩ := tier_of_build built listed
  obtain ⟨tier, reached, books⟩ := books_of_build built moves listed
  obtain rfl := books.rule_eq
  have here : crowd.limiter.tiers[place]? = some tier := reached
  refine ⟨tier, here, fun more quiet caller blocked now => ?_⟩
  obtain ⟨before, there, sameRule, drained⟩ :=
    Crowd.exists_play_le here enforceable.2 more quiet
  have positive : before.rule.period ≠ 0 := by
    rw [sameRule]
    exact enforceable.2
  obtain ⟨after, done, units, next, moved, left, credited, releases⟩ :=
    Crowd.exists_look there positive blocked now
  refine ⟨before, there, after, done, next, moved, left, ?_, ?_, ?_⟩
  · intro late
    rw [← sameRule] at late ⊢
    exact Tier.count_add_min_le_of_credit positive late credited
  · intro early
    rw [← sameRule] at early
    rw [Tier.credit_of_le_period (by omega)] at credited
    cases credited
    rfl
  · -- The credits so far leave no more than the quota, and a look never adds to the count.
    intro enough
    rw [ceilDiv_le_iff_le_mul enforceable.quota_pos, Nat.mul_comm] at enough
    have sum := Tier.credit_count credited
    apply releases
    rw [Tier.overBudget_eq_false_iff, Tier.credit_rule credited, sameRule]
    omega

/-- The backlog of two units drains: a look at 1001 takes the first one off, a look at 1500 finds
nothing due, and a look at 2100 takes the second one off. -/
def twoCredits : List Move :=
  [.step 2 (some 1001), .step 1 (some 1500), .step 2 (some 2100)]

/-- Three units were consumed of a tier for one unit a second. Both credits are made by the same
caller, and the other one is released by its next look, although its clock has been set back. -/
theorem looks_drain_twoCredits :
    let rule : Rule := ⟨1, 1000⟩
    let limiter := ofRules [rule] 0
    let crowd := (Crowd.play { limiter } twoBlocked).1
    build [.list [rule]] 0 = .ok limiter ∧ limiter.rules[0]? = some rule ∧
      crowd.limiter.counts = [3] ∧ chargesAt 0 (crowd.play twoCredits).2 = 0 ∧
      crowd.creditingLooks 0 twoCredits = 2 ∧ (3 - 1) ⌈/⌉ 1 = 2 ∧
      (crowd.play twoCredits).1.isBlocked 1 0 = true ∧
      ∃ after done, (crowd.play twoCredits).1.move (.step 1 (some 700)) = (after, some done) ∧
        done.passes 0 = true := by
  intro rule limiter crowd
  have built : build [.list [rule]] 0 = .ok limiter := rfl
  have listed : limiter.rules[0]? = some rule := rfl
  have counted : crowd.limiter.counts = [3] := by decide +kernel
  have quiet : chargesAt 0 (crowd.play twoCredits).2 = 0 := by decide +kernel
  have looks : crowd.creditingLooks 0 twoCredits = 2 := by decide +kernel
  have blocked : (crowd.play twoCredits).1.isBlocked 1 0 = true := by decide +kernel
  have backlog : (3 - 1) ⌈/⌉ 1 = 2 := by decide
  obtain ⟨tier, here, drains⟩ := looks_drain_backlog built twoBlocked listed
  obtain ⟨-, -, after, done, -, moved, -, -, -, releases⟩ :=
    drains twoCredits quiet 1 blocked 700
  refine ⟨built, listed, counted, quiet, looks, backlog, blocked, after, done, moved,
    releases ?_⟩
  have three : tier.count = 3 := by
    have known : crowd.limiter.counts[0]? = some tier.count := by
      rw [Limiter.counts, lock_eq_tiers, List.getElem?_map, here]
      rfl
    rw [counted] at known
    exact (Option.some.inj known).symm
  rw [three]
  exact Nat.le_of_eq (backlog.trans looks.symm)

end Limiter

end FlowGate
