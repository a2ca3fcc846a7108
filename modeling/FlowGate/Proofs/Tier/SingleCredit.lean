/-
# Many credits and a single one

A caller might hope to gain something by looking at a tier often. It does not: a credit that is
taken early is rounded down by itself, and a credit that finds little counted forgets what else fell
due, while a single credit at the end is rounded once and finds all the units together. So of all
histories that consume the same units and end with a credit at the same instant, none leaves less
counted than the one with no credit in between.

Counts are held at the largest word, which can only favour the single credit: with no credit in
between, the count is at its highest when it would have to pass the largest word.
-/

import FlowGate.Proofs.Tier.Statement

namespace FlowGate

open Config (Rule)

/-- Rounding down twice gives no more than rounding down once. -/
theorem Config.Rule.due_add_due_le (rule : Rule) (first second : Nat) :
    rule.due first + rule.due second ≤ rule.due (first + second) := by
  rw [Rule.due, Rule.due, Rule.due, Nat.add_mul]
  exact Nat.div_add_div_le_add_div

namespace Tier

/-- What a credit at an instant has to give, if enough is counted: nothing until a whole period is
over. -/
def dueAt (tier : Tier) (now : UInt64) : Nat :=
  if tier.rule.period.toNat < now.toNat - tier.windowStart.toNat then
    tier.rule.due (now.toNat - tier.windowStart.toNat)
  else 0

theorem dueAt_le (tier : Tier) (now : UInt64) :
    tier.dueAt now ≤ tier.rule.due (now.toNat - tier.windowStart.toNat) := by
  rw [dueAt]
  split
  · exact Nat.le_refl _
  · exact Nat.zero_le _

/-- A credit in between, and what is due after it, is no more than what would have been due
without it. -/
theorem due_add_dueAt_le {tier next : Tier} {earlier now : UInt64}
    (late : tier.rule.period.toNat < earlier.toNat - tier.windowStart.toNat)
    (sameRule : next.rule = tier.rule) (starts : next.windowStart = earlier)
    (upTo : earlier ≤ now) :
    tier.rule.due (earlier.toNat - tier.windowStart.toNat) + next.dueAt now ≤ tier.dueAt now := by
  rw [UInt64.le_iff_toNat_le] at upTo
  have after := next.dueAt_le now
  rw [sameRule, starts] at after
  have whole : earlier.toNat - tier.windowStart.toNat + (now.toNat - earlier.toNat) =
      now.toNat - tier.windowStart.toNat := by omega
  calc
    tier.rule.due (earlier.toNat - tier.windowStart.toNat) + next.dueAt now ≤
        tier.rule.due (earlier.toNat - tier.windowStart.toNat) +
          tier.rule.due (now.toNat - earlier.toNat) := Nat.add_le_add_left after _
    _ ≤ tier.rule.due (now.toNat - tier.windowStart.toNat) :=
      whole ▸ tier.rule.due_add_due_le _ _
    _ = tier.dueAt now := by rw [dueAt, if_pos (by omega)]

namespace Course

variable {tier last : Tier} {postings : List Posting} {now : UInt64}

/-- A credit takes what is due off the count, as far as it goes. -/
theorem count_of_credit (course : Course tier [.credit now] postings last) :
    last.count.toNat = tier.count.toNat - tier.dueAt now := by
  cases course with
  | early early rest =>
      cases rest
      rw [dueAt, if_neg (Nat.not_lt.mpr early), Nat.sub_zero]
  | late late sameRule starts share sum rest =>
      cases rest
      rw [dueAt, if_pos late]
      omega

/-- Units that are consumed all before a single credit. -/
theorem count_of_charge_credit {units : Nat}
    (course : Course tier [.charge units, .credit now] postings last) :
    last.count.toNat = min (tier.count.toNat + units) Word.top.toNat - tier.dueAt now := by
  cases course with
  | charge rest =>
      rw [rest.count_of_credit, toNat_chargeTimes_count, dueAt, dueAt, chargeTimes_rule,
        chargeTimes_windowStart]

/-- Whatever credits come in between, as much at least stays counted as after a single one. -/
theorem le_count {entries : List Entry}
    (course : Course tier (entries ++ [.credit now]) postings last)
    (upTo : ∀ earlier, .credit earlier ∈ entries → earlier ≤ now) :
    min (tier.count.toNat + consumedBy entries) Word.top.toNat - tier.dueAt now ≤
      last.count.toNat := by
  induction entries generalizing tier postings with
  | nil =>
      rw [course.count_of_credit, consumedBy]
      omega
  | cons entry entries ih =>
      have later : ∀ earlier, .credit earlier ∈ entries → earlier ≤ now := fun earlier listed =>
        upTo earlier (List.mem_cons_of_mem entry listed)
      cases course with
      | @charge _ units _ postings _ rest =>
          have counted := ih rest later
          rw [toNat_chargeTimes_count, dueAt, chargeTimes_rule, chargeTimes_windowStart,
            ← dueAt] at counted
          rw [consumedBy]
          omega
      | early early rest => exact ih rest later
      | @late _ next earlier units _ postings _ late sameRule starts share sum rest =>
          have counted := ih rest later
          have paid := due_add_dueAt_le late sameRule starts (upTo earlier List.mem_cons_self)
          rw [consumedBy]
          omega

end Course

/-- On a tier in any state whose rule lasts at least a millisecond, units are consumed and credits
taken in any order, at instants up to `now`, and then there is a credit at `now`. At least as much
stays counted as if all those units had been consumed first and the credit at `now` were the only
one. -/
theorem single_credit_count_le {tier : Tier} (positive : tier.rule.period ≠ 0)
    (entries : List Entry) {now : UInt64}
    (upTo : ∀ earlier, .credit earlier ∈ entries → earlier ≤ now) :
    (tier.statement (entries ++ [.credit now])).2 = none ∧
      (tier.statement [.charge (consumedBy entries), .credit now]).2 = none ∧
      (tier.closing [.charge (consumedBy entries), .credit now]).count ≤
        (tier.closing (entries ++ [.credit now])).count := by
  obtain ⟨many, manyStated, manyCourse⟩ := exists_course positive (entries ++ [.credit now])
  obtain ⟨one, oneStated, oneCourse⟩ :=
    exists_course positive [.charge (consumedBy entries), .credit now]
  refine ⟨by rw [manyStated], by rw [oneStated], ?_⟩
  rw [UInt64.le_iff_toNat_le, oneCourse.count_of_charge_credit]
  exact manyCourse.le_count upTo

/-- Nine units, with three credits in between of which the last is set back. -/
def nineUnits : List Entry :=
  [.charge 5, .credit 1900, .charge 4, .credit 2950, .credit 1000]

/-- Two units a second, over 4000 milliseconds: a single credit gives back eight units of nine and
leaves one, three credits give back three, two and two and leave two. -/
theorem single_credit_nineUnits :
    let tier := create ⟨2, 1000⟩ 0
    let many := nineUnits ++ [.credit 4000]
    let one := [.charge (consumedBy nineUnits), .credit 4000]
    tier.rule.period ≠ 0 ∧ (∀ earlier, .credit earlier ∈ nineUnits → earlier ≤ 4000) ∧
      (tier.statement many).2 = none ∧ (tier.statement one).2 = none ∧
      (tier.closing one).count = 1 ∧ (tier.closing many).count = 2 ∧
      (tier.closing one).count ≤ (tier.closing many).count := by
  intro tier many one
  have positive : tier.rule.period ≠ 0 := by decide
  have upTo : ∀ earlier, .credit earlier ∈ nineUnits → earlier ≤ 4000 := by
    simp only [nineUnits, List.mem_cons, Entry.credit.injEq, reduceCtorEq, List.not_mem_nil,
      false_or, or_false]
    rintro earlier (rfl | rfl | rfl) <;> decide
  obtain ⟨manyMade, oneMade, less⟩ := single_credit_count_le positive nineUnits upTo
  exact ⟨positive, upTo, manyMade, oneMade, by decide +kernel, by decide +kernel, less⟩

end Tier

end FlowGate
