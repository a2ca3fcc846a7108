/-
# How many calls get past a tier in a stretch of time

The bound over a whole run allows for everything that fell due since a tier was created, and a tier
that nobody used for long has much to give back. It gives it back late and in one piece, though,
when a blocked call looks at it, and never more than was consumed. So a stretch of time sees no more
than the quota before the first credit in it, no more than the quota after the last one, what falls
due in between, and the call that makes the first credit.

This is where calls must not overlap: if many callers were blocked when a credit comes late, it
would release all of them at once.
-/

import FlowGate.Proofs.Limiter.Apart
import Mathlib.Data.List.Induction
import Mathlib.Data.List.Infix

namespace FlowGate.Limiter

open Config (Rule)

/-- The readings that callers took at the tier at a place. -/
def readingsAt (place : Nat) (deeds : List Deed) : List UInt64 :=
  deeds.filterMap (·.readingAt place)

/-- Whether a caller got past the tier at a place, at a reading from `s` to `e`. -/
def Deed.passesWithin (place s e : Nat) (deed : Deed) : Bool :=
  deed.passes place && deed.reading.any fun now => s ≤ now.toNat && now.toNat ≤ e

/-- How many calls got past the tier at a place at readings from `s` to `e`. -/
def passesWithin (place s e : Nat) (deeds : List Deed) : Nat :=
  deeds.countP (·.passesWithin place s e)

section Append

variable (place s e : Nat) (past more : List Deed)

theorem readingsAt_append : readingsAt place (past ++ more) =
    readingsAt place past ++ readingsAt place more := List.filterMap_append

theorem passesWithin_append : passesWithin place s e (past ++ more) =
    passesWithin place s e past + passesWithin place s e more := List.countP_append

theorem readingsAt_singleton {deed : Deed} {now : UInt64}
    (taken : deed.readingAt place = some now) : readingsAt place [deed] = [now] := by
  simp [readingsAt, taken]

theorem passesWithin_singleton_of_not_passes {deed : Deed} (stays : deed.passes place = false) :
    passesWithin place s e [deed] = 0 := by
  simp [passesWithin, Deed.passesWithin, stays]

theorem passesWithin_singleton_le (deed : Deed) : passesWithin place s e [deed] ≤ 1 :=
  List.countP_le_length

variable {place s e past}

theorem Deed.readingAt_charging {caller : Nat} {reading : Option UInt64} {progress : Progress}
    {events : List LogEvent} :
    (Deed.mk caller (.charging place) reading progress events).readingAt place = reading :=
  if_pos (Or.inl rfl)

theorem Deed.readingAt_blocked {caller : Nat} {reading : Option UInt64} {progress : Progress}
    {events : List LogEvent} :
    (Deed.mk caller (.blocked place) reading progress events).readingAt place = reading :=
  if_pos (Or.inr rfl)

/-- A caller that gets past the tier took its reading there. -/
theorem Deed.readingAt_of_passes {deed : Deed} (passes : deed.passes place = true) :
    deed.readingAt place = deed.reading := by
  rw [Deed.passes, Bool.and_eq_true, Bool.or_eq_true, beq_iff_eq, beq_iff_eq] at passes
  exact if_pos passes.1

/-- Nobody gets past a tier in a stretch of time in which there is no reading. -/
theorem passesWithin_eq_zero
    (outside : ∀ now ∈ readingsAt place past, now.toNat < s ∨ e < now.toNat) :
    passesWithin place s e past = 0 := by
  rw [passesWithin, List.countP_eq_zero]
  intro deed listed within
  rw [Deed.passesWithin, Bool.and_eq_true, Option.any_eq_true] at within
  obtain ⟨passes, now, reading, inside⟩ := within
  rw [Bool.and_eq_true, decide_eq_true_iff, decide_eq_true_iff] at inside
  have taken : deed.readingAt place = some now := (deed.readingAt_of_passes passes).trans reading
  have apart := outside now (List.mem_filterMap.mpr ⟨deed, listed, taken⟩)
  omega

theorem passesWithin_singleton_eq_zero {deed : Deed} {now : UInt64}
    (taken : deed.readingAt place = some now) (outside : now.toNat < s ∨ e < now.toNat) :
    passesWithin place s e [deed] = 0 := by
  refine passesWithin_eq_zero ?_
  rw [readingsAt_singleton place taken]
  exact List.forall_mem_singleton.mpr outside

end Append

/-! ## The balance of a stretch of time -/

/-- What the calls that got past a tier from `s` on, and the caller that it holds, have to do with
what it shows, as long as no reading is beyond `e`. -/
structure Balance (rule : Rule) (s e : Nat) (tier : Tier) (held passes : Nat) : Prop where
  /-- No credit from `s` on: all of them are still counted. -/
  before : tier.windowStart.toNat < s → passes + held ≤ tier.count.toNat
  /-- The first credit from `s` on answers for a quota and the call that made it; the others were
  paid for by the time since. -/
  after : s ≤ tier.windowStart.toNat → ∃ credits,
    passes + held ≤ rule.quota.toNat + 1 + tier.count.toNat + credits ∧
      credits * rule.period.toNat ≤ (min tier.windowStart.toNat e - s) * rule.quota.toNat

theorem Balance.passes_le {rule : Rule} {s e held passes : Nat} {tier : Tier}
    (balance : Balance rule s e tier held passes) (positive : 0 < rule.period.toNat)
    (overdraft : tier.count.toNat ≤ rule.quota.toNat + held) :
    passes ≤ 2 * rule.quota.toNat + 1 + rule.due (e - s) := by
  rcases Nat.lt_or_ge tier.windowStart.toNat s with none | some
  · have counted := balance.before none
    omega
  · obtain ⟨credits, counted, paid⟩ := balance.after some
    have due : credits ≤ rule.due (e - s) := by
      rw [Rule.due, Nat.le_div_iff_mul_le positive]
      exact Nat.le_trans paid (Nat.mul_le_mul_right _ (by omega))
    omega

/-- The state of a tier and the deeds so far, with regard to the stretch of time from `s` to `e`. -/
structure Rolling (rule : Rule) (place s e : Nat) (tier : Tier) (held : Nat) (past : List Deed) :
    Prop where
  /-- Nobody is held by a tier within budget. -/
  blocked : 0 < held → rule.quota.toNat < tier.count.toNat
  balance : (∀ now ∈ readingsAt place past, now.toNat ≤ e) →
    Balance rule s e tier held (passesWithin place s e past)
  passes_le : passesWithin place s e past ≤ 2 * rule.quota.toNat + 1 + rule.due (e - s)

namespace Rolling

variable {rule : Rule} {opened : UInt64} {place s e held held' : Nat} {tier next : Tier}
  {past : List Deed}

theorem fresh (rule : Rule) (opened : UInt64) (place s e : Nat) :
    Rolling rule place s e (Tier.create rule opened) 0 [] where
  blocked none := absurd none (Nat.lt_irrefl 0)
  balance _ :=
    { before := fun _ => Nat.zero_le _
      after := fun _ => ⟨0, Nat.zero_le _, by simp⟩ }
  passes_le := Nat.zero_le _

theorem aside (rolling : Rolling rule place s e tier held past) {deed : Option Deed}
    (idle : ∀ done ∈ deed, Deed.Idle place done) :
    Rolling rule place s e tier held (past ++ deed.toList) := by
  have none : passesWithin place s e deed.toList = 0 := by
    cases deed with
    | none => rfl
    | some done => exact passesWithin_singleton_of_not_passes place s e (idle done rfl).passes
  have same : passesWithin place s e (past ++ deed.toList) = passesWithin place s e past := by
    rw [passesWithin_append, none, Nat.add_zero]
  refine ⟨rolling.blocked, fun early => ?_, same ▸ rolling.passes_le⟩
  rw [same]
  refine rolling.balance fun now taken => early now ?_
  rw [readingsAt_append]
  exact List.mem_append_left _ taken

/-- A deed with a reading at the tier, no earlier than those before it. Past the end of the stretch
it does not count any more; up to there it has to keep the balance. -/
theorem extend (rolling : Rolling rule place s e tier held past) {deed : Deed} {now : UInt64}
    (taken : deed.readingAt place = some now) (positive : 0 < rule.period.toNat)
    (forward : ∀ earlier ∈ readingsAt place past, earlier ≤ now)
    (blocked : 0 < held' → rule.quota.toNat < next.count.toNat)
    (overdraft : next.count.toNat ≤ rule.quota.toNat + held')
    (balance : now.toNat ≤ e → Balance rule s e tier held (passesWithin place s e past) →
      Balance rule s e next held'
        (passesWithin place s e past + passesWithin place s e [deed])) :
    Rolling rule place s e next held' (past ++ [deed]) := by
  have split : passesWithin place s e (past ++ [deed]) =
      passesWithin place s e past + passesWithin place s e [deed] := passesWithin_append ..
  have kept (early : now.toNat ≤ e) : Balance rule s e next held'
      (passesWithin place s e (past ++ [deed])) := by
    rw [split]
    refine balance early (rolling.balance fun earlier listed => ?_)
    exact Nat.le_trans (UInt64.le_iff_toNat_le.mp (forward earlier listed)) early
  refine ⟨blocked, fun early => ?_, ?_⟩
  · refine kept (early now ?_)
    rw [readingsAt_append, readingsAt_singleton place taken]
    exact List.mem_append_right _ (List.mem_singleton.mpr rfl)
  · rcases Nat.lt_or_ge e now.toNat with late | early
    · rw [split, passesWithin_singleton_eq_zero taken (Or.inr late), Nat.add_zero]
      exact rolling.passes_le
    · exact (kept early).passes_le positive overdraft

/-- A caller consumes a unit within the budget and gets past the tier. -/
theorem enter (rolling : Rolling rule place s e tier held past) {deed : Deed} {now : UInt64}
    (taken : deed.readingAt place = some now) (positive : 0 < rule.period.toNat)
    (forward : ∀ earlier ∈ readingsAt place past, earlier ≤ now)
    (counted : tier.charge.count.toNat = tier.count.toNat + 1)
    (overdraft : tier.charge.count.toNat ≤ rule.quota.toNat + held) :
    Rolling rule place s e tier.charge held (past ++ [deed]) := by
  have one := passesWithin_singleton_le place s e deed
  refine rolling.extend taken positive forward (fun some => ?_) overdraft fun _ balance => ?_
  · have excess := rolling.blocked some
    omega
  · refine ⟨fun none => ?_, fun some => ?_⟩
    · have before := balance.before none
      omega
    · obtain ⟨credits, after, paid⟩ := balance.after some
      exact ⟨credits, by omega, paid⟩

/-- A caller consumes a unit beyond the budget and is held. -/
theorem block (rolling : Rolling rule place s e tier held past) {deed : Deed} {now : UInt64}
    (taken : deed.readingAt place = some now) (stays : deed.passes place = false)
    (positive : 0 < rule.period.toNat)
    (forward : ∀ earlier ∈ readingsAt place past, earlier ≤ now)
    (counted : tier.charge.count.toNat = tier.count.toNat + 1)
    (exceeds : rule.quota.toNat < tier.charge.count.toNat)
    (overdraft : tier.charge.count.toNat ≤ rule.quota.toNat + (held + 1)) :
    Rolling rule place s e tier.charge (held + 1) (past ++ [deed]) := by
  have none := passesWithin_singleton_of_not_passes place s e stays
  refine rolling.extend taken positive forward (fun _ => exceeds) overdraft fun _ balance => ?_
  rw [none]
  refine ⟨fun none => ?_, fun some => ?_⟩
  · have before := balance.before none
    omega
  · obtain ⟨credits, after, paid⟩ := balance.after some
    exact ⟨credits, by omega, paid⟩

/-- A caller that is held looks in vain, which leaves the tier as it was. -/
theorem wait (rolling : Rolling rule place s e tier held past) {deed : Deed} {now : UInt64}
    (taken : deed.readingAt place = some now) (stays : deed.passes place = false)
    (positive : 0 < rule.period.toNat)
    (forward : ∀ earlier ∈ readingsAt place past, earlier ≤ now)
    (overdraft : tier.count.toNat ≤ rule.quota.toNat + held) :
    Rolling rule place s e tier held (past ++ [deed]) := by
  have none := passesWithin_singleton_of_not_passes place s e stays
  refine rolling.extend taken positive forward rolling.blocked overdraft fun _ balance => ?_
  rwa [none, Nat.add_zero]

/-- The only caller that is held is released by a credit of its own. -/
theorem release (rolling : Rolling rule place s e tier 1 past) {deed : Deed} {now units : UInt64}
    (taken : deed.readingAt place = some now) (positive : 0 < rule.period.toNat)
    (forward : ∀ earlier ∈ readingsAt place past, earlier ≤ now)
    (sameRule : tier.rule = rule) (overdraft : tier.count.toNat ≤ rule.quota.toNat + 1)
    (credited : tier.credit now = .ok (units, next))
    (within : next.count.toNat ≤ rule.quota.toNat) :
    Rolling rule place s e next 0 (past ++ [deed]) := by
  have one := passesWithin_singleton_le place s e deed
  have excess := rolling.blocked Nat.one_pos
  obtain ⟨-, -, paid⟩ := Tier.credit_paid credited
  rcases Tier.credit_cases credited with ⟨-, -, rfl⟩ | ⟨late, -, start, -, sum⟩
  · omega
  · refine rolling.extend taken positive forward (fun none => absurd none (Nat.lt_irrefl 0)) within
      fun early balance => ?_
    rw [start, sameRule] at paid
    refine ⟨fun notYet => ?_, fun reached => ?_⟩
    · -- The stretch has not begun, so nobody got past the tier in it.
      rw [start] at notYet
      rw [passesWithin_singleton_eq_zero taken (Or.inl notYet), passesWithin_eq_zero]
      · exact Nat.zero_le _
      · intro earlier listed
        exact Or.inl
          (Nat.lt_of_le_of_lt (UInt64.le_iff_toNat_le.mp (forward earlier listed)) notYet)
    · rw [start] at reached ⊢
      rcases Nat.lt_or_ge tier.windowStart.toNat s with first | again
      · have before := balance.before first
        exact ⟨0, by omega, by simp⟩
      · obtain ⟨credits, after, earlier⟩ := balance.after again
        refine ⟨credits + units.toNat, by omega, ?_⟩
        rw [Nat.min_eq_left (by omega)] at earlier ⊢
        calc
          (credits + units.toNat) * rule.period.toNat =
              credits * rule.period.toNat + units.toNat * rule.period.toNat := Nat.add_mul ..
          _ ≤ (tier.windowStart.toNat - s) * rule.quota.toNat +
              (now.toNat - tier.windowStart.toNat) * rule.quota.toNat :=
            Nat.add_le_add earlier paid
          _ = (now.toNat - s) * rule.quota.toNat := by
            rw [← Nat.add_mul]
            congr 1
            omega

/-- Every turn at a tier that holds at most one caller is accounted for. -/
theorem turn {deed : Option Deed} (turn : Turn place tier held deed next held')
    (books : Books rule opened place tier held past)
    (rolling : Rolling rule place s e tier held past) (enforceable : rule.Enforceable)
    (room : rule.quota.toNat + 1 < 2 ^ 64) (alone : held ≤ 1) (aloneAfter : held' ≤ 1)
    (forward : (readingsAt place (past ++ deed.toList)).Pairwise (· ≤ ·)) :
    Rolling rule place s e next held' (past ++ deed.toList) := by
  have sameRule := books.rule_eq
  have overdraft := books.overdraft
  have overdraftAfter := (books.turn turn).overdraft
  have positive := enforceable.period_pos
  have quota := enforceable.quota_pos
  have last {done : Deed} {now : UInt64} (taken : done.readingAt place = some now)
      (all : (readingsAt place (past ++ [done])).Pairwise (· ≤ ·)) :
      ∀ earlier ∈ readingsAt place past, earlier ≤ now := by
    rw [readingsAt_append, readingsAt_singleton place taken, List.pairwise_append] at all
    exact fun earlier listed => all.2.2 earlier listed now (List.mem_singleton.mpr rfl)
  cases turn with
  | aside idle => exact rolling.aside idle
  | enter within onward =>
      have charged := tier.toNat_charge_count
      rw [Tier.overBudget_eq_false_iff, Tier.charge_rule, sameRule] at within
      rw [Word.toNat_top] at charged
      exact rolling.enter Deed.readingAt_charging positive (last Deed.readingAt_charging forward)
        (by omega) overdraftAfter
  | block exceeds =>
      rw [Tier.overBudget_iff, Tier.charge_rule, sameRule] at exceeds
      exact rolling.block Deed.readingAt_charging (by simp [Deed.passes]) positive
        (last Deed.readingAt_charging forward) (Tier.toNat_charge_count_of_lt (by omega)) exceeds
        overdraftAfter
  | wait credited exceeds =>
      rcases Tier.credit_cases credited with ⟨-, -, rfl⟩ | ⟨late, nextRule, -, unitsEq, sum⟩
      · exact rolling.wait Deed.readingAt_blocked (by simp [Deed.passes]) positive
          (last Deed.readingAt_blocked forward) overdraft
      · -- A credit would have released the caller.
        have due := Rule.quota_le_due (sameRule ▸ enforceable.2) (Nat.le_of_lt late)
        rw [sameRule] at due unitsEq
        rw [Tier.overBudget_iff, nextRule, sameRule] at exceeds
        omega
  | release credited within onward =>
      obtain rfl : held' = 0 := by omega
      exact rolling.release Deed.readingAt_blocked positive (last Deed.readingAt_blocked forward)
        sameRule overdraft credited overdraftAfter

end Rolling

/-- A run in which a tier never holds more than one caller and its readings never go back. -/
theorem rolling_of_alone {settings : List Setting} {start : UInt64} {limiter : Limiter}
    (built : build settings start = .ok limiter) {place : Nat} {rule : Rule}
    (listed : limiter.rules[place]? = some rule) (room : rule.quota.toNat + 1 < 2 ^ 64)
    (s e : Nat) (moves : List Move)
    (alone : ∀ sofar, sofar <+: moves → (Crowd.play { limiter } sofar).1.heldBy place ≤ 1)
    (forward : (readingsAt place (Crowd.play { limiter } moves).2).Pairwise (· ≤ ·)) :
    ∃ tier, (Crowd.play { limiter } moves).1.limiter.tiers[place]? = some tier ∧
      Rolling rule place s e tier ((Crowd.play { limiter } moves).1.heldBy place)
        (Crowd.play { limiter } moves).2 := by
  obtain ⟨here, enforceable⟩ := tier_of_build built listed
  induction moves using List.reverseRecOn with
  | nil => exact ⟨_, here, .fresh rule start place s e⟩
  | append_singleton moves move ih =>
      have aloneAfter := alone (moves ++ [move]) List.prefix_rfl
      rw [Crowd.play_append_singleton] at forward aloneAfter ⊢
      have sofar : (readingsAt place (Crowd.play { limiter } moves).2).Pairwise (· ≤ ·) := by
        rw [readingsAt_append] at forward
        exact (List.pairwise_append.mp forward).1
      obtain ⟨tier, there, rolling⟩ :=
        ih (fun earlier before => alone earlier (before.trans (List.prefix_append ..))) sofar
      obtain ⟨tier', there', books⟩ := books_of_build built moves listed
      obtain rfl : tier = tier' := Option.some.inj (there.symm.trans there')
      obtain ⟨next, after, turn⟩ := (Crowd.play { limiter } moves).1.move_turn move there
      exact ⟨next, after, rolling.turn turn books enforceable room
        (alone moves (List.prefix_append ..)) aloneAfter forward⟩

/-- In a run of calls that do not overlap and all return, on a clock that never goes back, any
stretch of time sees at most twice the quota of a tier, one call more, and what falls due in that
time get past the tier, however long it had been left alone before. -/
theorem passesWithin_le_two_quotas_add_due {settings : List Setting} {start : UInt64}
    {limiter : Limiter} (built : build settings start = .ok limiter) (moves : List Move)
    (apart : ∀ sofar, sofar <+: moves → (Crowd.play { limiter } sofar).1.busy ≤ 1)
    (returned : ∀ call ∈ (Crowd.play { limiter } moves).1.calls,
      ∃ delay, call.progress = .returned delay)
    (few : (Crowd.play { limiter } moves).1.calls.length < 2 ^ 64) :
    let deeds := (Crowd.play { limiter } moves).2
    ∀ place rule, limiter.rules[place]? = some rule →
      (readingsAt place deeds).Pairwise (· ≤ ·) → ∀ s span,
        passesWithin place s (s + span) deeds ≤ 2 * rule.quota.toNat + 1 +
          span * rule.quota.toNat / rule.period.toNat := by
  intro deeds place rule listed forward s span
  by_cases room : rule.quota.toNat + 1 < 2 ^ 64
  · have alone : ∀ sofar, sofar <+: moves →
        (Crowd.play { limiter } sofar).1.heldBy place ≤ 1 := by
      rintro sofar ⟨later, rfl⟩
      rw [Crowd.play_append] at returned
      exact Crowd.heldBy_le_one (apart sofar (List.prefix_append ..)) returned place
    obtain ⟨tier, -, rolling⟩ :=
      rolling_of_alone built listed room s (s + span) moves alone forward
    have bound := rolling.passes_le
    rwa [Nat.add_sub_cancel_left] at bound
  · -- So many calls as could fill such a quota are never made.
    obtain ⟨tier, -, books⟩ := books_of_build built moves listed
    have standing := books.standing
    have charged := Crowd.chargesAt_le_length limiter moves place
    have passes : passesWithin place s (s + span) deeds ≤
        passesAt place (Crowd.play { limiter } moves).2 :=
      List.countP_mono_left fun deed _ within => (Bool.and_eq_true_iff.mp within).1
    refine Nat.le_trans ?_ (Nat.le_add_right _ _)
    omega

/-- Five calls at the instant 10000, one after the other. The third one is blocked and wakes up at
once. -/
def fiveAtOnce : List Move :=
  [.join, .step 0 (some 10000), .step 0 (some 10000), .step 0 none,
    .join, .step 1 (some 10000), .step 1 (some 10000), .step 1 none,
    .join, .step 2 (some 10000), .step 2 (some 10000), .step 2 (some 10000), .step 2 (some 10000),
    .join, .step 3 (some 10000), .step 3 (some 10000), .step 3 none,
    .join, .step 4 (some 10000), .step 4 (some 10000), .step 4 none]

/-- The bound is reached: on a tier for two units a second that was left alone for ten seconds, five
calls get past at one instant. -/
theorem passesWithin_fiveAtOnce :
    let rule : Rule := ⟨2, 1000⟩
    let limiter := ofRules [rule] 0
    let crowd := (Crowd.play { limiter } fiveAtOnce).1
    let deeds := (Crowd.play { limiter } fiveAtOnce).2
    build [.list [rule]] 0 = .ok limiter ∧ limiter.rules[0]? = some rule ∧
      (∀ sofar, sofar <+: fiveAtOnce → (Crowd.play { limiter } sofar).1.busy ≤ 1) ∧
      (∀ call ∈ crowd.calls, ∃ delay, call.progress = .returned delay) ∧
      crowd.calls.length < 2 ^ 64 ∧ (readingsAt 0 deeds).Pairwise (· ≤ ·) ∧
      passesWithin 0 10000 10000 deeds = 5 ∧
      passesWithin 0 10000 (10000 + 0) deeds ≤ 2 * 2 + 1 + 0 * 2 / 1000 := by
  intro rule limiter crowd deeds
  have built : build [.list [rule]] 0 = .ok limiter := rfl
  have listed : limiter.rules[0]? = some rule := rfl
  have apart : ∀ sofar, sofar <+: fiveAtOnce → (Crowd.play { limiter } sofar).1.busy ≤ 1 := by
    have all : ∀ sofar ∈ fiveAtOnce.inits, (Crowd.play { limiter } sofar).1.busy ≤ 1 := by
      decide +kernel
    exact fun sofar before => all sofar ((List.mem_inits ..).mpr before)
  have ended : crowd.calls.map Call.progress = [0, 0, 0, 0, 0].map Progress.returned := by
    decide +kernel
  have returned : ∀ call ∈ crowd.calls, ∃ delay, call.progress = .returned delay := by
    intro call there
    have known := List.mem_map_of_mem (f := Call.progress) there
    rw [ended, List.mem_map] at known
    obtain ⟨delay, -, done⟩ := known
    exact ⟨delay, done.symm⟩
  have few : crowd.calls.length < 2 ^ 64 := by decide +kernel
  have forward : (readingsAt 0 deeds).Pairwise (· ≤ ·) := by decide +kernel
  have reached : passesWithin 0 10000 10000 deeds = 5 := by decide +kernel
  exact ⟨built, listed, apart, returned, few, forward, reached,
    passesWithin_le_two_quotas_add_due built fiveAtOnce apart returned few 0 rule listed forward
      10000 0⟩

end FlowGate.Limiter
