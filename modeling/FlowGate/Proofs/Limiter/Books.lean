/-
# The books of a tier

What a crowd has done at one tier, set against what the tier shows. Every unit consumed is either
still counted or was given back; every caller that consumed one either got past the tier or is held
by it; and what was given back is paid for by the time over which the window start has moved.

`Books` holds from the moment of building through every run, for each tier by itself and whatever
the clock readings are. Only one entry needs the number of charges to stay below 2^64: a count held
at the largest word would lose units.
-/

import FlowGate.Proofs.Limiter.Build
import FlowGate.Proofs.Limiter.Turn

namespace FlowGate.Limiter

open Config (Rule)

/-- How often a unit of the tier at a place was consumed. -/
def chargesAt (place : Nat) (deeds : List Deed) : Nat := deeds.countP (·.charges place)

/-- How many calls got past the tier at a place, at once or after waiting. -/
def passesAt (place : Nat) (deeds : List Deed) : Nat := deeds.countP (·.passes place)

/-- The units that were given back to the tier at a place. -/
def creditsAt (place : Nat) (deeds : List Deed) : Nat := (deeds.map (·.credited place)).sum

/-- The latest instant among `opened` and the clock readings taken at the tier at a place. -/
def latestReading (opened : UInt64) (place : Nat) (deeds : List Deed) : Nat :=
  (deeds.filterMap (·.readingAt place)).foldl (fun latest now => max latest now.toNat) opened.toNat

section Append

variable (place : Nat) (past more : List Deed)

@[simp]
theorem chargesAt_append : chargesAt place (past ++ more) =
    chargesAt place past + chargesAt place more := List.countP_append

@[simp]
theorem passesAt_append : passesAt place (past ++ more) =
    passesAt place past + passesAt place more := List.countP_append

@[simp]
theorem creditsAt_append : creditsAt place (past ++ more) =
    creditsAt place past + creditsAt place more := by
  simp [creditsAt]

theorem chargesAt_singleton (deed : Deed) :
    chargesAt place [deed] = (deed.charges place).toNat := by
  cases charges : deed.charges place <;> simp [chargesAt, charges]

theorem passesAt_singleton (deed : Deed) :
    passesAt place [deed] = (deed.passes place).toNat := by
  cases passes : deed.passes place <;> simp [passesAt, passes]

theorem creditsAt_singleton (deed : Deed) :
    creditsAt place [deed] = deed.credited place := by
  simp [creditsAt]

theorem latestReading_append_singleton (opened : UInt64) (deed : Deed) {now : UInt64}
    (taken : deed.readingAt place = some now) :
    latestReading opened place (past ++ [deed]) =
      max (latestReading opened place past) now.toNat := by
  simp [latestReading, taken]

theorem latestReading_append_le (opened : UInt64) (deed : Option Deed) :
    latestReading opened place past ≤ latestReading opened place (past ++ deed.toList) := by
  cases deed with
  | none => simp
  | some deed =>
      cases taken : deed.readingAt place with
      | none => simp [latestReading, taken]
      | some now =>
          rw [Option.toList_some, latestReading_append_singleton _ _ _ _ taken]
          exact Nat.le_max_left _ _

end Append

/-- What the deeds so far and the state of the tier at a place say of each other, for a tier with
this rule that was created at `opened`. -/
structure Books (rule : Rule) (opened : UInt64) (place : Nat) (tier : Tier) (held : Nat)
    (past : List Deed) : Prop where
  /-- The rule is never written. -/
  rule_eq : tier.rule = rule
  /-- Only callers that are held can have taken the count beyond the quota. -/
  overdraft : tier.count.toNat ≤ rule.quota.toNat + held
  /-- Whoever consumed a unit got past the tier or is held by it. -/
  standing : passesAt place past + held = chargesAt place past
  /-- Whatever was consumed is still counted or was given back. -/
  balance : chargesAt place past < 2 ^ 64 →
    tier.count.toNat + creditsAt place past = chargesAt place past
  /-- The window starts at the creation of the tier or later. -/
  opened_le : opened.toNat ≤ tier.windowStart.toNat
  /-- The window starts no later than the latest reading. -/
  le_latest : tier.windowStart.toNat ≤ latestReading opened place past
  /-- What was given back fell due since the creation of the tier. -/
  funded : creditsAt place past * rule.period.toNat ≤
    (tier.windowStart.toNat - opened.toNat) * rule.quota.toNat

namespace Books

variable {rule : Rule} {opened : UInt64} {place held : Nat} {tier next : Tier} {past : List Deed}

/-- The books of a fresh tier. -/
theorem fresh (rule : Rule) (opened : UInt64) (place : Nat) :
    Books rule opened place (Tier.create rule opened) 0 [] where
  rule_eq := rfl
  overdraft := by simp [Tier.create]
  standing := rfl
  balance _ := rfl
  opened_le := Nat.le_refl _
  le_latest := Nat.le_refl _
  funded := by simp [creditsAt]

/-- A move that does not concern the tier leaves its books as they are. -/
theorem aside (books : Books rule opened place tier held past) {deed : Option Deed}
    (idle : ∀ done ∈ deed, Deed.Idle place done) :
    Books rule opened place tier held (past ++ deed.toList) := by
  have charges : chargesAt place deed.toList = 0 := by
    cases deed with
    | none => rfl
    | some done => simp [chargesAt_singleton, (idle done rfl).charges]
  have passes : passesAt place deed.toList = 0 := by
    cases deed with
    | none => rfl
    | some done => simp [passesAt_singleton, (idle done rfl).passes]
  have credits : creditsAt place deed.toList = 0 := by
    cases deed with
    | none => rfl
    | some done => simp [creditsAt_singleton, (idle done rfl).credited]
  refine ⟨books.rule_eq, books.overdraft, ?_, ?_, books.opened_le, ?_, ?_⟩
  · simpa [charges, passes] using books.standing
  · simpa [charges, credits] using books.balance
  · exact Nat.le_trans books.le_latest (latestReading_append_le place past opened deed)
  · simpa [credits] using books.funded

/-- Consuming a unit: the caller gets past the tier, or the tier holds one caller more. -/
theorem charge (books : Books rule opened place tier held past) {deed : Deed} (holds : Nat)
    (charges : deed.charges place = true) (silent : deed.credited place = 0)
    (standing : (deed.passes place).toNat + holds = 1)
    (budget : tier.charge.count.toNat ≤ rule.quota.toNat + (held + holds)) :
    Books rule opened place tier.charge (held + holds) (past ++ [deed]) := by
  have charged : chargesAt place [deed] = 1 := by
    rw [chargesAt_singleton, charges]
    rfl
  have credited : creditsAt place [deed] = 0 := by
    rw [creditsAt_singleton, silent]
  refine ⟨books.rule_eq, budget, ?_, ?_, books.opened_le, ?_, ?_⟩
  · rw [passesAt_append, chargesAt_append, passesAt_singleton, charged]
    have := books.standing
    omega
  · -- Fewer than 2^64 charges keep the count below the largest word.
    rw [chargesAt_append, creditsAt_append, charged, credited]
    intro few
    have balance := books.balance (by omega)
    rw [Tier.toNat_charge_count_of_lt (by omega)]
    omega
  · exact Nat.le_trans books.le_latest (latestReading_append_le place past opened (some deed))
  · rw [creditsAt_append, credited]
    exact books.funded

/-- Crediting after a wait: the caller gets past the tier, or the tier still holds it. -/
theorem credit (books : Books rule opened place tier (held + 1) past) {deed : Deed}
    {now units : UInt64} (holds : Nat) (credited : tier.credit now = .ok (units, next))
    (reading : deed.readingAt place = some now) (noCharge : deed.charges place = false)
    (reported : deed.credited place = units.toNat)
    (standing : (deed.passes place).toNat + holds = 1)
    (budget : next.count.toNat ≤ rule.quota.toNat + (held + holds)) :
    Books rule opened place next (held + holds) (past ++ [deed]) := by
  have charged : chargesAt place [deed] = 0 := by
    rw [chargesAt_singleton, noCharge]
    rfl
  have given : creditsAt place [deed] = units.toNat := by
    rw [creditsAt_singleton, reported]
  obtain ⟨forward, upTo, paid⟩ := Tier.credit_paid credited
  rw [books.rule_eq] at paid
  have openedLe := books.opened_le
  refine ⟨(Tier.credit_rule credited).trans books.rule_eq, budget, ?_, ?_, by omega, ?_, ?_⟩
  · rw [passesAt_append, chargesAt_append, passesAt_singleton, charged]
    have := books.standing
    omega
  · rw [chargesAt_append, creditsAt_append, charged, given]
    intro few
    have := books.balance few
    have := Tier.credit_count credited
    omega
  · rw [latestReading_append_singleton _ _ _ _ reading]
    have := books.le_latest
    omega
  · rw [creditsAt_append, given, Nat.add_mul]
    calc
      creditsAt place past * rule.period.toNat + units.toNat * rule.period.toNat ≤
          (tier.windowStart.toNat - opened.toNat) * rule.quota.toNat +
            (next.windowStart.toNat - tier.windowStart.toNat) * rule.quota.toNat :=
        Nat.add_le_add books.funded paid
      _ = (next.windowStart.toNat - opened.toNat) * rule.quota.toNat := by
        rw [← Nat.add_mul]
        congr 1
        omega

/-- Every turn at the tier keeps its books. -/
theorem turn {held' : Nat} {deed : Option Deed} (turn : Turn place tier held deed next held')
    (books : Books rule opened place tier held past) :
    Books rule opened place next held' (past ++ deed.toList) := by
  have sameRule := books.rule_eq
  cases turn with
  | aside idle => exact books.aside idle
  | enter within onward =>
      rw [Tier.overBudget_eq_false_iff, Tier.charge_rule, sameRule] at within
      exact books.charge 0 (by simp [Deed.charges]) (by simp [Deed.credited])
        (by simp [Deed.passes, onward]) (by omega)
  | block exceeds =>
      have := books.overdraft
      have := tier.toNat_charge_count_le
      exact books.charge 1 (by simp [Deed.charges]) (by simp [Deed.credited])
        (by simp [Deed.passes]) (by omega)
  | wait credited exceeds =>
      have := books.overdraft
      have := Tier.credit_count credited
      exact books.credit 1 credited (by simp [Deed.readingAt])
        (by simp [Deed.charges]) (Deed.credited_creditReport _ _ _ _ rfl)
        (by simp [Deed.passes]) (by omega)
  | release credited within onward =>
      rw [Tier.overBudget_eq_false_iff, Tier.credit_rule credited, sameRule] at within
      exact books.credit 0 credited (by simp [Deed.readingAt])
        (by simp [Deed.charges]) (Deed.credited_creditReport _ _ _ _ rfl)
        (by simp [Deed.passes, onward]) (by omega)

end Books

/-- After every run of a limiter that was built, the books of every tier are in order. -/
theorem books_of_build {settings : List Setting} {start : UInt64} {limiter : Limiter}
    (built : build settings start = .ok limiter) (moves : List Move) {place : Nat} {rule : Rule}
    (listed : limiter.rules[place]? = some rule) :
    ∃ tier, (Crowd.play { limiter } moves).1.limiter.tiers[place]? = some tier ∧
      Books rule start place tier ((Crowd.play { limiter } moves).1.heldBy place)
        (Crowd.play { limiter } moves).2 := by
  obtain ⟨here, -⟩ := tier_of_build built listed
  exact Crowd.play_turns (Books rule start place) (fun turn books => books.turn turn) moves
    { limiter } [] here (Books.fresh rule start place)

end FlowGate.Limiter
