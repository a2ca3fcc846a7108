/-
# Tiers

A tier is one rate rule with the account of what has been consumed under it. The count is never
put back to zero at the turn of a period. Once more than a whole period has passed since the window
started, the tier is credited the share of its quota that fell due meanwhile, and the window starts
anew; so callers that wait are let go little by little.

A credit is computed in a wide accumulator and may fail there only on a rule that was never
checked, by a period of zero. A failed credit leaves the tier as it was.
-/

import FlowGate.Config.Rule

namespace FlowGate

open Config (Rule)

/-- The shortest time between two looks at a tier that is over budget, in milliseconds. -/
def shortestPoll : UInt64 := 50

/-- The longest time between two looks at a tier that is over budget, in milliseconds. -/
def longestPoll : UInt64 := 500

/-- The time between two looks at a tier over budget: a tenth of its period, within bounds. -/
def pollInterval (period : UInt64) : UInt64 :=
  max shortestPoll (min (period / 10) longestPoll)

/-- A rate rule, the units consumed under it, and the start of the window they count from. -/
structure Tier where
  rule : Rule
  count : UInt64
  windowStart : UInt64
  deriving DecidableEq

namespace Tier

/-- A fresh tier, whose first window starts now. -/
def create (rule : Rule) (now : UInt64) : Tier := ⟨rule, 0, now⟩

/-- How long a caller sleeps before it looks at this tier again, in milliseconds. -/
def interval (tier : Tier) : UInt64 := pollInterval tier.rule.period

/-- More has been consumed than the rule allows. -/
def overBudget (tier : Tier) : Bool := tier.rule.quota < tier.count

/-- Consume one unit; the count is held at the largest word. -/
def charge (tier : Tier) : Tier := { tier with count := Word.addSat tier.count 1 }

/-- Give back what fell due by `now`, if more than a whole period has passed since the window
started. Answers the units given back, never more than were consumed. -/
def credit (tier : Tier) (now : UInt64) : Except Fault (UInt64 × Tier) :=
  let elapsed := Word.subSat now tier.windowStart
  if elapsed ≤ tier.rule.period then .ok (0, tier)
  else do
    let due ← Word.share elapsed tier.rule.quota tier.rule.period
    let credited := min due tier.count
    let remaining ← Word.subChecked tier.count credited
    pure (credited, { tier with count := remaining, windowStart := now })

/-- Consume so many units, one by one. -/
def chargeTimes (tier : Tier) : Nat → Tier
  | 0 => tier
  | times + 1 => tier.charge.chargeTimes times

/-! ## Histories of one tier -/

/-- What can happen to a tier: so many units are consumed, or it is credited. -/
inductive Entry
  | charge (units : Nat)
  | credit (now : UInt64)
  deriving DecidableEq

/-- A tier after an entry, with the units given back if the entry was a credit. -/
structure Posting where
  credited : Option UInt64
  tier : Tier
  deriving DecidableEq

/-- Make one entry. -/
def post (tier : Tier) : Entry → Except Fault Posting
  | .charge units => .ok ⟨none, tier.chargeTimes units⟩
  | .credit now => do
    let (credited, next) ← tier.credit now
    pure ⟨some credited, next⟩

/-- Make entries in order. The first one that fails ends the statement, with its fault. -/
def statement (tier : Tier) : List Entry → List Posting × Option Fault
  | [] => ([], none)
  | entry :: entries =>
    match tier.post entry with
    | .error fault => ([], some fault)
    | .ok posting =>
      let (postings, fault) := posting.tier.statement entries
      (posting :: postings, fault)

end Tier

end FlowGate
