/-
# The throughput limiter

A limiter caps how often callers go ahead, by several tiers at once. It is built from settings
given in any mixture of single tiers and whole lists; the rules are checked only when all of them
are known, and every tier's first window starts at the moment of building. All handles on a limiter
share one value of this type, so the value holds everything that callers can affect.

The tiers stand behind a lock. A caller that fails while it holds the lock leaves it poisoned, and
whoever takes it next is told so. Nobody minds: a tier is a few counters, which are as good as
before.
-/

import FlowGate.Tier
import FlowGate.Log
import FlowGate.Limiter.Metrics

namespace FlowGate

open Config (Rule ConfigError)

/-- The tiers of a limiter in the order in which they are enforced, behind a lock, and its metrics.
Callers go by the number of tiers, which is noted when a limiter is built so that they can learn it
without the lock. -/
structure Limiter where
  tiers : List Tier
  tierCount : Nat := tiers.length
  counted : tierCount = tiers.length := by rfl
  /-- Whether a caller has failed while it held the lock. -/
  poisoned : Bool := false
  metrics : Limiter.Metrics := {}
  deriving DecidableEq

namespace Limiter

/-! ## Building -/

/-- A step in setting up a limiter: append one tier, or append every rule of a list. -/
inductive Setting
  | tier (quota : UInt64) (period : Time.Duration)
  | list (rules : List Rule)
  deriving DecidableEq

/-- The rules that a setting appends. -/
def Setting.toRules : Setting → List Rule
  | .tier quota period => [Rule.ofDuration quota period]
  | .list rules => rules

/-- A limiter with fresh tiers for these rules, not checked. -/
def ofRules (rules : List Rule) (now : UInt64) : Limiter :=
  let tiers := rules.map (Tier.create · now)
  { tiers, tierCount := tiers.length, counted := rfl }

/-- Build a limiter at the moment `now`: its rules are those of all settings in order. -/
def build (settings : List Setting) (now : UInt64) : Except ConfigError Limiter := do
  let rules := settings.flatMap Setting.toRules
  Rule.checkAll rules
  pure (ofRules rules now)

/-- What is reported when this limiter has been built. -/
def creation (limiter : Limiter) : LogEvent := .limiterCreated limiter.tiers.length

/-! ## The lock -/

/-- What taking the lock answers: the tiers, and as an error if the lock is poisoned. -/
def acquire (limiter : Limiter) : Except (List Tier) (List Tier) :=
  if limiter.poisoned then .error limiter.tiers else .ok limiter.tiers

/-- The tiers for whoever takes the lock, poisoned or not. -/
def lock (limiter : Limiter) : List Tier :=
  match limiter.acquire with
  | .ok tiers => tiers
  | .error tiers => tiers

@[simp]
theorem lock_eq_tiers (limiter : Limiter) : limiter.lock = limiter.tiers := by
  rw [lock, acquire]
  cases limiter.poisoned <;> rfl

/-- The limiter after a failure under the lock. -/
def poison (limiter : Limiter) : Limiter := { limiter with poisoned := true }

/-- As many tiers in the place of those that are there. -/
def withTiers (limiter : Limiter) (tiers : List Tier)
    (same : tiers.length = limiter.tiers.length) : Limiter :=
  { limiter with tiers, counted := limiter.counted.trans same.symm }

/-- Put a tier in its place. -/
def putTier (limiter : Limiter) (place : Nat) (tier : Tier) : Limiter :=
  limiter.withTiers (limiter.tiers.set place tier) List.length_set

@[simp]
theorem tiers_poison (limiter : Limiter) : limiter.poison.tiers = limiter.tiers := rfl

@[simp]
theorem metrics_poison (limiter : Limiter) : limiter.poison.metrics = limiter.metrics := rfl

@[simp]
theorem tiers_withTiers (limiter : Limiter) (tiers : List Tier)
    (same : tiers.length = limiter.tiers.length) :
    (limiter.withTiers tiers same).tiers = tiers := rfl

@[simp]
theorem withTiers_withTiers (limiter : Limiter) (first second : List Tier)
    (same : first.length = limiter.tiers.length) (same' : second.length = first.length) :
    (limiter.withTiers first same).withTiers second same' =
      limiter.withTiers second (same'.trans same) := rfl

theorem withTiers_congr {limiter : Limiter} {first second : List Tier} (equal : first = second)
    (same : first.length = limiter.tiers.length) (same' : second.length = limiter.tiers.length) :
    limiter.withTiers first same = limiter.withTiers second same' := by
  subst equal
  rfl

@[simp]
theorem tiers_putTier (limiter : Limiter) (place : Nat) (tier : Tier) :
    (limiter.putTier place tier).tiers = limiter.tiers.set place tier := rfl

/-! ## Looking at a limiter -/

/-- The units consumed on each tier. -/
def counts (limiter : Limiter) : List UInt64 := limiter.lock.map Tier.count

/-- The rules that a limiter enforces, in order. -/
def rules (limiter : Limiter) : List Rule := limiter.tiers.map Tier.rule

/-- One rule of a description, with its place in the list. -/
def describeRule (rule : Rule) (place : Nat) : String :=
  toString place ++ ": max = " ++ toString rule.quota.toNat ++
    ", period = " ++ toString rule.period.toNat ++ "ms"

/-- A list of rules in words, with their places. -/
def describeRules (rules : List Rule) : String :=
  "ThroughputLimiter [" ++
    String.intercalate "; " (rules.mapIdx fun place rule => describeRule rule place) ++ "]"

/-- A limiter in words. -/
def describe (limiter : Limiter) : String := describeRules (limiter.lock.map Tier.rule)

theorem describe_eq (limiter : Limiter) : limiter.describe = describeRules limiter.rules := by
  rw [describe, rules, lock_eq_tiers]

/-- Start the metrics afresh. -/
def resetMetrics (limiter : Limiter) : Limiter := { limiter with metrics := {} }

/-- How long a caller blocked on a tier sleeps before it looks again, in milliseconds. -/
def interval (limiter : Limiter) (tier : Nat) : UInt64 :=
  (limiter.tiers[tier]?.map Tier.interval).getD shortestPoll

end Limiter

end FlowGate
