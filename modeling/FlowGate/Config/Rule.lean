/-
# Rate rules

A rule allows a quota of operations per period. A limiter enforces a list of them, in order; the
list is acceptable when it holds at least one rule and every rule allows something and lasts at
least a millisecond. The first rule that does not decides what is reported.
-/

import FlowGate.Config.Error
import FlowGate.Time.Duration

namespace FlowGate.Config

/-- So many operations per period, the period in milliseconds. -/
structure Rule where
  quota : UInt64
  period : UInt64
  deriving DecidableEq

namespace Rule

/-- The rule with this quota and period; what is below a millisecond is dropped. -/
def ofDuration (quota : UInt64) (period : Time.Duration) : Rule :=
  ⟨quota, period.millis⟩

/-- What is wrong with the rule at place `tier`, the quota looked at first. -/
def check (rule : Rule) (tier : Nat) : Except ConfigError Unit :=
  if rule.quota = 0 then .error (.zeroQuota tier)
  else if rule.period = 0 then .error (.zeroTierPeriod tier)
  else .ok ()

/-- Look at the rules in order, the first one standing at place `tier`. -/
def checkFrom (tier : Nat) : List Rule → Except ConfigError Unit
  | [] => .ok ()
  | rule :: rules => do
    rule.check tier
    checkFrom (tier + 1) rules

/-- What is wrong with a list of rules: that it is empty, or the first fault found in order. -/
def checkAll (rules : List Rule) : Except ConfigError Unit :=
  if rules.isEmpty then .error .noTiers else checkFrom 0 rules

end Rule

end FlowGate.Config
