/-
# What can be wrong with a configuration

One constructor for each rule that a configuration can break. A tier is named by its place in the
list, counted from zero over all the steps that contributed to it.
-/

namespace FlowGate.Config

/-- Why a limiter or a sampler cannot be built. -/
inductive ConfigError
  | noTiers
  | zeroQuota (tier : Nat)
  | zeroTierPeriod (tier : Nat)
  | zeroWindow
  | zeroPeriod
  | windowNotShorter (window period : UInt64)
  deriving DecidableEq

/-- The wording under which a configuration error is reported. -/
def ConfigError.message : ConfigError → String
  | .noTiers => "at least one throughput tier is required"
  | .zeroQuota tier => "tier " ++ toString tier ++ ": max_count must be greater than 0"
  | .zeroTierPeriod tier => "tier " ++ toString tier ++ ": period must be at least 1ms"
  | .zeroWindow => "window must be at least 1ms"
  | .zeroPeriod => "period must be at least 1ms"
  | .windowNotShorter window period =>
    "window (" ++ toString window.toNat ++ "ms) must be less than period (" ++
      toString period.toNat ++ "ms)"

end FlowGate.Config
