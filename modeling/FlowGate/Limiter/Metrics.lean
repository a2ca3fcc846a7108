/-
# Limiter metrics

Three counters that observe the calls of a limiter; no decision reads them. Only a call that
returned is recorded, and it counts as delayed when the delay it measured is not zero: a call that
slept while the clock stood still or went back is not a delayed call. The counters wrap.
-/

import FlowGate.Rate

namespace FlowGate.Limiter

/-- Calls that returned, those of them that were delayed, and the sum of their delays. -/
structure Metrics where
  calls : UInt64 := 0
  delayed : UInt64 := 0
  totalDelay : UInt64 := 0
  deriving DecidableEq

namespace Metrics

/-- Record a call that returned with this delay. -/
def record (metrics : Metrics) (delay : UInt64) : Metrics :=
  if delay = 0 then { metrics with calls := metrics.calls + 1 }
  else
    { calls := metrics.calls + 1
      delayed := metrics.delayed + 1
      totalDelay := metrics.totalDelay + delay }

/-- The share of delayed calls in all calls. -/
def delayRate (metrics : Metrics) : Float := rate metrics.delayed metrics.calls

end Metrics

end FlowGate.Limiter
