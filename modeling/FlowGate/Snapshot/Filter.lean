/-
# The snapshot filter

A filter applies a sampler to log events: only those that arrive during the window of a period are
let through, so that a flood of events stays almost silent and yet shows a short stretch of real
traffic from time to time. Events from exempt targets always pass; they are counted apart and take
no part in sampling. A target is exempt when it is one of the configured texts, exactly.

A filter is drafted setting by setting. Each setting replaces what an earlier one of its kind said
and leaves the rest alone, and the cycle is checked only when the filter is built. Clocks are named
by their numbers; unless it is given another, a filter reads the wall clock.
-/

import FlowGate.Sampler.Basic

namespace FlowGate.Snapshot

open Config (Cycle ConfigError)
open Time (Duration)

/-- A step in drafting a filter. -/
inductive Setting
  | window (window : Duration)
  | period (period : Duration)
  | cycle (cycle : Cycle)
  | exempt (targets : List String)
  | clock (number : Nat)
  deriving DecidableEq

/-- What has been set so far. -/
structure Draft where
  cycle : Cycle := Cycle.default
  exempt : List String := []
  clock : Option Nat := none
  deriving DecidableEq

/-- Apply one setting. A window or a period is set by building the cycle anew from two spans, one
of them the span that is already there. -/
def Draft.apply (draft : Draft) : Setting → Draft
  | .window window =>
    { draft with cycle := Cycle.ofDurations window (Duration.ofMillis draft.cycle.period) }
  | .period period =>
    { draft with cycle := Cycle.ofDurations (Duration.ofMillis draft.cycle.window) period }
  | .cycle cycle => { draft with cycle }
  | .exempt targets => { draft with exempt := targets }
  | .clock number => { draft with clock := some number }

/-- The draft that settings make, in order. -/
def Draft.ofSettings (settings : List Setting) : Draft := settings.foldl Draft.apply {}

/-- A sampler, the targets that it does not concern, and the clock that it reads, if that is not the
wall clock. -/
structure Filter where
  sampler : Sampler
  exempt : List String := []
  clock : Option Nat := none
  deriving DecidableEq

/-- The filter that a draft describes. -/
def Draft.build (draft : Draft) : Except ConfigError Filter := do
  let sampler ← Sampler.build draft.cycle
  pure { sampler, exempt := draft.exempt, clock := draft.clock }

namespace Filter

/-- The filter for one second every minute, without exempt targets. -/
def standard : Filter := { sampler := Sampler.standard }

/-- Whether events from a target always pass. -/
def isExempt (filter : Filter) (target : String) : Bool := filter.exempt.contains target

/-- Decide whether an event from a target passes at `now`. -/
def shouldEmit (filter : Filter) (target : String) (now : UInt64) : Filter × Bool :=
  if filter.isExempt target then
    ({ filter with sampler := filter.sampler.countExempt }, true)
  else
    let (sampler, decision) := filter.sampler.decide now
    ({ filter with sampler }, decision == .pass)

/-- Start the tally afresh. -/
def resetTally (filter : Filter) : Filter :=
  { filter with sampler := filter.sampler.resetTally }

end Filter

end FlowGate.Snapshot
