/-
# The window sampler

A sampler lets events through during a short window that comes round once per period and drops all
others. What callers share is the start of the last window and a tally. A decision has two parts,
between which other callers may act: the caller reads the clock and the start of the last window,
and then decides on what it saw. A caller that finds a new window due opens it only if the start is
still the one that it saw; of several such callers one wins and passes, and the others are dropped.

Starts of windows begin at zero, so the first event after that by at least a period opens a window.
-/

import FlowGate.Sampler.Phase
import FlowGate.Log
import FlowGate.Rate

namespace FlowGate

open Config (Cycle ConfigError)

namespace Sampler

/-- How many events passed, were dropped or were exempt from sampling, and how many windows were
opened. The counters wrap and no decision reads them. -/
structure Tally where
  passed : UInt64 := 0
  suppressed : UInt64 := 0
  exempt : UInt64 := 0
  opened : UInt64 := 0
  deriving DecidableEq

namespace Tally

/-- The events that were sampled: exempt ones are not among them. -/
def total (tally : Tally) : UInt64 := Word.addSat tally.passed tally.suppressed

/-- The share of dropped events in the sampled ones. -/
def suppressionRate (tally : Tally) : Float := rate tally.suppressed tally.total

end Tally

/-- What is decided about an event. -/
inductive Decision
  | pass
  | suppress
  deriving DecidableEq

/-- Count a decision. -/
def Tally.count (tally : Tally) : Decision → Tally
  | .pass => { tally with passed := tally.passed + 1 }
  | .suppress => { tally with suppressed := tally.suppressed + 1 }

end Sampler

/-- The cycle of a sampler, the start of its last window, and its tally. -/
structure Sampler where
  cycle : Cycle
  lastStart : UInt64 := 0
  tally : Sampler.Tally := {}
  deriving DecidableEq

namespace Sampler

/-! ## Building -/

/-- A sampler for a cycle that passes the check. -/
def build (cycle : Cycle) : Except ConfigError Sampler := do
  cycle.check
  pure { cycle }

/-- The sampler for one second every minute, which needs no check and reports nothing. -/
def standard : Sampler := { cycle := Cycle.default }

/-- What is reported when this sampler has been built from a given cycle. -/
def creation (sampler : Sampler) : LogEvent :=
  .samplerCreated sampler.cycle.window sampler.cycle.period

/-! ## Deciding -/

/-- Count a decision and answer it. -/
def concluded (sampler : Sampler) (decision : Decision) : Sampler × Decision :=
  ({ sampler with tally := sampler.tally.count decision }, decision)

/-- Move the start of the last window from where a caller saw it to `now`. Fails if the start has
moved since. -/
def openWindow? (sampler : Sampler) (seen now : UInt64) : Option Sampler :=
  if sampler.lastStart = seen then
    some { sampler with
      lastStart := now
      tally := { sampler.tally with opened := sampler.tally.opened + 1 } }
  else none

/-- Decide about an event at `now` for a caller that saw the last window start at `seen`. -/
def decideSeen (sampler : Sampler) (seen now : UInt64) : Sampler × Decision :=
  match phaseAt sampler.cycle seen now with
  | .active => sampler.concluded .pass
  | .dormant => sampler.concluded .suppress
  | .eligible =>
    match sampler.openWindow? seen now with
    | some opened => opened.concluded .pass
    | none => sampler.concluded .suppress

/-- Decide about an event at `now` with nobody else acting meanwhile. -/
def decide (sampler : Sampler) (now : UInt64) : Sampler × Decision :=
  sampler.decideSeen sampler.lastStart now

/-- Let an event through, or drop it. -/
def gate {Event : Type} (sampler : Sampler) (now : UInt64) (event : Event) :
    Sampler × Option Event :=
  match sampler.decide now with
  | (sampler, .pass) => (sampler, some event)
  | (sampler, .suppress) => (sampler, none)

/-- Count an event that is exempt from sampling. -/
def countExempt (sampler : Sampler) : Sampler :=
  { sampler with tally := { sampler.tally with exempt := sampler.tally.exempt + 1 } }

/-- Start the tally afresh. -/
def resetTally (sampler : Sampler) : Sampler := { sampler with tally := {} }

end Sampler

end FlowGate
