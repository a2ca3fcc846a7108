/-
# Sampling cycles

A sampler lets events through during a window that comes round once per period. The cycle is
acceptable when the window lasts at least a millisecond and is strictly shorter than the period.
-/

import FlowGate.Config.Error
import FlowGate.Time.Duration

namespace FlowGate.Config

/-- The window unless another is given: one second, in milliseconds. -/
def defaultWindow : UInt64 := 1000

/-- The period unless another is given: one minute, in milliseconds. -/
def defaultPeriod : UInt64 := 60000

/-- A window that comes round once per period, both in milliseconds. -/
structure Cycle where
  window : UInt64 := defaultWindow
  period : UInt64 := defaultPeriod
  deriving DecidableEq

namespace Cycle

/-- One second every minute. -/
def default : Cycle := {}

/-- The cycle with this window and period; what is below a millisecond is dropped. -/
def ofDurations (window period : Time.Duration) : Cycle :=
  ⟨window.millis, period.millis⟩

/-- What is wrong with a cycle: the window is looked at first, then the period, then both. -/
def check (cycle : Cycle) : Except ConfigError Unit :=
  if cycle.window = 0 then .error .zeroWindow
  else if cycle.period = 0 then .error .zeroPeriod
  else if cycle.period ≤ cycle.window then
    .error (.windowNotShorter cycle.window cycle.period)
  else .ok ()

end Cycle

end FlowGate.Config
