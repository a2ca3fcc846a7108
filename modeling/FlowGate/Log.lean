/-
# Log events

What the limiter and the sampler report about themselves. An event is one of four facts; its level,
its message and its named figures follow from the fact alone.
-/

namespace FlowGate

/-- How serious a log event is. -/
inductive Level
  | trace
  | debug
  | info
  | warn
  | error
  deriving DecidableEq

/-- The written name of a level. -/
def Level.name : Level → String
  | .trace => "TRACE"
  | .debug => "DEBUG"
  | .info => "INFO"
  | .warn => "WARN"
  | .error => "ERROR"

/-- A fact that is reported when it happens. -/
inductive LogEvent
  /-- A limiter came into being with so many tiers. -/
  | limiterCreated (tiers : Nat)
  /-- A tier got units back, and this much is still consumed. -/
  | tierCredited (tier : Nat) (credited remaining : UInt64)
  /-- A caller that slept goes ahead after this many milliseconds. -/
  | callerDelayed (delay : UInt64)
  /-- A sampler came into being with this window and period. -/
  | samplerCreated (window period : UInt64)
  deriving DecidableEq

namespace LogEvent

/-- Credits are frequent and reported at the lowest level. -/
def level : LogEvent → Level
  | .tierCredited .. => .trace
  | _ => .debug

/-- The fixed text of an event. -/
def message : LogEvent → String
  | .limiterCreated _ => "throughput limiter created"
  | .tierCredited .. => "throughput tier decayed"
  | .callerDelayed _ => "throughput limit reached, caller delayed"
  | .samplerCreated .. => "window sampler created"

/-- The named figures of an event. -/
def figures : LogEvent → List (String × Nat)
  | .limiterCreated tiers => [("tiers", tiers)]
  | .tierCredited tier credited remaining =>
    [("tier", tier), ("credited", credited.toNat), ("remaining", remaining.toNat)]
  | .callerDelayed delay => [("delay_ms", delay.toNat)]
  | .samplerCreated window period =>
    [("window_ms", window.toNat), ("period_ms", period.toNat)]

end LogEvent

end FlowGate
