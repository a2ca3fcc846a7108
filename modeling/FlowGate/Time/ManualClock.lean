/-
# A clock moved by hand

The clock shows milliseconds and stands still until it is told to move, which makes every run that
reads it reproducible. It also serves as the place where a caller sleeps: a nap is noted down and
the clock jumps over it. The hand goes round: past the largest word it starts again at zero.
-/

import FlowGate.Time.Duration

namespace FlowGate.Time

/-- A clock that moves only when told to, with the naps taken on it, the latest first. -/
structure ManualClock where
  now : UInt64
  naps : List Duration := []
  deriving DecidableEq

namespace ManualClock

/-- Move the hand forward by the whole milliseconds of a span. -/
def advance (clock : ManualClock) (span : Duration) : ManualClock :=
  { clock with now := clock.now + span.millis }

/-- Put the hand on an instant, earlier or later. -/
def set (clock : ManualClock) (instant : UInt64) : ManualClock :=
  { clock with now := instant }

/-- Note a nap without moving the hand: what happens meanwhile is decided elsewhere. -/
def note (clock : ManualClock) (nap : Duration) : ManualClock :=
  { clock with naps := nap :: clock.naps }

/-- Sleep through a nap: it is noted, and the hand moves over it. -/
def sleep (clock : ManualClock) (nap : Duration) : ManualClock :=
  (clock.note nap).advance nap

/-- Forget the naps noted so far. -/
def forget (clock : ManualClock) : ManualClock :=
  { clock with naps := [] }

/-- What can be done to a clock. -/
inductive Motion
  | advance (span : Duration)
  | set (instant : UInt64)
  | sleep (nap : Duration)
  deriving DecidableEq

/-- Carry out one motion. -/
def move (clock : ManualClock) : Motion → ManualClock
  | .advance span => clock.advance span
  | .set instant => clock.set instant
  | .sleep nap => clock.sleep nap

/-- The clock after each of the motions in turn. -/
def course (clock : ManualClock) : List Motion → List ManualClock
  | [] => []
  | motion :: motions => clock.move motion :: (clock.move motion).course motions

end ManualClock

end FlowGate.Time
