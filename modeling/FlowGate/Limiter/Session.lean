/-
# Sessions with a limiter

A session is a limiter on a clock moved by hand, together with the handles through which it is
used. Handles share everything, so it matters to an operation only that its handle exists. Each
operation leaves a report of what it answered and of what can be observed afterwards.
-/

import FlowGate.Limiter.Simulation

namespace FlowGate.Limiter

open Time (Duration ManualClock)

/-- What can be asked of a limiter or done to its clock. -/
inductive Op
  /-- Call so many times, one call after the other. -/
  | control (times : Nat)
  /-- For the length of `run`, call and let `step` pass. -/
  | drive (run step : Duration)
  /-- Call once with a clock that fails after so many readings. -/
  | controlFailing (answers : Nat)
  | set (instant : UInt64)
  | advance (span : Duration)
  | tiers
  | describe
  | resetMetrics
  /-- Make another handle. -/
  | clone
  /-- Append to what happens during the naps to come. -/
  | onSleep (entries : List (List Incident))
  deriving DecidableEq

/-- What an operation answers. -/
inductive Reply
  | nothing
  | delays (delays : List UInt64)
  | delay (delay : UInt64)
  | failure (cause : Failure)
  | tiers (tiers : List Tier)
  | text (text : String)
  | handle (index : Nat)
  | noSuchHandle
  | unfinished
  deriving DecidableEq

/-- A world and the number of handles on its limiter. -/
structure Session where
  world : World
  handles : Nat := 1
  deriving DecidableEq

/-- An operation and the handle it goes through. -/
structure Command where
  handle : Nat := 0
  op : Op
  deriving DecidableEq

/-- What can be observed after an operation: the answer, the clock, the limiter, and what was
recorded meanwhile, in the order in which it happened. -/
structure Report where
  reply : Reply
  now : UInt64
  counts : List UInt64
  metrics : Metrics
  naps : List Duration
  nested : List UInt64
  events : List LogEvent
  deriving DecidableEq

/-- The answer to a single call. -/
def Ending.reply : Ending → Reply
  | .returned delay => .delay delay
  | .failed cause => .failure cause
  | .unfinished => .unfinished

namespace World

/-- Call so many times; answers the delays. The first call that does not return ends the row, and
its ending is answered, too. -/
def controlTimes (world : World) : Nat → World × List UInt64 × Option Ending
  | 0 => (world, [], none)
  | times + 1 =>
    match world.control with
    | (world, .returned delay) =>
      let (world, delays, stop) := world.controlTimes times
      (world, delay :: delays, stop)
    | (world, ending) => (world, [], some ending)

/-- As long as the clock is before `finish`, call and let `step` pass, at most so many times. -/
def driveTo (world : World) (finish : Nat) (step : Duration) :
    Nat → World × List UInt64 × Option Ending
  | 0 => (world, [], some .unfinished)
  | rounds + 1 =>
    if finish ≤ world.clock.now.toNat then (world, [], none)
    else
      match world.control with
      | (world, .returned delay) =>
        let (world, delays, stop) :=
          { world with clock := world.clock.advance step }.driveTo finish step rounds
        (world, delay :: delays, stop)
      | (world, ending) => (world, [], some ending)

end World

namespace Session

/-- A session with a limiter that has just been built. -/
def start (limiter : Limiter) (now : UInt64) : Session :=
  { world := { limiter, clock := { now } } }

/-- Carry out an operation. -/
def apply (session : Session) : Op → Session × Reply
  | .control times =>
    let (world, delays, stop) := session.world.controlTimes times
    ({ session with world }, (stop.map Ending.reply).getD (.delays delays))
  | .drive run step =>
    let finish := session.world.clock.now.toNat + run.millis.toNat
    let (world, delays, stop) := session.world.driveTo finish step UInt64.size
    ({ session with world }, (stop.map Ending.reply).getD (.delays delays))
  | .controlFailing answers =>
    let (world, ending) := session.world.controlFailing answers
    ({ session with world }, ending.reply)
  | .set instant =>
    ({ session with world.clock := session.world.clock.set instant }, .nothing)
  | .advance span =>
    ({ session with world.clock := session.world.clock.advance span }, .nothing)
  | .tiers => (session, .tiers session.world.limiter.lock)
  | .describe => (session, .text session.world.limiter.describe)
  | .resetMetrics =>
    ({ session with world.limiter := session.world.limiter.resetMetrics }, .nothing)
  | .clone => ({ session with handles := session.handles + 1 }, .handle session.handles)
  | .onSleep entries =>
    ({ session with world.script := session.world.script ++ entries }, .nothing)

/-- What can be observed now, after an operation that gave this answer. -/
def report (session : Session) (reply : Reply) : Report where
  reply
  now := session.world.clock.now
  counts := session.world.limiter.counts
  metrics := session.world.limiter.metrics
  naps := session.world.clock.naps.reverse
  nested := session.world.nested.reverse
  events := session.world.events.reverse

/-- Carry out an operation through a handle and report on it. The record starts empty. -/
def perform (session : Session) (command : Command) : Session × Report :=
  let session := { session with world := session.world.cleared }
  let (session, reply) :=
    if command.handle < session.handles then session.apply command.op
    else (session, .noSuchHandle)
  (session, session.report reply)

/-- Carry out operations in order. -/
def performAll (session : Session) : List Command → Session × List Report
  | [] => (session, [])
  | command :: commands =>
    let (session, report) := session.perform command
    let (session, reports) := session.performAll commands
    (session, report :: reports)

end Session

end FlowGate.Limiter
