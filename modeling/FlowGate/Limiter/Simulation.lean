/-
# Calls on a clock moved by hand

Here calls run one inside another on a single thread. A caller that is blocked sleeps on a clock
moved by hand, which normally jumps over the nap. A script can replace what happens during a nap:
its next entry then lists the motions of the clock, and further calls that are made while the
sleeper sleeps, in order. An entry without any motion is a wakeup with no time passed. A nested call
takes entries of its own from the same script when it sleeps.

The clock can be set to fail after a number of readings. The failure unwinds the call that met it
and all the calls that were sleeping around it; none of them is recorded as returned.

A run is a stack of calls and the world they act on, moved one step at a time. It need not end, as
a script can keep setting the clock back and a clock that wraps can stay behind a tier's window. So
a run is given a number of steps, chosen far beyond what any run needs whose clock keeps going
forward.
-/

import FlowGate.Limiter.Call
import FlowGate.Time.ManualClock

namespace FlowGate.Limiter

open Time (Duration ManualClock)

/-- What can happen while a caller sleeps. -/
inductive Incident
  /-- The clock moves forward. -/
  | advance (span : Duration)
  /-- The clock is set. -/
  | set (instant : UInt64)
  /-- The clock moves over the nap that the sleeper asked for. -/
  | full
  /-- Another caller calls the same limiter. -/
  | call
  deriving DecidableEq

/-- A call on the stack, with the nap it asked for last and what is still to happen during it. -/
structure Frame where
  call : Call
  nap : Duration := Duration.zero
  pending : List Incident := []
  deriving DecidableEq

/-- All that calls act on. The delays of nested calls and the reported events are kept with the
latest first. -/
structure World where
  limiter : Limiter
  clock : ManualClock
  /-- What happens during the naps to come, an entry for each. -/
  script : List (List Incident) := []
  /-- The readings taken since the outermost call began. -/
  readings : Nat := 0
  /-- The number of readings that the clock answers, if it is to fail at all. -/
  answers : Option Nat := none
  nested : List UInt64 := []
  events : List LogEvent := []
  deriving DecidableEq

namespace World

/-- What the clock answers now; nothing once its answers are used up. -/
def reading (world : World) : Option UInt64 :=
  match world.answers with
  | none => some world.clock.now
  | some answers => if world.readings < answers then some world.clock.now else none

/-- Forget what earlier operations left on record. -/
def cleared (world : World) : World :=
  { world with clock := world.clock.forget, nested := [], events := [] }

/-- Put a frame to sleep on a tier: the nap is noted, and either the next entry of the script is
taken up or, when the script is used up, the clock moves over the nap. -/
def sleep (world : World) (call : Call) (tier : Nat) : World × Frame :=
  let nap := Duration.ofMillis (world.limiter.interval tier)
  match world.script with
  | [] => ({ world with clock := world.clock.sleep nap }, { call, nap })
  | entry :: script =>
    ({ world with clock := world.clock.note nap, script }, { call, nap, pending := entry })

/-- Carry out one step of a call: the limiter, the count of readings and the events follow. -/
def stepCall (world : World) (call : Call) : World × Call :=
  let effect := world.limiter.step call world.reading
  let taken := if call.reads && world.reading.isSome then 1 else 0
  ({ world with
      limiter := effect.limiter
      readings := world.readings + taken
      events := effect.events.reverse ++ world.events }, effect.call)

end World

/-- A world with a stack of calls: the one that acts, and the sleepers around it, innermost
first. -/
structure Run where
  world : World
  top : Frame
  below : List Frame := []
  deriving DecidableEq

namespace Run

/-- What follows from how far the acting call has come. -/
def settle (world : World) (call : Call) (below : List Frame) : Run ⊕ World × Ending :=
  match call.progress with
  | .underway (.blocked tier) =>
    let (world, frame) := world.sleep call tier
    .inl ⟨world, frame, below⟩
  | .underway _ => .inl ⟨world, { call }, below⟩
  | .failed _ cause => .inr (world, .failed cause)
  | .returned delay =>
    match below with
    | [] => .inr (world, .returned delay)
    | frame :: frames => .inl ⟨{ world with nested := delay :: world.nested }, frame, frames⟩

/-- One step: the next incident of the top call's nap, or else a step of that call. Leaves another
run, or the world in which the outermost call ended. -/
def next (run : Run) : Run ⊕ World × Ending :=
  match run.top.pending with
  | .advance span :: pending =>
    .inl { run with
      world := { run.world with clock := run.world.clock.advance span }
      top := { run.top with pending } }
  | .set instant :: pending =>
    .inl { run with
      world := { run.world with clock := run.world.clock.set instant }
      top := { run.top with pending } }
  | .full :: pending =>
    .inl { run with
      world := { run.world with clock := run.world.clock.advance run.top.nap }
      top := { run.top with pending } }
  | .call :: pending =>
    .inl { run with
      top := { call := Call.fresh }
      below := { run.top with pending } :: run.below }
  | [] =>
    let (world, call) := run.world.stepCall run.top.call
    settle world call run.below

/-- Go on for at most so many steps. -/
def finish : Nat → Run → World × Ending
  | 0, run => (run.world, .unfinished)
  | steps + 1, run =>
    match run.next with
    | .inr ended => ended
    | .inl run => run.finish steps

end Run

namespace World

/-- The number of things that the script has in store. -/
def scriptSize (world : World) : Nat :=
  world.script.foldr (fun entry size => entry.length + 1 + size) 0

/-- The steps given to a run: room for a nap at every reading of the clock on every tier, as often
as the script can set the clock anew or start another call, and for all the readings that a clock
answers which is to fail. -/
def patience (world : World) : Nat :=
  -- In every sum the fixed number stands first, so that it does not unfold while the other is open.
  UInt64.size * ((4 + world.limiter.tiers.length) * (1 + world.scriptSize)) +
    world.answers.getD 0

/-- Call the limiter once and wait for the call to end. -/
def control (world : World) : World × Ending :=
  let world := { world with readings := 0 }
  Run.finish world.patience ⟨world, { call := Call.fresh }, []⟩

/-- Call the limiter once with a clock that answers so many readings and then fails. Afterwards the
clock works again. -/
def controlFailing (world : World) (answers : Nat) : World × Ending :=
  let ended := { world with answers := some answers }.control
  ({ ended.1 with answers := none }, ended.2)

end World

end FlowGate.Limiter
