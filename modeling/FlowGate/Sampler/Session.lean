/-
# Sessions with a sampler

A session is a sampler with the handles through which it is used. Handles share the start of the
last window and the tally. Each handle has a clock moved by hand: a plain clone shares the clock of
the handle it was made from, and a clone with a clock of its own does not.
-/

import FlowGate.Sampler.Basic
import FlowGate.Time.ManualClock

namespace FlowGate.Sampler

open Time (Duration ManualClock)

/-- What can be asked of a sampler, with events of any kind to be gated. -/
inductive Op (Event : Type)
  | decide
  | gate (event : Event)
  /-- So many times: decide, then let `step` pass. -/
  | drive (times : Nat) (step : Duration)
  | set (instant : UInt64)
  | advance (span : Duration)
  | resetTally
  /-- Make another handle on the same clock. -/
  | clone
  /-- Make another handle with a clock of its own. -/
  | cloneWithClock (start : UInt64)
  deriving DecidableEq

/-- What an operation answers. -/
inductive Reply (Event : Type)
  | nothing
  | decisions (decisions : List Decision)
  | decision (decision : Decision)
  | gated (event : Option Event)
  | handle (index : Nat)
  | noSuchHandle
  deriving DecidableEq

/-- A sampler, its clocks, and for each handle the place of its clock. -/
structure Session where
  sampler : Sampler
  clocks : List ManualClock
  handles : List Nat
  deriving DecidableEq

/-- What can be observed through a handle after an operation. -/
structure Report (Event : Type) where
  reply : Reply Event
  now : UInt64
  lastStart : UInt64
  tally : Tally
  deriving DecidableEq

/-- So many decisions, the clock moving on by `step` after each. -/
def drive (sampler : Sampler) (clock : ManualClock) (step : Duration) :
    Nat → Sampler × ManualClock × List Decision
  | 0 => (sampler, clock, [])
  | times + 1 =>
    let (sampler, decision) := sampler.decide clock.now
    let (sampler, clock, decisions) := sampler.drive (clock.advance step) step times
    (sampler, clock, decision :: decisions)

namespace Session

/-- A session with one handle on a clock that shows `now`. -/
def start (sampler : Sampler) (now : UInt64) : Session := ⟨sampler, [{ now }], [0]⟩

variable {Event : Type}

/-- Carry out an operation for the clock at place `place`. -/
def apply (session : Session) (place : Nat) (clock : ManualClock) :
    Op Event → Session × Reply Event
  | .decide =>
    let (sampler, decision) := session.sampler.decide clock.now
    ({ session with sampler }, .decision decision)
  | .gate event =>
    let (sampler, gated) := session.sampler.gate clock.now event
    ({ session with sampler }, .gated gated)
  | .drive times step =>
    let (sampler, clock, decisions) := session.sampler.drive clock step times
    ({ session with sampler, clocks := session.clocks.set place clock }, .decisions decisions)
  | .set instant =>
    ({ session with clocks := session.clocks.set place (clock.set instant) }, .nothing)
  | .advance span =>
    ({ session with clocks := session.clocks.set place (clock.advance span) }, .nothing)
  | .resetTally => ({ session with sampler := session.sampler.resetTally }, .nothing)
  | .clone =>
    ({ session with handles := session.handles ++ [place] }, .handle session.handles.length)
  | .cloneWithClock now =>
    ({ session with
        clocks := session.clocks ++ [{ now }]
        handles := session.handles ++ [session.clocks.length] },
      .handle session.handles.length)

/-- The clock of a handle, with its place. -/
def clockOf (session : Session) (handle : Nat) : Option (Nat × ManualClock) := do
  let place ← session.handles[handle]?
  let clock ← session.clocks[place]?
  pure (place, clock)

/-- Carry out an operation through a handle and report what that handle shows afterwards. -/
def perform (session : Session) (handle : Nat) (op : Op Event) : Session × Report Event :=
  let (session, reply) :=
    match session.clockOf handle with
    | some (place, clock) => session.apply place clock op
    | none => (session, .noSuchHandle)
  let now := ((session.clockOf handle).map fun found => found.2.now).getD 0
  (session, ⟨reply, now, session.sampler.lastStart, session.sampler.tally⟩)

/-- Carry out operations in order. -/
def performAll (session : Session) : List (Nat × Op Event) → Session × List (Report Event)
  | [] => (session, [])
  | (handle, op) :: rest =>
    let (session, report) := session.perform handle op
    let (session, reports) := session.performAll rest
    (session, report :: reports)

end Session

end FlowGate.Sampler
