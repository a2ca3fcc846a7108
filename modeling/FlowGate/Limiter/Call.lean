/-
# A call of a limiter, step by step

A caller that asks to go ahead consumes one unit of every tier in order. On a tier that is then over
budget it sleeps, and after every sleep it credits the tier and looks whether the tier is back
within budget. A call is cut here into the steps between which other callers may act; each step
takes at most one reading of the clock:

- arriving: the start of the call is read;
- charging a tier: the clock is read, then one unit is consumed;
- blocked on a tier: after a sleep the clock is read, and the tier is credited and looked at;
- leaving: the clock is read again if the call slept, and the delay is measured.

A clock that fails to answer ends the call where it stands and leaves the tiers as they are: what
was consumed stays consumed, and a call that ends so is not recorded in the metrics. Where a caller
deals with a tier it reads the clock while it holds the lock, so a failure there leaves the lock
poisoned. How and when blocked callers sleep, and in which order several callers step, is left to
whoever runs the calls.

What is done to the tiers and to the metrics along the way (`consume`, `lookAgain`, `conclude`)
knows nothing of the call. A call that is awaited goes through the same in a loop of its own.
-/

import FlowGate.Limiter.Basic

namespace FlowGate.Limiter

open Time (Duration)

/-- Where in its course a call stands. -/
inductive Stage
  | arriving
  | charging (tier : Nat)
  | blocked (tier : Nat)
  | leaving
  deriving DecidableEq

/-- Why a call ended without an answer. -/
inductive Failure
  | clockFailed
  | arithmetic (fault : Fault)
  deriving DecidableEq

/-- The wording under which a failure is reported. -/
def Failure.message : Failure → String
  | .clockFailed => "clock failed"
  | .arithmetic fault => fault.message

/-- Whether a call at this stage reads the clock with the lock in its hands. -/
def Stage.locks : Stage → Bool
  | .charging _ => true
  | .blocked _ => true
  | _ => false

/-- How far a call has come: on its way, returned with a delay, or ended at some stage. -/
inductive Progress
  | underway (stage : Stage)
  | returned (delay : UInt64)
  | failed (stage : Stage) (cause : Failure)
  deriving DecidableEq

/-- How a call that somebody ran ended, if it did. -/
inductive Ending
  | returned (delay : UInt64)
  | failed (cause : Failure)
  | unfinished
  deriving DecidableEq

/-- A call: when it started (zero until it has arrived), whether it has had to sleep, and how far
it has come. -/
structure Call where
  start : UInt64 := 0
  slept : Bool := false
  progress : Progress := .underway .arriving
  deriving DecidableEq

namespace Call

/-- A call that has not begun. -/
def fresh : Call := {}

/-- Whether the next step takes a reading of the clock. Only a call that leaves without having
slept does not; one that has ended takes no step. -/
def reads (call : Call) : Bool :=
  match call.progress with
  | .underway .leaving => call.slept
  | .underway _ => true
  | _ => false

/-- The tier on which a call is waiting, or was waiting when it failed. -/
def heldBy (call : Call) : Option Nat :=
  match call.progress with
  | .underway (.blocked tier) => some tier
  | .failed (.blocked tier) _ => some tier
  | _ => none

/-- The call at another stage. -/
def movedTo (call : Call) (stage : Stage) : Call := { call with progress := .underway stage }

/-- The call ended where it stood. -/
def fail (call : Call) (stage : Stage) (cause : Failure) : Call :=
  { call with progress := .failed stage cause }

end Call

/-- What a step leaves behind: the limiter, the call, and what was reported. -/
structure Effect where
  limiter : Limiter
  call : Call
  events : List LogEvent := []
  deriving DecidableEq

/-! ## Dealing with the tiers and the metrics -/

/-- Consume one unit of a tier. A caller that finds the tier over budget afterwards is told how long
to sleep; no credit is given here, so it sleeps at least once. -/
def consume (limiter : Limiter) (place : Nat) : Limiter × Except Fault (Option Duration) :=
  match limiter.lock[place]? with
  | none => (limiter.poison, .error (.missingTier place))
  | some tier =>
    let next := tier.charge
    (limiter.putTier place next,
      .ok (if next.overBudget then some (.ofMillis next.interval) else none))

/-- Credit a tier and tell whether it is over budget still, with what is reported of it. A credit of
no units is not reported. -/
def lookAgain (limiter : Limiter) (place : Nat) (now : UInt64) :
    Limiter × Except Fault (Bool × List LogEvent) :=
  match limiter.lock[place]? with
  | none => (limiter.poison, .error (.missingTier place))
  | some tier =>
    match tier.credit now with
    | .error fault => (limiter.poison, .error fault)
    | .ok (credited, next) =>
      let events := if credited = 0 then [] else [.tierCredited place credited next.count]
      (limiter.putTier place next, .ok (next.overBudget, events))

/-- Measure and record the delay of a call that is done with all tiers, with what is reported of it.
The delay of a call that slept is the time since it started, or zero if the clock went back
meanwhile; a call that never slept has no delay, whatever the clock shows. -/
def conclude (limiter : Limiter) (start : UInt64) (slept : Bool) (now : UInt64) :
    Limiter × UInt64 × List LogEvent :=
  let delay := if slept then Word.subSat now start else 0
  let events := if slept then [.callerDelayed delay] else []
  ({ limiter with metrics := limiter.metrics.record delay }, delay, events)

/-! ## The steps -/

/-- The stage of a call that is done with all tiers before place `tier`. -/
def stageFrom (limiter : Limiter) (tier : Nat) : Stage :=
  if tier < limiter.tierCount then .charging tier else .leaving

/-- Be admitted to a tier, or be blocked on it. -/
def charge (limiter : Limiter) (call : Call) (place : Nat) : Effect :=
  match limiter.consume place with
  | (after, .error fault) => ⟨after, call.fail (.charging place) (.arithmetic fault), []⟩
  | (after, .ok none) => ⟨after, call.movedTo (limiter.stageFrom (place + 1)), []⟩
  | (after, .ok (some _)) => ⟨after, { call.movedTo (.blocked place) with slept := true }, []⟩

/-- Look at a tier again, and go on if it is back within budget. -/
def recheck (limiter : Limiter) (call : Call) (place : Nat) (now : UInt64) : Effect :=
  match limiter.lookAgain place now with
  | (after, .error fault) => ⟨after, call.fail (.blocked place) (.arithmetic fault), []⟩
  | (after, .ok (exceeds, events)) =>
    let stage := if exceeds then .blocked place else limiter.stageFrom (place + 1)
    ⟨after, call.movedTo stage, events⟩

/-- Go ahead. -/
def leave (limiter : Limiter) (call : Call) (now : UInt64) : Effect :=
  let (after, delay, events) := limiter.conclude call.start call.slept now
  ⟨after, { call with progress := .returned delay }, events⟩

/-- The limiter that a call leaves behind whose clock fails at a stage. -/
def unwound (limiter : Limiter) (stage : Stage) : Limiter :=
  if stage.locks then limiter.poison else limiter

/-- What a call does at a stage with a reading of the clock. -/
def act (limiter : Limiter) (call : Call) (now : UInt64) : Stage → Effect
  | .arriving => ⟨limiter, { call.movedTo (limiter.stageFrom 0) with start := now }, []⟩
  | .charging place => limiter.charge call place
  | .blocked place => limiter.recheck call place now
  | .leaving => limiter.leave call now

/-- One step of a call, with the reading that the clock offers; `none` is a clock that fails. A step
that takes no reading ignores the offer, and a call that has ended takes no step. -/
def step (limiter : Limiter) (call : Call) (reading : Option UInt64) : Effect :=
  match call.progress with
  | .underway stage =>
    if call.reads then
      match reading with
      | none => ⟨limiter.unwound stage, call.fail stage .clockFailed, []⟩
      | some now => limiter.act call now stage
    else limiter.act call 0 stage
  | _ => ⟨limiter, call, []⟩

end FlowGate.Limiter
