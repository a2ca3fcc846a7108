/-
# Calls that are awaited

A call can also be made by a task, which awaits its sleeps instead of holding up its thread. It has
a loop of its own: tier by tier it asks to be admitted, and where it is over budget it sleeps and
looks again until it is not. What is done at a tier and at the end is what every call does there;
the order of it all, when the call counts as delayed and where it takes its readings, is written
down here a second time.

The runtime on which tasks are awaited is not part of this development. All that a call needs of it
is the instant that its clock shows and to be woken after a while, so it enters as a value of type
`Runtime`, over states of whatever kind. Where time is virtual (`Runtime.Virtual`) it stands still
unless somebody sleeps or moves it on.
-/

import FlowGate.Limiter.Call

namespace FlowGate.Limiter

open Time (Duration)

/-- What is asked of a runtime whose states are of type `σ`: the instant shown in a state, the state
in which a sleeper is woken, and the state after time has been moved on. -/
structure Runtime (σ : Type) where
  now : σ → UInt64
  sleep : Duration → σ → σ
  advance : UInt64 → σ → σ

/-- Time is virtual: a sleep takes exactly as long as was asked for, and nothing but a sleep and
being moved on lets time pass. -/
structure Runtime.Virtual {σ : Type} (runtime : Runtime σ) : Prop where
  now_sleep (nap : Duration) (state : σ) :
    runtime.now (runtime.sleep nap state) = runtime.now state + nap.millis
  now_advance (millis : UInt64) (state : σ) :
    runtime.now (runtime.advance millis state) = runtime.now state + millis

/-- A limiter on a runtime in some state, and what has been reported since the last operation
began. -/
structure Executor (σ : Type) where
  limiter : Limiter
  state : σ
  events : List LogEvent := []

namespace Executor

variable {σ : Type}

/-- The naps after which a call is given up that is blocked on a tier. -/
def patience : Nat := UInt64.size

/-- Sleep and look at a tier again, until it is back within budget or after so many naps. Answers
how the call ends, if it does not get past the tier. -/
def sleepOff (runtime : Runtime σ) (executor : Executor σ) (place : Nat) (retry : Duration) :
    Nat → Executor σ × Option Ending
  | 0 => (executor, some .unfinished)
  | naps + 1 =>
    let state := runtime.sleep retry executor.state
    match executor.limiter.lookAgain place (runtime.now state) with
    | (limiter, .error fault) =>
      ({ executor with limiter, state }, some (.failed (.arithmetic fault)))
    | (limiter, .ok (exceeds, events)) =>
      let executor : Executor σ := { limiter, state, events := executor.events ++ events }
      if exceeds then executor.sleepOff runtime place retry naps else (executor, none)

/-- Get past the tiers at these places, one after the other. Answers whether the call has been
delayed, and how it ends if it does not get past all of them. -/
def passAll (runtime : Runtime σ) (executor : Executor σ) (delayed : Bool) :
    List Nat → Executor σ × Bool × Option Ending
  | [] => (executor, delayed, none)
  | place :: places =>
    match executor.limiter.consume place with
    | (limiter, .error fault) =>
      ({ executor with limiter }, delayed, some (.failed (.arithmetic fault)))
    | (limiter, .ok none) => { executor with limiter }.passAll runtime delayed places
    | (limiter, .ok (some retry)) =>
      match { executor with limiter }.sleepOff runtime place retry patience with
      | (executor, some ending) => (executor, true, some ending)
      | (executor, none) => executor.passAll runtime true places

/-- Go ahead with a call that started at `start`. -/
def finish (runtime : Runtime σ) (executor : Executor σ) (start : UInt64) (delayed : Bool) :
    Executor σ × Ending :=
  let (limiter, delay, events) :=
    executor.limiter.conclude start delayed (runtime.now executor.state)
  ({ executor with limiter, events := executor.events ++ events }, .returned delay)

/-- Call the limiter and await the call. -/
def control (runtime : Runtime σ) (executor : Executor σ) : Executor σ × Ending :=
  let start := runtime.now executor.state
  match executor.passAll runtime false (List.range executor.limiter.tierCount) with
  | (executor, _, some ending) => (executor, ending)
  | (executor, delayed, none) => executor.finish runtime start delayed

/-- Await so many calls, one after the other; answers the delays. The first call that does not
return ends the row, and its ending is answered, too. -/
def controlTimes (runtime : Runtime σ) (executor : Executor σ) :
    Nat → Executor σ × List UInt64 × Option Ending
  | 0 => (executor, [], none)
  | times + 1 =>
    match executor.control runtime with
    | (executor, .returned delay) =>
      let (executor, delays, stop) := executor.controlTimes runtime times
      (executor, delay :: delays, stop)
    | (executor, ending) => (executor, [], some ending)

/-- What can be asked of an executor. -/
inductive Op
  | control (times : Nat)
  | advance (millis : UInt64)
  deriving DecidableEq

/-- What an operation answers. -/
inductive Reply
  | nothing
  | delays (delays : List UInt64)
  | failure (cause : Failure)
  | unfinished
  deriving DecidableEq

/-- The answer to a row of calls. -/
def Reply.ofRow (delays : List UInt64) : Option Ending → Reply
  | none => .delays delays
  | some (.failed cause) => .failure cause
  | some _ => .unfinished

/-- Carry out an operation. The record starts empty. -/
def apply (runtime : Runtime σ) (executor : Executor σ) : Op → Executor σ × Reply
  | .control times =>
    let (executor, delays, stop) := { executor with events := [] }.controlTimes runtime times
    (executor, Reply.ofRow delays stop)
  | .advance millis =>
    ({ executor with state := runtime.advance millis executor.state, events := [] }, .nothing)

/-- The executor after each operation, with the answers. -/
def course (runtime : Runtime σ) (executor : Executor σ) : List Op → List (Executor σ × Reply)
  | [] => []
  | op :: ops =>
    let next := executor.apply runtime op
    next :: next.1.course runtime ops

end Executor

/-! ## A runtime under virtual time -/

/-- The instant at which virtual time started, what has passed of it, and the naps that were
awaited, the latest first. -/
structure VirtualTime where
  epoch : UInt64
  elapsed : UInt64 := 0
  naps : List Duration := []
  deriving DecidableEq

/-- Nothing runs but one task. When that sleeps, time moves straight to its deadline. -/
def VirtualTime.runtime : Runtime VirtualTime where
  now time := time.epoch + time.elapsed
  sleep nap time :=
    { time with elapsed := time.elapsed + nap.millis, naps := nap :: time.naps }
  advance millis time := { time with elapsed := time.elapsed + millis }

theorem VirtualTime.virtual_runtime : VirtualTime.runtime.Virtual where
  now_sleep nap time := (UInt64.add_assoc time.epoch time.elapsed nap.millis).symm
  now_advance millis time := (UInt64.add_assoc time.epoch time.elapsed millis).symm

end FlowGate.Limiter
