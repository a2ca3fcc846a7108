/-
# Any number of callers

Many callers share one limiter. Between two steps of one of them the others may take any number of
steps, so a run is a list of moves in any order, each with a clock reading of its own: readings need
not agree, stand in order, or be there at all. A caller that sleeps simply does not move, and a call
made inside the sleep of another is a caller like the rest.

What a move did is kept as a deed. The deeds of a run, in order, are all there is to know about who
consumed, credited, passed and returned when.
-/

import FlowGate.Limiter.Call

namespace FlowGate.Limiter

/-- A limiter and the calls made of it so far, in the order of their arrival. -/
structure Crowd where
  limiter : Limiter
  calls : List Call := []
  deriving DecidableEq

/-- What can happen to a crowd. -/
inductive Move
  /-- Another caller turns up. -/
  | join
  /-- The caller at this place takes its next step, with a reading or with a clock that fails. -/
  | step (caller : Nat) (reading : Option UInt64)
  /-- The metrics of the limiter start afresh. -/
  | resetMetrics
  deriving DecidableEq

/-- What a caller did in one step: where it stood, what it read, how far it came, and what was
reported. -/
structure Deed where
  caller : Nat
  stage : Stage
  reading : Option UInt64
  progress : Progress
  events : List LogEvent
  deriving DecidableEq

namespace Crowd

/-- Carry out a move. A caller who is not there, or whose call has ended, does nothing. -/
def move (crowd : Crowd) : Move → Crowd × Option Deed
  | .join => ({ crowd with calls := crowd.calls ++ [Call.fresh] }, none)
  | .resetMetrics => ({ crowd with limiter := crowd.limiter.resetMetrics }, none)
  | .step caller reading =>
    match crowd.calls[caller]? with
    | none => (crowd, none)
    | some call =>
      match call.progress with
      | .underway stage =>
        let effect := crowd.limiter.step call reading
        (⟨effect.limiter, crowd.calls.set caller effect.call⟩,
          some ⟨caller, stage, reading, effect.call.progress, effect.events⟩)
      | _ => (crowd, none)

/-- Carry out moves in order; answers the deeds in the order in which they were done. -/
def play (crowd : Crowd) : List Move → Crowd × List Deed
  | [] => (crowd, [])
  | move :: moves =>
    let (crowd, deed) := crowd.move move
    let (crowd, deeds) := crowd.play moves
    (crowd, deed.toList ++ deeds)

/-- The callers that are waiting on a tier, or were waiting on it when their call failed. -/
def heldBy (crowd : Crowd) (tier : Nat) : Nat :=
  crowd.calls.countP fun call => call.heldBy == some tier

end Crowd

namespace Deed

/-- Whether a unit of a tier was consumed: the caller stood before the tier and its clock
answered. -/
def charges (deed : Deed) (tier : Nat) : Bool :=
  deed.stage == .charging tier && deed.reading.isSome

/-- Whether a caller got past a tier: it was charging the tier or blocked on it, and now it is
further on. -/
def passes (deed : Deed) (tier : Nat) : Bool :=
  (deed.stage == .charging tier || deed.stage == .blocked tier) &&
    match deed.progress with
    | .underway stage => stage != .blocked tier
    | _ => false

/-- The reading that a caller took at a tier. -/
def readingAt (deed : Deed) (tier : Nat) : Option UInt64 :=
  if deed.stage = .charging tier ∨ deed.stage = .blocked tier then deed.reading else none

/-- The units that an event reports as given back to a tier. -/
def creditedBy (tier : Nat) : LogEvent → Nat
  | .tierCredited place units _ => if place = tier then units.toNat else 0
  | _ => 0

/-- The units that were given back to a tier, as they were reported. -/
def credited (deed : Deed) (tier : Nat) : Nat :=
  deed.events.foldr (fun event units => creditedBy tier event + units) 0

end Deed

end FlowGate.Limiter
