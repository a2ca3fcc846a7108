/-
# Callers contending for a window

Any number of callers share one sampler. Each of them first takes a sighting, which is a reading of
its clock together with the start of the last window, and settles it at some later time; in between
others may take sightings and settle theirs, in any order, and their clocks need not agree.
-/

import FlowGate.Sampler.Basic

namespace FlowGate.Sampler

/-- What a caller saw before it decides: the time, and the start of the last window. -/
structure Sighting where
  now : UInt64
  start : UInt64
  deriving DecidableEq

/-- A sampler and the sightings that are not settled yet, the oldest first. -/
structure Contest where
  sampler : Sampler
  unsettled : List Sighting := []
  deriving DecidableEq

/-- A step of some caller. -/
inductive Move
  /-- A caller whose clock shows `now` takes a sighting. -/
  | sight (now : UInt64)
  /-- The caller with the sighting at this place decides on it. -/
  | settle (place : Nat)
  deriving DecidableEq

/-- A sighting that was settled: the decision, and the start of the last window around it. -/
structure Settlement where
  sighting : Sighting
  before : UInt64
  decision : Decision
  after : UInt64
  deriving DecidableEq

namespace Contest

/-- Carry out a move. A move that settles a sighting answers how; a move for a sighting that is not
there changes nothing. -/
def move (contest : Contest) : Move → Contest × Option Settlement
  | .sight now =>
    ({ contest with unsettled := contest.unsettled ++ [⟨now, contest.sampler.lastStart⟩] }, none)
  | .settle place =>
    match contest.unsettled[place]? with
    | none => (contest, none)
    | some sighting =>
      let (sampler, decision) := contest.sampler.decideSeen sighting.start sighting.now
      (⟨sampler, contest.unsettled.eraseIdx place⟩,
        some ⟨sighting, contest.sampler.lastStart, decision, sampler.lastStart⟩)

/-- Carry out moves in order; answers the settlements in the order in which they came about. -/
def play (contest : Contest) : List Move → Contest × List Settlement
  | [] => (contest, [])
  | move :: moves =>
    let (contest, settled) := contest.move move
    let (contest, settlements) := contest.play moves
    (contest, settled.toList ++ settlements)

/-- The moves of a heat: so many callers see the same state at `now`, and then all of them
settle. -/
def heat (callers : Nat) (now : UInt64) : List Move :=
  List.replicate callers (.sight now) ++ List.replicate callers (.settle 0)

/-- One heat after another, at every full period from the first to the last of `rounds`. -/
def race (contest : Contest) (callers : Nat) : Nat → Contest
  | 0 => contest
  | rounds + 1 =>
    let contest := contest.race callers rounds
    let now := UInt64.ofNat (rounds + 1) * contest.sampler.cycle.period
    (contest.play (heat callers now)).1

end Contest

end FlowGate.Sampler
