/-
# Pipelines of captures

Log events reach several captures that record what they get. Some of them stand behind clones of one
layer, and others behind none. Who gets an event is not decided by the captures: about each event a
routing asks the layers before them and says which captures get it. The routing that is used where
nothing else is said asks one layer after another.
-/

import FlowGate.Snapshot.Layer

namespace FlowGate.Snapshot

open Time (Duration ManualClock)

/-- Somebody who records the events that get through to it, with the latest first, and the layer
before it, if there is one. -/
structure Capture where
  filter : Option Layer := none
  record : List Recorded := []
  deriving DecidableEq

/-- Record an event if it is delivered. -/
def Capture.receive (event : Event) (capture : Capture) (delivered : Bool) : Capture :=
  { capture with
    record := if delivered then event.recorded :: capture.record else capture.record }

/-- What stands between events and captures. About an event, it asks the layers before the captures,
and says which captures get the event. -/
abbrev Routing : Type := Event → Store → List (Option Layer) → Store × List Bool

/-- Ask one layer after another. A layer that has no use for events of the kind is not asked about
the event, and a capture behind no layer gets everything. -/
def Routing.inTurn (event : Event) (store : Store) : List (Option Layer) → Store × List Bool
  | [] => (store, [])
  | none :: filters =>
    let (store, delivered) := inTurn event store filters
    (store, true :: delivered)
  | some layer :: filters =>
    let (store, passes) :=
      if layer.enabled then layer.eventEnabled event store else (store, false)
    let (store, delivered) := inTurn event store filters
    (store, passes :: delivered)

/-- The captures, a layer behind whose clones some of them stand, and all that layers refer to. -/
structure Pipeline where
  store : Store
  layer : Layer
  captures : List Capture
  deriving DecidableEq

namespace Pipeline

/-- A pipeline with so many captures behind clones of a filter and one behind none. -/
def start (filter : Filter) (clocks : List ManualClock) (wall : UInt64) (clones : Nat) :
    Pipeline :=
  let (store, layer) := Store.install { clocks, wall } filter
  { store
    layer
    captures := List.replicate clones { filter := some layer.clone } ++ [{}] }

/-- The filter that the clones share. -/
def filter (pipeline : Pipeline) : Filter := pipeline.layer.filterIn pipeline.store

/-- Send an event to the captures that some routing says. -/
def sendBy (route : Routing) (pipeline : Pipeline) (event : Event) : Pipeline :=
  let (store, delivered) := route event pipeline.store (pipeline.captures.map Capture.filter)
  { pipeline with
    store
    captures := List.zipWith (Capture.receive event) pipeline.captures delivered }

/-- Send an event through the pipeline. -/
def send (pipeline : Pipeline) (event : Event) : Pipeline :=
  pipeline.sendBy Routing.inTurn event

/-- Whether the clock of the pipeline is moved by hand. -/
def isClocked (pipeline : Pipeline) : Bool := pipeline.layer.clock.isSome

/-- Let all clocks show an instant, where the clock is moved by hand. -/
def set (pipeline : Pipeline) (instant : UInt64) : Pipeline :=
  if pipeline.isClocked then { pipeline with store := pipeline.store.showing instant }
  else pipeline

/-- Let time pass, where the clock is moved by hand. -/
def advance (pipeline : Pipeline) (span : Duration) : Pipeline :=
  { pipeline with store.clocks := pipeline.store.clocks.map (ManualClock.advance · span) }

/-- What the captures behind clones have recorded, each with the latest event first. -/
def sampled (pipeline : Pipeline) : List (List Recorded) :=
  (pipeline.captures.filter (·.filter.isSome)).map Capture.record

/-- What a capture behind a clone has recorded, in order. A clone that is not there recorded
nothing. -/
def captured (pipeline : Pipeline) (clone : Nat) : List Recorded :=
  (pipeline.sampled[clone]?.getD []).reverse

/-- What the capture behind no clone has recorded, with the latest event first. -/
def full (pipeline : Pipeline) : List Recorded :=
  ((pipeline.captures.find? (·.filter.isNone)).map Capture.record).getD []

/-- What can be asked of a pipeline or done to it. -/
inductive Op
  /-- Ask the filter about a target without sending an event. -/
  | emit (target : String)
  | isExempt (target : String)
  | event (event : Event)
  /-- Open a span, and send a message inside it if one is given. -/
  | span (message : Option Message)
  /-- So many numbered events from a target, letting `step` pass after each. -/
  | drive (times : Nat) (step : Duration) (target : String)
  | set (instant : UInt64)
  | advance (span : Duration)
  | captured
  | messages
  /-- Empty the first capture. -/
  | clear
  | resetTally
  deriving DecidableEq

/-- What an operation answers. -/
inductive Reply
  | nothing
  | flag (flag : Bool)
  | captured (first second : List Recorded)
  | messages (texts : List String)
  deriving DecidableEq

/-- What can be observed after an operation. Time and the start of the last window are shown only
where the clock is moved by hand. -/
structure Report where
  reply : Reply
  tally : Sampler.Tally
  counts : List Nat
  time : Option (UInt64 × UInt64)
  deriving DecidableEq

/-- The events of a drive that are still to come, the next one with the number `first`. -/
def drive (pipeline : Pipeline) (step : Duration) (target : String) (first : Nat) :
    Nat → Pipeline
  | 0 => pipeline
  | times + 1 =>
    let tick : Event := ⟨.info, target, .plain ("tick " ++ toString first)⟩
    ((pipeline.send tick).advance step).drive step target (first + 1) times

/-- The target of messages sent inside a span. -/
def spanTarget : String := "app"

/-- Carry out an operation. -/
def apply (pipeline : Pipeline) : Op → Pipeline × Reply
  | .emit target =>
    let (store, passes) := pipeline.layer.shouldEmit target pipeline.store
    ({ pipeline with store }, .flag passes)
  | .isExempt target => (pipeline, .flag (pipeline.filter.isExempt target))
  | .event event => (pipeline.send event, .nothing)
  | .span none => (pipeline, .flag pipeline.layer.enabled)
  | .span (some message) =>
    (pipeline.send ⟨.info, spanTarget, message⟩, .flag pipeline.layer.enabled)
  | .drive times step target => (pipeline.drive step target 0 times, .nothing)
  | .set instant => (pipeline.set instant, .nothing)
  | .advance span => (pipeline.advance span, .nothing)
  | .captured => (pipeline, .captured (pipeline.captured 0) (pipeline.captured 1))
  | .messages => (pipeline, .messages ((pipeline.captured 0).map Recorded.text))
  | .clear =>
    ({ pipeline with captures := pipeline.captures.modifyHead ({ · with record := [] }) }, .nothing)
  | .resetTally => ({ pipeline with store := pipeline.layer.resetTally pipeline.store }, .nothing)

/-- What can be observed now, after an operation that gave this answer. -/
def report (pipeline : Pipeline) (reply : Reply) : Report where
  reply
  tally := pipeline.filter.sampler.tally
  counts :=
    [(pipeline.captured 0).length, (pipeline.captured 1).length, pipeline.full.length]
  time :=
    if pipeline.isClocked then
      some (pipeline.layer.now pipeline.store, pipeline.filter.sampler.lastStart)
    else none

/-- Carry out operations in order and report after each. -/
def performAll (pipeline : Pipeline) : List Op → Pipeline × List Report
  | [] => (pipeline, [])
  | op :: ops =>
    let (pipeline, reply) := pipeline.apply op
    let report := pipeline.report reply
    let (pipeline, reports) := pipeline.performAll ops
    (pipeline, report :: reports)

end Pipeline

end FlowGate.Snapshot
