/-
# Layers

A layer is a filter as it stands before a capture. Its cycle and its exempt targets it holds itself;
the start of the last window and the tally are kept in a cell that it refers to, and its clock is a
reference, too. A clone copies what a layer holds and with it the references, so whatever is done
through one of them is there for all.

Who hands on events asks a layer first whether it has use for anything of their kind, which it
always has, and then about each single event.
-/

import FlowGate.Snapshot.Filter
import FlowGate.Snapshot.Message
import FlowGate.Time.ManualClock

namespace FlowGate.Snapshot

open Config (Cycle)
open Time (ManualClock)

/-- The start of the last window and the tally, for all who refer to them. -/
structure Cell where
  lastStart : UInt64 := 0
  tally : Sampler.Tally := {}
  deriving DecidableEq

/-- All that layers refer to: the cells, the clocks that are moved by hand, and the instant that the
wall clock shows. -/
structure Store where
  cells : List Cell := []
  clocks : List ManualClock := []
  wall : UInt64 := 0
  deriving DecidableEq

/-- A filter whose changing part is kept in the cell with this number. -/
structure Layer where
  cycle : Cycle
  exempt : List String
  clock : Option Nat
  cell : Nat
  deriving DecidableEq

/-- All clocks show this instant. -/
def Store.showing (store : Store) (instant : UInt64) : Store :=
  { store with clocks := store.clocks.map (ManualClock.set · instant), wall := instant }

/-- A layer for a filter, with a cell of its own. -/
def Store.install (store : Store) (filter : Filter) : Store × Layer :=
  ({ store with cells := store.cells ++ [⟨filter.sampler.lastStart, filter.sampler.tally⟩] },
    ⟨filter.sampler.cycle, filter.exempt, filter.clock, store.cells.length⟩)

namespace Layer

/-- Another layer that refers to the same cell and the same clock. -/
def clone (layer : Layer) : Layer := ⟨layer.cycle, layer.exempt, layer.clock, layer.cell⟩

/-- The instant that the clock of a layer shows. -/
def now (layer : Layer) (store : Store) : UInt64 :=
  match layer.clock.bind (store.clocks[·]?) with
  | some clock => clock.now
  | none => store.wall

/-- The filter that a layer is at the moment. -/
def filterIn (layer : Layer) (store : Store) : Filter :=
  let cell := store.cells[layer.cell]?.getD {}
  { sampler := { cycle := layer.cycle, lastStart := cell.lastStart, tally := cell.tally }
    exempt := layer.exempt
    clock := layer.clock }

/-- Put what has become of the filter back into the cell. -/
def save (layer : Layer) (store : Store) (filter : Filter) : Store :=
  { store with
    cells := store.cells.set layer.cell ⟨filter.sampler.lastStart, filter.sampler.tally⟩ }

/-- Decide whether an event from a target passes now. -/
def shouldEmit (layer : Layer) (target : String) (store : Store) : Store × Bool :=
  let (filter, passes) := (layer.filterIn store).shouldEmit target (layer.now store)
  (layer.save store filter, passes)

/-- Whether a layer has use for spans and events of some kind at all. Sampling is done event by
event, so it always has. -/
def enabled (_ : Layer) : Bool := true

/-- Decide about an event, by its target. -/
def eventEnabled (layer : Layer) (event : Event) (store : Store) : Store × Bool :=
  layer.shouldEmit event.target store

/-- Start the tally afresh. -/
def resetTally (layer : Layer) (store : Store) : Store :=
  layer.save store (layer.filterIn store).resetTally

end Layer

end FlowGate.Snapshot
