/-
# Phases of a sampling cycle

Where an instant falls relative to the window that was opened last: inside that window, at or past
the moment from which a new one may be opened, or in between. Instants before the start of the
window count as in between. Both bounds are held at the largest word.
-/

import FlowGate.Config.Cycle

namespace FlowGate.Sampler

open Config (Cycle)

/-- Where an instant falls relative to the last window. -/
inductive Phase
  /-- Inside the window. -/
  | active
  /-- A new window may be opened. -/
  | eligible
  /-- Between windows, or before the start of the last one. -/
  | dormant
  deriving DecidableEq

/-- The phase of the instant `now` when the last window started at `start`. -/
def phaseAt (cycle : Cycle) (start now : UInt64) : Phase :=
  if start ≤ now ∧ now < Word.addSat start cycle.window then .active
  else if Word.addSat start cycle.period ≤ now then .eligible
  else .dormant

end FlowGate.Sampler
