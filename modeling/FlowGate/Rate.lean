/-
# Rates

The share of a part in a whole, as a double. Both counts are rounded to the nearest double before
the division, and the share in an empty whole is zero.
-/

namespace FlowGate

/-- The share of `part` in `whole`; zero where the whole is empty. -/
def rate (part whole : UInt64) : Float :=
  if whole = 0 then 0.0 else part.toFloat / whole.toFloat

end FlowGate
