/-
# Arithmetic faults

Time, quotas and counters are fixed-width words, so an operation on them can fail in exactly the
ways listed here. A fault is a value: whoever computes decides what is left unchanged when one
occurs, and a theorem can say that none does.
-/

namespace FlowGate

/-- Why a computation on words, or a look-up among tiers, has no result. -/
inductive Fault
  | divisionByZero
  | productOverflow
  | differenceUnderflow
  | missingTier (index : Nat)
  deriving DecidableEq

/-- The wording under which a fault is reported. -/
def Fault.message : Fault → String
  | .divisionByZero => "attempt to divide by zero"
  | .productOverflow => "attempt to multiply with overflow"
  | .differenceUnderflow => "attempt to subtract with overflow"
  | .missingTier index => "no tier at index " ++ toString index

/-- What follows a computation and cannot fail adds no reason to fail. -/
theorem bind_pure_eq_error_iff {Reason Value Answer : Type} {result : Except Reason Value}
    {answer : Value → Answer} {reason : Reason} :
    (result >>= fun value => pure (answer value)) = .error reason ↔ result = .error reason := by
  cases result <;> simp [bind, Except.bind, pure, Except.pure]

end FlowGate
