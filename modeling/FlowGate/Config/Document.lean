/-
# Configuration documents

Rules, lists of rules and sampling cycles as they are declared for documents. A rule needs both of
its fields and a list of rules its only one; a cycle needs none, and what it is not given is one
second for the window and one minute for the period. Decoding a document does not check what it
says.
-/

import FlowGate.Json.Shape
import FlowGate.Config.Rule
import FlowGate.Config.Cycle

namespace FlowGate.Config

open Json (Declaration Shape Library)

/-- How a rule is declared. -/
def Rule.declaration : Declaration UInt64 Rule where
  title := "TierConfig"
  keys := ["max_count", "period_millis"]
  distinct := by decide
  make
    | [quota, period] => some ⟨quota, period⟩
    | _ => none

/-- How a list of rules is declared. -/
def Rule.listDeclaration : Declaration (List Rule) (List Rule) where
  title := "ThroughputConfig"
  keys := ["tiers"]
  distinct := by decide
  make
    | [rules] => some rules
    | _ => none

/-- How a cycle is declared. Fields that are not given are those of the default. -/
def Cycle.declaration : Declaration UInt64 Cycle where
  title := "SamplerConfig"
  keys := ["window_millis", "period_millis"]
  distinct := by decide
  make
    | [window, period] => some ⟨window, period⟩
    | _ => none
  usual := some [Cycle.default.window, Cycle.default.period]

/-- The shape of a rule. -/
def Rule.shape : Shape Rule := .record Rule.declaration .word

/-- The shape of a list of rules. -/
def Rule.listShape : Shape (List Rule) := .record Rule.listDeclaration (.list Rule.shape)

/-- The shape of a cycle. -/
def Cycle.shape : Shape Cycle := .record Cycle.declaration .word

variable (library : Library)

/-- The rule that a document says. -/
def Rule.ofText (text : String) : Except library.Error Rule :=
  library.decode Rule.shape text.toList

/-- The list of rules that a document says. -/
def Rule.listOfText (text : String) : Except library.Error (List Rule) :=
  library.decode Rule.listShape text.toList

/-- The cycle that a document says. -/
def Cycle.ofText (text : String) : Except library.Error Cycle :=
  library.decode Cycle.shape text.toList

end FlowGate.Config
