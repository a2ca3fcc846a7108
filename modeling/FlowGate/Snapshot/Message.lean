/-
# Messages of log events

The message of an event can be given in several forms. What is recorded is always a text, and it
depends on the form: text given plainly, or beside other fields, is recorded as it is; a value is
recorded in quotes; a number is recorded in decimals; and an event without a message records the
empty text.
-/

import FlowGate.Text.Quoted
import FlowGate.Log

namespace FlowGate.Snapshot

/-- The message of an event, in the form in which it is given. -/
inductive Message
  | plain (text : String)
  | besideFields (text : String)
  | quoted (text : String)
  | number (value : Nat)
  | absent
  deriving DecidableEq

/-- The text that is recorded for a message. -/
def Message.recorded : Message → String
  | .plain text => text
  | .besideFields text => text
  | .quoted text => Text.quoted text.toList
  | .number value => toString value
  | .absent => ""

/-- A log event on its way to whoever records it. -/
structure Event where
  level : Level
  target : String
  message : Message
  deriving DecidableEq

/-- A log event as it is recorded. -/
structure Recorded where
  level : Level
  target : String
  text : String
  deriving DecidableEq

/-- The record of an event. -/
def Event.recorded (event : Event) : Recorded :=
  ⟨event.level, event.target, event.message.recorded⟩

end FlowGate.Snapshot
