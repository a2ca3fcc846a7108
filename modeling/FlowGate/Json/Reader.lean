/-
# Readers

A reader takes something off the front of a text and leaves the rest. Every reader here leaves a
text that is shorter than the one it was given; a reader carries that fact with it, and it is what
lets a reader of many things be defined by recursion on the length of the text.
-/

import FlowGate.Json.Error

namespace FlowGate.Json

/-- A way to read values off the front of a text that always gets on. -/
structure Reader (α : Type) where
  read : List Char → Except ReadError (α × List Char)
  shortens : ∀ {text value rest}, read text = .ok (value, rest) → rest.length < text.length

/-- What a reading of two parts gives, it gives by way of a first part that was read. -/
theorem exists_of_bind_eq_ok {α β : Type} {first : Except ReadError α}
    {next : α → Except ReadError β} {value : β} (read : first >>= next = .ok value) :
    ∃ middle, first = .ok middle ∧ next middle = .ok value := by
  cases first with
  | error _ => cases read
  | ok middle => exact ⟨middle, rfl, read⟩

/-- The characters that may stand between the parts of a document. -/
def isBlank (c : Char) : Bool := c == ' ' || c == '\n' || c == '\t' || c == '\r'

/-- A text without the blanks at its front. -/
def skipBlanks (text : List Char) : List Char := text.dropWhile isBlank

theorem length_skipBlanks_le (text : List Char) : (skipBlanks text).length ≤ text.length :=
  (List.dropWhile_suffix isBlank).length_le

/-- The rest of a text whose first visible character is known is shorter than the text. -/
theorem length_lt_of_skipBlanks_eq_cons {text rest : List Char} {c : Char}
    (shown : skipBlanks text = c :: rest) : rest.length < text.length := by
  have bound := length_skipBlanks_le text
  rw [shown, List.length_cons] at bound
  omega

/-- Take the given letters off the front of a text. -/
def expectLetters : List Char → List Char → Except ReadError (List Char)
  | [], text => .ok text
  | _ :: _, [] => .error .endOfText
  | letter :: letters, c :: text =>
    if c = letter then expectLetters letters text else .error .malformed

theorem length_le_of_expectLetters {letters text rest : List Char}
    (taken : expectLetters letters text = .ok rest) : rest.length ≤ text.length := by
  induction letters generalizing text with
  | nil => cases taken; exact Nat.le_refl _
  | cons letter letters ih =>
    cases text with
    | nil => cases taken
    | cons c text =>
      rw [expectLetters] at taken
      split at taken
      · exact Nat.le_succ_of_le (ih taken)
      · cases taken

/-- Take a colon off the front of a text, and the blanks before it. -/
def expectColon (text : List Char) : Except ReadError (List Char) :=
  match skipBlanks text with
  | [] => .error .endOfText
  | c :: rest => if c = ':' then .ok rest else .error .malformed

theorem length_lt_of_expectColon {text rest : List Char} (taken : expectColon text = .ok rest) :
    rest.length < text.length := by
  unfold expectColon at taken
  split at taken
  · cases taken
  · next shown =>
    split at taken
    · cases taken; exact length_lt_of_skipBlanks_eq_cons shown
    · cases taken

/-- Read a whole document: what the reader takes, with nothing but blanks after it. -/
def Reader.readAll {α : Type} (reader : Reader α) (text : List Char) : Except ReadError α :=
  match reader.read text with
  | .error error => .error error
  | .ok (value, rest) => if skipBlanks rest = [] then .ok value else .error .malformed

end FlowGate.Json
