/-
# Values of fields

A field holds a word or a list. A value of another kind is read far enough to name it in the report:
its letters, digits or characters have to be well formed, while of a list or an object only the
bracket is looked at.
-/

import FlowGate.Json.Skip

namespace FlowGate.Json

/-- How a number is named when it is not what was expected. -/
def Numeral.found : Numeral → Found
  | .natural value => .natural value.toNat
  | .negative magnitude => .negative magnitude
  | .fractional => .fractional

/-- What stands in a text whose first character is given. -/
def identify (first : Char) (rest : List Char) : Except ReadError Found :=
  if first = 'n' then (expectLetters ['u', 'l', 'l'] rest).map fun _ => .null
  else if first = 't' then (expectLetters ['r', 'u', 'e'] rest).map fun _ => .boolean true
  else if first = 'f' then (expectLetters ['a', 'l', 's', 'e'] rest).map fun _ => .boolean false
  else if first = '"' then (readString rest).map fun string => .text string.1
  else if startsNumber first then
    (readNumeral (first :: rest)).map fun number => number.1.found
  else if first = '[' then .ok .list
  else if first = '{' then .ok .object
  else .error .malformed

/-- The reason against a text that starts otherwise than expected. -/
def refusal (expected : String) (first : Char) (rest : List Char) : ReadError :=
  match identify first rest with
  | .error error => error
  | .ok found => .mismatch (.kind found expected)

/-! ## Words -/

/-- The name of the kind of value that a word is read from. -/
def wordKind : String := "u64"

/-- A number as a word. -/
def Numeral.word : Numeral → Except ReadError UInt64
  | .natural value => .ok value
  | .negative magnitude => .error (.mismatch (.range (.negative magnitude) wordKind))
  | .fractional => .error (.mismatch (.kind .fractional wordKind))

/-- Read a word. -/
def readWord (text : List Char) : Except ReadError (UInt64 × List Char) :=
  match skipBlanks text with
  | [] => .error .endOfText
  | c :: rest =>
    if startsNumber c then do
      let (numeral, rest) ← readNumeral (c :: rest)
      let word ← numeral.word
      pure (word, rest)
    else .error (refusal wordKind c rest)

theorem length_lt_of_readWord {text rest : List Char} {word : UInt64}
    (taken : readWord text = .ok (word, rest)) : rest.length < text.length := by
  unfold readWord at taken
  split at taken
  · cases taken
  · next c after shown =>
    have bound := length_skipBlanks_le text
    split at taken
    · obtain ⟨⟨numeral, behind⟩, read, taken⟩ := exists_of_bind_eq_ok taken
      obtain ⟨value, _, taken⟩ := exists_of_bind_eq_ok taken
      have shorter := length_lt_of_readNumeral read
      cases taken
      rw [shown] at bound
      omega
    · cases taken

/-- The reader of words. -/
def word : Reader UInt64 := ⟨readWord, length_lt_of_readWord⟩

/-! ## Lists -/

/-- The name of the kind of value that a list is read from. -/
def listKind : String := "a sequence"

/-- Read the next part of a list or an object whose next visible character is given: the first part
stands by itself, and every other one behind a comma. -/
def readPart {α : Type} (part : Reader α) (first : Bool) (c : Char) (rest : List Char) :
    Except ReadError (α × List Char) :=
  if first then part.read (c :: rest)
  else if c = ',' then part.read rest
  else .error .malformed

theorem length_le_of_readPart {α : Type} {part : Reader α} {first : Bool} {c : Char}
    {rest after : List Char} {value : α} (taken : readPart part first c rest = .ok (value, after)) :
    after.length ≤ rest.length := by
  unfold readPart at taken
  split at taken
  · have := part.shortens taken
    simp only [List.length_cons] at this
    omega
  · split at taken
    · exact Nat.le_of_lt (part.shortens taken)
    · cases taken

/-- Read the items of a list up to its closing bracket. -/
def readItems {α : Type} (item : Reader α) (first : Bool) (text : List Char) :
    Except ReadError (List α × List Char) :=
  match _shown : skipBlanks text with
  | [] => .error .endOfText
  | c :: rest =>
    if c = ']' then .ok ([], rest)
    else
      match _part : readPart item first c rest with
      | .error error => .error error
      | .ok (value, after) => do
        let (values, after) ← readItems item false after
        pure (value :: values, after)
termination_by text.length
decreasing_by
  have := length_lt_of_skipBlanks_eq_cons _shown
  have := length_le_of_readPart _part
  omega

theorem length_lt_of_readItems {α : Type} {item : Reader α} {first : Bool} {text rest : List Char}
    {values : List α} (taken : readItems item first text = .ok (values, rest)) :
    rest.length < text.length := by
  fun_induction readItems item first text generalizing values with
  | case1 | case3 => cases taken
  | case2 _ _ _ shown => cases taken; exact length_lt_of_skipBlanks_eq_cons shown
  | case4 _ _ _ _ shown _ _ _ part ih =>
    obtain ⟨⟨found, last⟩, items, taken⟩ := exists_of_bind_eq_ok taken
    cases taken
    have begun := length_lt_of_skipBlanks_eq_cons shown
    have ended := length_le_of_readPart part
    have behind := ih items
    omega

/-- Read a list. -/
def readList {α : Type} (item : Reader α) (text : List Char) :
    Except ReadError (List α × List Char) :=
  match skipBlanks text with
  | [] => .error .endOfText
  | c :: rest => if c = '[' then readItems item true rest else .error (refusal listKind c rest)

theorem length_lt_of_readList {α : Type} {item : Reader α} {text rest : List Char}
    {values : List α} (taken : readList item text = .ok (values, rest)) :
    rest.length < text.length := by
  unfold readList at taken
  split at taken
  · cases taken
  · next shown =>
    split at taken
    · have begun := length_lt_of_skipBlanks_eq_cons shown
      have behind := length_lt_of_readItems taken
      omega
    · cases taken

/-- The reader of lists of such items. -/
def list {α : Type} (item : Reader α) : Reader (List α) := ⟨readList item, length_lt_of_readList⟩

end FlowGate.Json
