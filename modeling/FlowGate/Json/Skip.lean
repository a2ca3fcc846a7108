/-
# Skipping values

A value that nobody asked for is skipped: it has to be well formed, but no number in it has to fit
and no string in it has to make sense as text. Lists and objects are followed with a list of the
brackets that are still open, innermost first, so values may be nested to any depth.

A number that breaks off at the end of the text counts as malformed here, and not as a text that
has ended too soon.
-/

import FlowGate.Json.Numeral
import FlowGate.Json.StringLiteral

namespace FlowGate.Json

/-- A bracket that has been opened. -/
inductive Opening
  | list
  | object
  deriving DecidableEq

/-- Skip a number, from its sign or its first digit. -/
def skipNumber (text : List Char) : Except ReadError (List Char) :=
  match readLiteral text with
  | .error _ => .error .malformed
  | .ok (_, rest) => .ok rest

/-- Whether a number can begin with a character. -/
def startsNumber (c : Char) : Bool := c == '-' || c.isDigit

/-- Skip a value without parts, whose first character is given. -/
def skipScalar (first : Char) (rest : List Char) : Except ReadError (List Char) :=
  if first = 'n' then expectLetters ['u', 'l', 'l'] rest
  else if first = 't' then expectLetters ['r', 'u', 'e'] rest
  else if first = 'f' then expectLetters ['a', 'l', 's', 'e'] rest
  else if first = '"' then skipString rest
  else if startsNumber first then skipNumber (first :: rest)
  else .error .malformed

theorem length_le_of_skipScalar {first : Char} {text rest : List Char}
    (skipped : skipScalar first text = .ok rest) : rest.length ≤ text.length := by
  unfold skipScalar at skipped
  split at skipped
  · exact length_le_of_expectLetters skipped
  split at skipped
  · exact length_le_of_expectLetters skipped
  split at skipped
  · exact length_le_of_expectLetters skipped
  split at skipped
  · exact Nat.le_of_lt (length_lt_of_skipString skipped)
  split at skipped
  · unfold skipNumber at skipped
    split at skipped
    · cases skipped
    · next read =>
      cases skipped
      have shorter := length_lt_of_readLiteral read
      simp only [List.length_cons] at shorter
      omega
  · cases skipped

/-- Skip a key of an object and the colon behind it. -/
def skipKey (text : List Char) : Except ReadError (List Char) :=
  match skipBlanks text with
  | [] => .error .endOfText
  | c :: rest =>
    if c = '"' then do
      let rest ← skipString rest
      expectColon rest
    else .error .malformed

theorem length_lt_of_skipKey {text rest : List Char} (skipped : skipKey text = .ok rest) :
    rest.length < text.length := by
  unfold skipKey at skipped
  split at skipped
  · cases skipped
  · next shown =>
    have behind := length_lt_of_skipBlanks_eq_cons shown
    split at skipped
    · obtain ⟨after, string, colon⟩ := exists_of_bind_eq_ok skipped
      have inString := length_lt_of_skipString string
      have inColon := length_lt_of_expectColon colon
      omega
    · cases skipped

/-- What comes next when values are skipped. -/
inductive Expected
  /-- A value. -/
  | value
  /-- A member of the object opened last, from its key on. -/
  | member
  /-- What follows a value. -/
  | separator
  deriving DecidableEq

/-- Skip what is expected next, and then all that is needed to close the open brackets. -/
def skipFrom (expected : Expected) (brackets : List Opening) (text : List Char) :
    Except ReadError (List Char) :=
  match expected with
  | .value =>
    match _shown : skipBlanks text with
    | [] => .error .endOfText
    | c :: rest =>
      if c = '[' then
        match _inside : skipBlanks rest with
        | ']' :: after => skipFrom .separator brackets after
        | _ => skipFrom .value (.list :: brackets) rest
      else if c = '{' then
        match _inside : skipBlanks rest with
        | '}' :: after => skipFrom .separator brackets after
        | _ => skipFrom .member (.object :: brackets) rest
      else
        match _scalar : skipScalar c rest with
        | .error error => .error error
        | .ok after => skipFrom .separator brackets after
  | .member =>
    match _key : skipKey text with
    | .error error => .error error
    | .ok rest => skipFrom .value brackets rest
  | .separator =>
    match brackets with
    | [] => .ok text
    | bracket :: outer =>
      match _shown : skipBlanks text with
      | [] => .error .endOfText
      | c :: rest =>
        match bracket with
        | .list =>
          if c = ',' then skipFrom .value (.list :: outer) rest
          else if c = ']' then skipFrom .separator outer rest
          else .error .malformed
        | .object =>
          if c = ',' then skipFrom .member (.object :: outer) rest
          else if c = '}' then skipFrom .separator outer rest
          else .error .malformed
termination_by text.length
decreasing_by
  · have := length_lt_of_skipBlanks_eq_cons _shown
    have := length_lt_of_skipBlanks_eq_cons _inside
    omega
  · exact length_lt_of_skipBlanks_eq_cons _shown
  · have := length_lt_of_skipBlanks_eq_cons _shown
    have := length_lt_of_skipBlanks_eq_cons _inside
    omega
  · exact length_lt_of_skipBlanks_eq_cons _shown
  · have := length_lt_of_skipBlanks_eq_cons _shown
    have := length_le_of_skipScalar _scalar
    omega
  · exact length_lt_of_skipKey _key
  all_goals exact length_lt_of_skipBlanks_eq_cons _shown

/-- Skip one value. -/
def skipValue (text : List Char) : Except ReadError (List Char) := skipFrom .value [] text

theorem length_le_of_skipFrom {expected : Expected} {brackets : List Opening}
    {text rest : List Char} (skipped : skipFrom expected brackets text = .ok rest) :
    rest.length ≤ text.length := by
  fun_induction skipFrom expected brackets text with
  | case1 | case6 | case8 | case11 | case14 | case17 => cases skipped
  | case10 => cases skipped; exact Nat.le_refl _
  | case2 _ _ _ _ inside shown ih | case4 _ _ _ _ inside shown _ ih =>
    have opened := length_lt_of_skipBlanks_eq_cons shown
    have closed := length_lt_of_skipBlanks_eq_cons inside
    have behind := ih skipped
    omega
  | case7 _ _ _ _ shown _ _ _ scalar ih =>
    have begun := length_lt_of_skipBlanks_eq_cons shown
    have ended := length_le_of_skipScalar scalar
    have behind := ih skipped
    omega
  | case9 _ _ _ key ih =>
    have begun := length_lt_of_skipKey key
    have behind := ih skipped
    omega
  | case3 _ _ _ _ shown ih | case5 _ _ _ _ shown _ ih | case12 _ _ _ shown ih
  | case13 _ _ _ shown _ ih | case15 _ _ _ shown ih | case16 _ _ _ shown _ ih =>
    have begun := length_lt_of_skipBlanks_eq_cons shown
    have behind := ih skipped
    omega

end FlowGate.Json
