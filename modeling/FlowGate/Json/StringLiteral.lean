/-
# Strings in documents

A string runs to the next quote that is not escaped. Escapes stand for single characters; an escape
by code unit is four hexadecimal digits, and a character beyond the basic plane takes two of them, a
high surrogate and then a low one. Controls must be escaped.

A string can also be skipped. Then its escapes are looked at one by one, so a surrogate may stand
alone, for no character has to come out of it.
-/

import FlowGate.Json.Reader

namespace FlowGate.Json

/-- The value of a hexadecimal digit. -/
def hexValue? (c : Char) : Option Nat :=
  if c.isDigit then some (c.toNat - '0'.toNat)
  else if 'a' ≤ c ∧ c ≤ 'f' then some (c.toNat - 'a'.toNat + 10)
  else if 'A' ≤ c ∧ c ≤ 'F' then some (c.toNat - 'A'.toNat + 10)
  else none

/-- The value of four hexadecimal digits. -/
def hexUnit? (a b c d : Char) : Option Nat := do
  let a ← hexValue? a
  let b ← hexValue? b
  let c ← hexValue? c
  let d ← hexValue? d
  pure (((a * 16 + b) * 16 + c) * 16 + d)

/-- Four hexadecimal digits. The text has ended too soon if fewer than four bytes of it are left,
whatever they are. -/
def readUnit : List Char → Except ReadError (Nat × List Char)
  | a :: b :: c :: d :: rest =>
    match hexUnit? a b c d with
    | some unit => .ok (unit, rest)
    | none => .error .malformed
  | short =>
    if (String.ofList short).utf8ByteSize < 4 then .error .endOfText else .error .malformed

/-- Whether a code unit is the first half of a pair. -/
def isHighSurrogate (unit : Nat) : Bool := 0xD800 ≤ unit && unit < 0xDC00

/-- Whether a code unit is the second half of a pair. -/
def isLowSurrogate (unit : Nat) : Bool := 0xDC00 ≤ unit && unit < 0xE000

/-- The character that a pair of surrogates stands for. -/
def pairedChar (high low : Nat) : Char :=
  Char.ofNat ((high - 0xD800) * 0x400 + (low - 0xDC00) + 0x10000)

/-- The character that a letter after a backslash stands for. -/
def escapedChar? (letter : Char) : Option Char :=
  if letter = '"' ∨ letter = '\\' ∨ letter = '/' then some letter
  else if letter = 'b' then some '\x08'
  else if letter = 'f' then some '\x0c'
  else if letter = 'n' then some '\n'
  else if letter = 'r' then some '\r'
  else if letter = 't' then some '\t'
  else none

/-- The second half of a pair, with the backslash before it. -/
def readLowSurrogate : List Char → Except ReadError (Nat × List Char)
  | [] => .error .endOfText
  | ['\\'] => .error .endOfText
  | '\\' :: 'u' :: rest => do
    let (unit, rest) ← readUnit rest
    if isLowSurrogate unit then pure (unit, rest) else .error .malformed
  | _ => .error .malformed

/-- The character of an escape by code unit. -/
def readUnitEscape (text : List Char) : Except ReadError (Char × List Char) := do
  let (unit, rest) ← readUnit text
  if isHighSurrogate unit then
    let (low, rest) ← readLowSurrogate rest
    pure (pairedChar unit low, rest)
  else if isLowSurrogate unit then .error .malformed
  else pure (Char.ofNat unit, rest)

/-- The character of an escape, from behind its backslash. -/
def readEscape : List Char → Except ReadError (Char × List Char)
  | [] => .error .endOfText
  | letter :: rest =>
    match escapedChar? letter with
    | some c => .ok (c, rest)
    | none => if letter = 'u' then readUnitEscape rest else .error .malformed

/-- Skip an escape, from behind its backslash. -/
def skipEscape : List Char → Except ReadError (List Char)
  | [] => .error .endOfText
  | letter :: rest =>
    if (escapedChar? letter).isSome then .ok rest
    else if letter = 'u' then (readUnit rest).map Prod.snd
    else .error .malformed

/-! ## The rest is shorter -/

theorem length_lt_of_readUnit {text rest : List Char} {unit : Nat}
    (taken : readUnit text = .ok (unit, rest)) : rest.length < text.length := by
  unfold readUnit at taken
  split at taken
  · split at taken
    · cases taken; simp only [List.length_cons]; omega
    · cases taken
  · split at taken <;> cases taken

theorem length_lt_of_readLowSurrogate {text rest : List Char} {unit : Nat}
    (taken : readLowSurrogate text = .ok (unit, rest)) : rest.length < text.length := by
  unfold readLowSurrogate at taken
  split at taken
  · cases taken
  · cases taken
  · obtain ⟨⟨found, after⟩, read, taken⟩ := exists_of_bind_eq_ok taken
    have shorter := length_lt_of_readUnit read
    simp only at taken
    split at taken
    · cases taken; simp only [List.length_cons]; omega
    · cases taken
  · cases taken

theorem length_lt_of_readUnitEscape {text rest : List Char} {c : Char}
    (taken : readUnitEscape text = .ok (c, rest)) : rest.length < text.length := by
  unfold readUnitEscape at taken
  obtain ⟨⟨unit, after⟩, read, taken⟩ := exists_of_bind_eq_ok taken
  have shorter := length_lt_of_readUnit read
  simp only at taken
  split at taken
  · obtain ⟨⟨low, afterLow⟩, readLow, taken⟩ := exists_of_bind_eq_ok taken
    have shorterStill := length_lt_of_readLowSurrogate readLow
    have same : afterLow = rest := (Prod.mk.inj (Except.ok.inj taken)).2
    rw [← same]
    omega
  · split at taken
    · cases taken
    · cases taken; exact shorter

theorem length_lt_of_readEscape {text rest : List Char} {c : Char}
    (taken : readEscape text = .ok (c, rest)) : rest.length < text.length := by
  unfold readEscape at taken
  split at taken
  · cases taken
  · split at taken
    · cases taken; simp
    · split at taken
      · have shorter := length_lt_of_readUnitEscape taken
        simp only [List.length_cons]
        omega
      · cases taken

theorem length_lt_of_skipEscape {text rest : List Char}
    (taken : skipEscape text = .ok rest) : rest.length < text.length := by
  unfold skipEscape at taken
  split at taken
  · cases taken
  · split at taken
    · cases taken; simp
    · split at taken
      · next letter after _ _ =>
        cases read : readUnit after with
        | error _ => rw [read] at taken; cases taken
        | ok found =>
          have shorter := length_lt_of_readUnit read
          rw [read] at taken
          cases taken
          simp only [List.length_cons]
          omega
      · cases taken

/-! ## Whole strings -/

/-- The characters of a string, from behind its opening quote to behind the closing one. -/
def readString (text : List Char) : Except ReadError (List Char × List Char) :=
  match text with
  | [] => .error .endOfText
  | c :: rest =>
    if c = '"' then .ok ([], rest)
    else if c = '\\' then
      match _taken : readEscape rest with
      | .error error => .error error
      | .ok (escaped, after) => do
        let (characters, after) ← readString after
        pure (escaped :: characters, after)
    else if c < ' ' then .error .malformed
    else do
      let (characters, after) ← readString rest
      pure (c :: characters, after)
termination_by text.length
decreasing_by
  · have := length_lt_of_readEscape ‹_›
    simp only [List.length_cons]
    omega
  · simp

/-- Skip a string, from behind its opening quote. -/
def skipString (text : List Char) : Except ReadError (List Char) :=
  match text with
  | [] => .error .endOfText
  | c :: rest =>
    if c = '"' then .ok rest
    else if c = '\\' then
      match _taken : skipEscape rest with
      | .error error => .error error
      | .ok after => skipString after
    else if c < ' ' then .error .malformed
    else skipString rest
termination_by text.length
decreasing_by
  · have := length_lt_of_skipEscape ‹_›
    simp only [List.length_cons]
    omega
  · simp

theorem length_lt_of_readString {text characters rest : List Char}
    (taken : readString text = .ok (characters, rest)) : rest.length < text.length := by
  fun_induction readString text generalizing characters with
  | case1 => cases taken
  | case2 => cases taken; simp
  | case3 => cases taken
  | case4 _ _ _ read _ ih =>
    obtain ⟨⟨found, last⟩, string, taken⟩ := exists_of_bind_eq_ok taken
    cases taken
    have shorter := length_lt_of_readEscape read
    have shorterStill := ih string
    simp only [List.length_cons]
    omega
  | case5 => cases taken
  | case6 _ _ _ _ _ ih =>
    obtain ⟨⟨found, last⟩, string, taken⟩ := exists_of_bind_eq_ok taken
    cases taken
    have shorter := ih string
    simp only [List.length_cons]
    omega

theorem length_lt_of_skipString {text rest : List Char}
    (taken : skipString text = .ok rest) : rest.length < text.length := by
  fun_induction skipString text with
  | case1 => cases taken
  | case2 => cases taken; simp
  | case3 => cases taken
  | case4 _ _ read _ ih =>
    have shorter := length_lt_of_skipEscape read
    have shorterStill := ih taken
    simp only [List.length_cons]
    omega
  | case5 => cases taken
  | case6 _ _ _ _ _ ih =>
    have shorter := ih taken
    simp only [List.length_cons]
    omega

end FlowGate.Json
