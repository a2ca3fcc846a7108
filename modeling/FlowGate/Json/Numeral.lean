/-
# Numbers in documents

A number is read as a literal first: a sign, the digits before the point, those after it, and an
exponent. Only a literal without point and exponent can stand for an integer, and only if the
integer lies between the least signed word and the largest unsigned one; a minus sign before zero
makes the literal fractional, too. All other literals are fractional, and are refused as malformed
when they are too large for a double.
-/

import FlowGate.Json.Reader

namespace FlowGate.Json

/-- The parts of a number as it is written. The exponent is its sign and its digits. -/
structure Literal where
  negative : Bool
  whole : List Char
  fraction : Option (List Char)
  exponent : Option (Bool × List Char)
  deriving DecidableEq

/-- What a number stands for. -/
inductive Numeral
  | natural (value : UInt64)
  | negative (magnitude : Nat)
  | fractional
  deriving DecidableEq

/-! ## Reading literals -/

/-- The value of a digit. -/
def digitValue (c : Char) : Nat := c.toNat - '0'.toNat

/-- The value of a row of digits. -/
def decimalValue (digits : List Char) : Nat :=
  digits.foldl (fun value c => value * 10 + digitValue c) 0

/-- What is wrong where a digit is missing. -/
def digitMissing (text : List Char) : ReadError :=
  if text.isEmpty then .endOfText else .malformed

/-- One or more digits, as many as there are. -/
def readDigits (text : List Char) : Except ReadError (List Char × List Char) :=
  let digits := text.takeWhile Char.isDigit
  if digits.isEmpty then .error (digitMissing text)
  else .ok (digits, text.dropWhile Char.isDigit)

/-- The digits before the point: a zero that leads stands alone. -/
def readWhole (text : List Char) : Except ReadError (List Char × List Char) := do
  let (digits, rest) ← readDigits text
  if digits.head? = some '0' ∧ 1 < digits.length then .error .malformed
  else pure (digits, rest)

/-- A sign in front of a text, and whether it is a minus. -/
def takeSign : List Char → Bool × List Char
  | [] => (false, [])
  | c :: rest =>
    if c = '-' then (true, rest) else if c = '+' then (false, rest) else (false, c :: rest)

/-- The digits after a point, if there is a point. -/
def readFraction (text : List Char) : Except ReadError (Option (List Char) × List Char) :=
  if text.head? = some '.' then do
    let (digits, rest) ← readDigits text.tail
    pure (some digits, rest)
  else .ok (none, text)

/-- An exponent, if there is one. -/
def readExponent (text : List Char) :
    Except ReadError (Option (Bool × List Char) × List Char) :=
  if text.head? = some 'e' ∨ text.head? = some 'E' then do
    let signed := takeSign text.tail
    let (digits, rest) ← readDigits signed.2
    pure (some (signed.1, digits), rest)
  else .ok (none, text)

/-- A number as it is written, from its sign or its first digit. -/
def readLiteral (text : List Char) : Except ReadError (Literal × List Char) := do
  let negative := text.head? == some '-'
  let (whole, rest) ← readWhole (if negative then text.tail else text)
  let (fraction, rest) ← readFraction rest
  let (exponent, rest) ← readExponent rest
  pure (⟨negative, whole, fraction, exponent⟩, rest)

/-! ## What literals stand for -/

/-- Digits taken into a significand that must fit into a word: the significand, the number of
digits taken, and the number of digits dropped from the first one on that does not fit. -/
def absorb (significand : Nat) : List Char → Nat × Nat × Nat
  | [] => (significand, 0, 0)
  | c :: digits =>
    let next := significand * 10 + digitValue c
    if next < UInt64.size then
      let (final, taken, dropped) := absorb next digits
      (final, taken + 1, dropped)
    else (significand, 0, digits.length + 1)

/-- The significand and the decimal exponent of a literal. A digit dropped before the point raises
the exponent by one, and a digit taken after it lowers the exponent by one. -/
def Literal.scale (literal : Literal) : Nat × Int :=
  let (head, _, dropped) := absorb 0 literal.whole
  let (significand, taken, _) := absorb head (literal.fraction.getD [])
  let exponent : Int :=
    match literal.exponent with
    | none => 0
    | some (negative, digits) =>
      if negative then -(decimalValue digits : Int) else decimalValue digits
  (significand, dropped - taken + exponent)

/-- Whether a literal is too large for a double. -/
def Literal.tooLarge (literal : Literal) : Bool :=
  let (significand, exponent) := literal.scale
  significand != 0 && 0 ≤ exponent &&
    (308 < exponent ||
      ((UInt64.ofNat significand).toFloat * Float.ofScientific 1 false exponent.toNat).isInf)

/-- The number that a literal stands for, if it is an integer that can be told apart. -/
def Literal.integer? (literal : Literal) : Option Numeral :=
  if literal.fraction.isSome || literal.exponent.isSome then none
  else
    let value := decimalValue literal.whole
    if literal.negative then
      if 0 < value ∧ value ≤ UInt64.size / 2 then some (.negative value) else none
    else if value < UInt64.size then some (.natural (UInt64.ofNat value)) else none

/-- What a literal stands for. -/
def Literal.numeral (literal : Literal) : Except ReadError Numeral :=
  match literal.integer? with
  | some numeral => .ok numeral
  | none => if literal.tooLarge then .error .malformed else .ok .fractional

/-- Read a number. -/
def readNumeral (text : List Char) : Except ReadError (Numeral × List Char) := do
  let (literal, rest) ← readLiteral text
  let numeral ← literal.numeral
  pure (numeral, rest)

/-! ## The rest is shorter -/

theorem length_lt_of_readDigits {text digits rest : List Char}
    (taken : readDigits text = .ok (digits, rest)) : rest.length < text.length := by
  have whole : (text.takeWhile Char.isDigit).length + (text.dropWhile Char.isDigit).length
      = text.length := by
    rw [← List.length_append, List.takeWhile_append_dropWhile]
  unfold readDigits at taken
  simp only at taken
  split at taken
  · cases taken
  · next present =>
    cases taken
    rw [List.isEmpty_iff_length_eq_zero] at present
    omega

theorem length_lt_of_readWhole {text digits rest : List Char}
    (taken : readWhole text = .ok (digits, rest)) : rest.length < text.length := by
  unfold readWhole at taken
  obtain ⟨⟨found, after⟩, read, finish⟩ := exists_of_bind_eq_ok taken
  have shorter := length_lt_of_readDigits read
  simp only at finish
  split at finish
  · cases finish
  · cases finish; exact shorter

theorem length_le_of_readFraction {text rest : List Char} {fraction : Option (List Char)}
    (taken : readFraction text = .ok (fraction, rest)) : rest.length ≤ text.length := by
  unfold readFraction at taken
  split at taken
  · obtain ⟨⟨found, after⟩, read, finish⟩ := exists_of_bind_eq_ok taken
    have shorter := length_lt_of_readDigits read
    cases finish
    rw [List.length_tail] at shorter
    omega
  · cases taken; exact Nat.le_refl _

theorem length_takeSign_le (text : List Char) : (takeSign text).2.length ≤ text.length := by
  cases text with
  | nil => exact Nat.le_refl _
  | cons c rest =>
    rw [takeSign]
    split
    · simp
    · split <;> simp

theorem length_le_of_readExponent {text rest : List Char} {exponent : Option (Bool × List Char)}
    (taken : readExponent text = .ok (exponent, rest)) : rest.length ≤ text.length := by
  unfold readExponent at taken
  split at taken
  · obtain ⟨⟨found, after⟩, read, finish⟩ := exists_of_bind_eq_ok taken
    have shorter := length_lt_of_readDigits read
    have signed := length_takeSign_le text.tail
    cases finish
    simp only [List.length_tail] at shorter signed
    omega
  · cases taken; exact Nat.le_refl _

theorem length_lt_of_readLiteral {text rest : List Char} {literal : Literal}
    (taken : readLiteral text = .ok (literal, rest)) : rest.length < text.length := by
  unfold readLiteral at taken
  obtain ⟨⟨whole, afterWhole⟩, readsWhole, taken⟩ := exists_of_bind_eq_ok taken
  obtain ⟨⟨fraction, afterFraction⟩, readsFraction, taken⟩ := exists_of_bind_eq_ok taken
  obtain ⟨⟨exponent, afterExponent⟩, readsExponent, taken⟩ := exists_of_bind_eq_ok taken
  have inWhole := length_lt_of_readWhole readsWhole
  have inFraction := length_le_of_readFraction readsFraction
  have inExponent := length_le_of_readExponent readsExponent
  have unsigned : (if (text.head? == some '-') = true then text.tail else text).length
      ≤ text.length := by
    split <;> simp
  cases taken
  omega

theorem length_lt_of_readNumeral {text rest : List Char} {numeral : Numeral}
    (taken : readNumeral text = .ok (numeral, rest)) : rest.length < text.length := by
  unfold readNumeral at taken
  obtain ⟨⟨literal, after⟩, read, taken⟩ := exists_of_bind_eq_ok taken
  obtain ⟨found, _, taken⟩ := exists_of_bind_eq_ok taken
  cases taken
  exact length_lt_of_readLiteral read

end FlowGate.Json
