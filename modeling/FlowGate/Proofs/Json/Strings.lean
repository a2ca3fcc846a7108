/-
# Reading strings

A string is read up to its closing quote, and the characters that come out are those that its body
spells. Skipping a string asks for less: every string is skipped that the grammar has, whether it
makes sense as text or not.
-/

import FlowGate.Proofs.Json.Grammar

namespace FlowGate.Json

/-! ## Digits and letters -/

/-- A character at a place in a range of characters is that many places behind its first one. -/
theorem eq_ofNat_of_le {c first last : Char} (range : first ≤ c ∧ c ≤ last) :
    c = Char.ofNat (c.toNat - first.toNat + first.toNat) ∧
      c.toNat - first.toNat ≤ last.toNat - first.toNat := by
  obtain ⟨low, high⟩ := range
  have low : first.toNat ≤ c.toNat := low
  have high : c.toNat ≤ last.toNat := high
  rw [Nat.sub_add_cancel low, Char.ofNat_toNat]
  exact ⟨rfl, Nat.sub_le_sub_right high _⟩

theorem hexValue?_eq_some_iff {c : Char} {value : Nat} :
    hexValue? c = some value ↔ IsHexDigit c value := by
  constructor
  · intro known
    have digit : ∀ n ≤ '9'.toNat - '0'.toNat, Char.ofNat (n + '0'.toNat) = n.digitChar := by decide
    have lower : ∀ n ≤ 'f'.toNat - 'a'.toNat,
        Char.ofNat (n + 'a'.toNat) = (n + 10).digitChar := by decide
    have upper : ∀ n ≤ 'F'.toNat - 'A'.toNat,
        Char.ofNat (n + 'A'.toNat) = (n + 10).digitChar.toUpper := by decide
    have ends : '9'.toNat - '0'.toNat = 9 ∧ 'f'.toNat - 'a'.toNat = 5 ∧
        'F'.toNat - 'A'.toNat = 5 := by decide
    rw [hexValue?] at known
    split at known
    · next isDigit =>
      have range : '0' ≤ c ∧ c ≤ '9' := Char.isDigit_iff_toNat.mp isDigit
      obtain ⟨same, bound⟩ := eq_ofNat_of_le range
      cases known
      exact ⟨by omega, .inl (same.trans (digit _ bound))⟩
    · split at known
      · next range =>
        obtain ⟨same, bound⟩ := eq_ofNat_of_le range
        cases known
        exact ⟨by omega, .inl (same.trans (lower _ bound))⟩
      · split at known
        · next range =>
          obtain ⟨same, bound⟩ := eq_ofNat_of_le range
          cases known
          exact ⟨by omega, .inr (same.trans (upper _ bound))⟩
        · cases known
  · have back : ∀ n < 16, hexValue? n.digitChar = some n ∧
        hexValue? n.digitChar.toUpper = some n := by decide
    rintro ⟨small, rfl | rfl⟩
    · exact (back value small).1
    · exact (back value small).2
theorem hexUnit?_eq_some_iff {a b c d : Char} {unit : Nat} :
    hexUnit? a b c d = some unit ↔ IsCodeUnit [a, b, c, d] unit := by
  simp only [hexUnit?, Option.bind_eq_bind, Option.bind_eq_some_iff, hexValue?_eq_some_iff,
    Option.pure_def, Option.some.injEq]
  constructor
  · rintro ⟨w, isA, x, isB, y, isC, z, isD, rfl⟩
    exact ⟨w, x, y, z, .cons isA (.cons isB (.cons isC (.cons isD .nil))), by omega⟩
  · rintro ⟨w, x, y, z, _ | ⟨isA, _ | ⟨isB, _ | ⟨isC, _ | ⟨isD, -⟩⟩⟩⟩, rfl⟩
    exact ⟨w, isA, x, isB, y, isC, z, isD, by omega⟩

theorem escapedChar?_eq_some_iff {letter c : Char} :
    escapedChar? letter = some c ↔ (letter, c) ∈ escapeLetters := by
  constructor
  · intro known
    rw [escapedChar?] at known
    split at known
    · next itself =>
      cases known
      rcases itself with rfl | rfl | rfl <;> decide
    · iterate 5
        split at known
        · next isLetter =>
          cases known
          rw [isLetter]
          decide
      cases known
  · have all : ∀ entry ∈ escapeLetters, escapedChar? entry.1 = some entry.2 := by decide
    exact all (letter, c)

/-! ## Escapes -/

theorem readUnit_eq_ok {text rest : List Char} {unit : Nat}
    (read : readUnit text = .ok (unit, rest)) :
    ∃ digits, text = digits ++ rest ∧ IsCodeUnit digits unit := by
  unfold readUnit at read
  split at read
  · next a b c d after =>
    split at read
    · next known =>
      cases read
      exact ⟨[a, b, c, d], rfl, hexUnit?_eq_some_iff.mp known⟩
    · cases read
  · split at read <;> cases read

theorem readUnit_append {digits : List Char} {unit : Nat} (isUnit : IsCodeUnit digits unit)
    (rest : List Char) : readUnit (digits ++ rest) = .ok (unit, rest) := by
  have four : digits.length = 4 := by
    obtain ⟨_, _, _, _, values, -⟩ := isUnit
    exact values.length_eq
  obtain ⟨a, b, c, d, rfl⟩ := List.length_eq_four.mp four
  show readUnit (a :: b :: c :: d :: rest) = _
  rw [readUnit, hexUnit?_eq_some_iff.mpr isUnit]

theorem isHighSurrogate_iff {unit : Nat} :
    isHighSurrogate unit = true ↔ ∃ high < 0x400, unit = 0xD800 + high := by
  rw [isHighSurrogate, Bool.and_eq_true, decide_eq_true_iff, decide_eq_true_iff]
  constructor
  · rintro ⟨least, most⟩
    exact ⟨unit - 0xD800, by omega, by omega⟩
  · rintro ⟨high, fits, rfl⟩
    omega

theorem isLowSurrogate_iff {unit : Nat} :
    isLowSurrogate unit = true ↔ ∃ low < 0x400, unit = 0xDC00 + low := by
  rw [isLowSurrogate, Bool.and_eq_true, decide_eq_true_iff, decide_eq_true_iff]
  constructor
  · rintro ⟨least, most⟩
    exact ⟨unit - 0xDC00, by omega, by omega⟩
  · rintro ⟨low, fits, rfl⟩
    omega

theorem noSurrogate_iff {unit : Nat} : unit < 0xD800 ∨ 0xE000 ≤ unit ↔
    ¬ isHighSurrogate unit = true ∧ ¬ isLowSurrogate unit = true := by
  simp only [isHighSurrogate, isLowSurrogate, Bool.and_eq_true, decide_eq_true_iff]
  omega

theorem pairedChar_eq (high low : Nat) : pairedChar (0xD800 + high) (0xDC00 + low) =
    Char.ofNat (0x10000 + high * 0x400 + low) := by
  rw [pairedChar, Nat.add_sub_cancel_left, Nat.add_sub_cancel_left]
  congr 1
  omega

theorem readLowSurrogate_eq_ok {text rest : List Char} {unit : Nat}
    (read : readLowSurrogate text = .ok (unit, rest)) :
    ∃ digits, text = '\\' :: 'u' :: digits ++ rest ∧ IsCodeUnit digits unit ∧
      isLowSurrogate unit = true := by
  unfold readLowSurrogate at read
  split at read
  · cases read
  · cases read
  · obtain ⟨⟨found, after⟩, taken, finish⟩ := exists_of_bind_eq_ok read
    obtain ⟨digits, rfl, isUnit⟩ := readUnit_eq_ok taken
    simp only at finish
    split at finish
    · next low =>
      cases finish
      exact ⟨digits, rfl, isUnit, low⟩
    · cases finish
  · cases read

/-- An escape that is read stands for the character that comes out. -/
theorem readEscape_eq_ok {text rest : List Char} {c : Char}
    (read : readEscape text = .ok (c, rest)) : ∃ part, text = part ++ rest ∧ Escapes part c := by
  unfold readEscape at read
  split at read
  · cases read
  · next letter after =>
    split at read
    · next known =>
      cases read
      exact ⟨[letter], rfl, .letter (escapedChar?_eq_some_iff.mp known)⟩
    · split at read
      · next isUnit =>
        subst isUnit
        obtain ⟨⟨unit, behind⟩, taken, finish⟩ := exists_of_bind_eq_ok read
        obtain ⟨digits, rfl, isUnit⟩ := readUnit_eq_ok taken
        simp only at finish
        split at finish
        · next isHigh =>
          obtain ⟨⟨unit', last⟩, second, paired⟩ := exists_of_bind_eq_ok finish
          obtain ⟨digits', rfl, isUnit', isLow⟩ := readLowSurrogate_eq_ok second
          obtain ⟨rfl, rfl⟩ := Prod.mk.inj (Except.ok.inj paired)
          obtain ⟨high, fits, rfl⟩ := isHighSurrogate_iff.mp isHigh
          obtain ⟨low, fits', rfl⟩ := isLowSurrogate_iff.mp isLow
          rw [pairedChar_eq]
          exact ⟨'u' :: digits ++ '\\' :: 'u' :: digits', by simp,
            .pair isUnit fits isUnit' fits'⟩
        · next notHigh =>
          split at finish
          · cases finish
          · next notLow =>
            cases finish
            exact ⟨'u' :: digits, rfl, .unit isUnit (noSurrogate_iff.mpr ⟨notHigh, notLow⟩)⟩
      · cases read

theorem readEscape_append {part : List Char} {c : Char} (escapes : Escapes part c)
    (rest : List Char) : readEscape (part ++ rest) = .ok (c, rest) := by
  have noLetter : escapedChar? 'u' = none := by decide
  cases escapes with
  | letter known =>
      rw [List.singleton_append, readEscape, escapedChar?_eq_some_iff.mpr known]
  | @unit digits unit isUnit plain =>
      obtain ⟨notHigh, notLow⟩ := noSurrogate_iff.mp plain
      rw [List.cons_append, readEscape, noLetter]
      show readUnitEscape (digits ++ rest) = _
      rw [readUnitEscape, readUnit_append isUnit]
      show (if isHighSurrogate unit = true then _ else _) = _
      rw [if_neg notHigh, if_neg notLow]
      rfl
  | @pair digits digits' high low isUnit fits isUnit' fits' =>
      have split : 'u' :: digits ++ '\\' :: 'u' :: digits' ++ rest =
          'u' :: (digits ++ '\\' :: 'u' :: (digits' ++ rest)) := by simp
      rw [split, readEscape, noLetter]
      show readUnitEscape (digits ++ '\\' :: 'u' :: (digits' ++ rest)) = _
      rw [readUnitEscape, readUnit_append isUnit]
      show (if isHighSurrogate (0xD800 + high) = true then _ else _) = _
      rw [if_pos (isHighSurrogate_iff.mpr ⟨high, fits, rfl⟩), readLowSurrogate,
        readUnit_append isUnit']
      show ((if isLowSurrogate (0xDC00 + low) = true then _ else _) >>= _) = _
      rw [if_pos (isLowSurrogate_iff.mpr ⟨low, fits', rfl⟩), ← pairedChar_eq]
      rfl

theorem skipEscape_eq_ok {text rest : List Char} (skipped : skipEscape text = .ok rest) :
    ∃ part, text = part ++ rest ∧ IsEscape part := by
  unfold skipEscape at skipped
  split at skipped
  · cases skipped
  · next letter after =>
    split at skipped
    · next known =>
      obtain ⟨c, known⟩ := Option.isSome_iff_exists.mp known
      cases skipped
      exact ⟨[letter], rfl, .letter (escapedChar?_eq_some_iff.mp known)⟩
    · split at skipped
      · next isUnit =>
        subst isUnit
        cases read : readUnit after with
        | error _ =>
            rw [read] at skipped
            cases skipped
        | ok found =>
            obtain ⟨unit, last⟩ := found
            rw [read] at skipped
            cases skipped
            obtain ⟨digits, rfl, isUnit⟩ := readUnit_eq_ok read
            exact ⟨'u' :: digits, rfl, .unit isUnit⟩
      · cases skipped

theorem skipEscape_append {part : List Char} (escape : IsEscape part) (rest : List Char) :
    skipEscape (part ++ rest) = .ok rest := by
  cases escape with
  | letter known =>
      have isLetter := Option.isSome_of_eq_some (escapedChar?_eq_some_iff.mpr known)
      rw [List.singleton_append, skipEscape, if_pos isLetter]
  | @unit digits unit isUnit =>
      have noLetter : ¬ (escapedChar? 'u').isSome = true := by decide
      rw [List.cons_append, skipEscape, if_neg noLetter, if_pos rfl, readUnit_append isUnit]
      rfl

/-! ## Whole strings -/

/-- A string that is read spells the characters that come out. -/
theorem readString_eq_ok {text characters rest : List Char}
    (read : readString text = .ok (characters, rest)) :
    ∃ body, text = body ++ '"' :: rest ∧ Spells body characters := by
  fun_induction readString text generalizing characters with
  | case1 => cases read
  | case2 =>
      cases read
      exact ⟨[], rfl, .nil⟩
  | case3 => cases read
  | case4 after escaped last taken _ ih =>
      obtain ⟨⟨found, behind⟩, string, read⟩ := exists_of_bind_eq_ok read
      cases read
      obtain ⟨body, rfl, spells⟩ := ih string
      obtain ⟨part, rfl, escapes⟩ := readEscape_eq_ok taken
      exact ⟨'\\' :: part ++ body, by simp, .escape escapes spells⟩
  | case5 => cases read
  | case6 c after noQuote noBackslash noControl ih =>
      obtain ⟨⟨found, behind⟩, string, read⟩ := exists_of_bind_eq_ok read
      cases read
      obtain ⟨body, rfl, spells⟩ := ih string
      exact ⟨c :: body, rfl, .plain noQuote noBackslash noControl spells⟩

theorem readString_append {body characters : List Char} (spells : Spells body characters)
    (rest : List Char) : readString (body ++ '"' :: rest) = .ok (characters, rest) := by
  induction spells with
  | nil => rw [List.nil_append, readString, if_pos rfl]
  | plain noQuote noBackslash noControl more ih =>
      rw [List.cons_append, readString, if_neg noQuote, if_neg noBackslash, if_neg noControl, ih]
      rfl
  | @escape part c body characters escapes more ih =>
      have taken := readEscape_append escapes (body ++ '"' :: rest)
      rw [List.cons_append, List.cons_append, List.append_assoc, readString, if_neg (by decide),
        if_pos rfl]
      split
      · next failed =>
        rw [taken] at failed
        cases failed
      · next read =>
        rw [taken] at read
        cases read
        rw [ih]
        rfl

/-- A string that is skipped is one. -/
theorem skipString_eq_ok {text rest : List Char} (skipped : skipString text = .ok rest) :
    ∃ body, text = body ++ '"' :: rest ∧ IsString body := by
  fun_induction skipString text with
  | case1 => cases skipped
  | case2 =>
      cases skipped
      exact ⟨[], rfl, .nil⟩
  | case3 => cases skipped
  | case4 after last taken _ ih =>
      obtain ⟨body, rfl, string⟩ := ih skipped
      obtain ⟨part, rfl, escape⟩ := skipEscape_eq_ok taken
      exact ⟨'\\' :: part ++ body, by simp, .escape escape string⟩
  | case5 => cases skipped
  | case6 c after noQuote noBackslash noControl ih =>
      obtain ⟨body, rfl, string⟩ := ih skipped
      exact ⟨c :: body, rfl, .plain noQuote noBackslash noControl string⟩

theorem skipString_append {body : List Char} (string : IsString body) (rest : List Char) :
    skipString (body ++ '"' :: rest) = .ok rest := by
  induction string with
  | nil => rw [List.nil_append, skipString, if_pos rfl]
  | plain noQuote noBackslash noControl more ih =>
      rw [List.cons_append, skipString, if_neg noQuote, if_neg noBackslash, if_neg noControl, ih]
  | @escape part body escape more ih =>
      have taken := skipEscape_append escape (body ++ '"' :: rest)
      rw [List.cons_append, List.cons_append, List.append_assoc, skipString, if_neg (by decide),
        if_pos rfl]
      split
      · next failed =>
        rw [taken] at failed
        cases failed
      · next skipped =>
        rw [taken] at skipped
        cases skipped
        exact ih

/-- What spells characters is a string. -/
theorem Spells.isString {body characters : List Char} (spells : Spells body characters) :
    IsString body := by
  induction spells with
  | nil => exact .nil
  | plain noQuote noBackslash noControl rest ih => exact .plain noQuote noBackslash noControl ih
  | @escape _ _ body _ escapes rest ih =>
      cases escapes with
      | letter known => exact .escape (.letter known) ih
      | unit isUnit plain => exact .escape (.unit isUnit) ih
      | pair isUnit fits isUnit' fits' =>
          -- A pair is two escapes one after the other.
          have both := IsString.escape (.unit isUnit) (.escape (.unit isUnit') ih)
          simpa using both

end FlowGate.Json
