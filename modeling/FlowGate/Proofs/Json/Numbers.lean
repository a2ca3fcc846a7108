/-
# Reading numbers

What the reader of numbers takes off the front of a text is a number as the grammar has it, and
every number is taken off. A number has no end of its own: it ends where the text breaks it off. A
word is read if it is written as its digits, and only then, so the value that is made of the digits
and the digits that are made of the value are each other's.
-/

import FlowGate.Json.Field
import FlowGate.Proofs.Json.Grammar
import Mathlib.Data.List.Induction

namespace FlowGate.Json

/-! ## Digits and their values -/

/-- The value of a row of digits, as the library has it. -/
theorem decimalValue_eq_ofDigitChars (digits : List Char) :
    decimalValue digits = Nat.ofDigitChars 10 digits 0 := by
  rw [decimalValue, Nat.ofDigitChars_eq_foldl]
  congr 1
  funext value c
  rw [digitValue, Nat.mul_comm]

theorem decimalValue_concat (digits : List Char) (c : Char) :
    decimalValue (digits ++ [c]) = 10 * decimalValue digits + digitValue c := by
  rw [decimalValue, List.foldl_append, List.foldl_cons, List.foldl_nil, Nat.mul_comm]
  rfl

theorem digitValue_lt {c : Char} (digit : c.isDigit = true) : digitValue c < 10 := by
  have range := Char.isDigit_iff_toNat.mp digit
  have ends : '0'.toNat = 48 ∧ '9'.toNat = 57 := ⟨rfl, rfl⟩
  rw [digitValue]
  omega

/-- A digit is the digit of its value. -/
theorem digitChar_digitValue {c : Char} (digit : c.isDigit = true) :
    (digitValue c).digitChar = c := by
  have small := digitValue_lt digit
  have isDigit : (digitValue c).digitChar.isDigit = true := by
    rw [Nat.isDigit_digitChar]
    exact decide_eq_true small
  have range := Char.isDigit_iff_toNat.mp digit
  have range' := Char.isDigit_iff_toNat.mp isDigit
  have value := Nat.toNat_digitChar_sub_48_of_lt_ten small
  have same : digitValue c = c.toNat - 48 := rfl
  have zero : '0'.toNat = 48 := rfl
  apply Char.toNat_inj.mp
  omega

/-- Digits without a zero in front are the digits of their value. -/
theorem toDigits_decimalValue {digits : List Char} (whole : IsWhole digits) :
    Nat.toDigits 10 (decimalValue digits) = digits := by
  obtain ⟨⟨some, all⟩, alone⟩ := whole
  induction digits using List.reverseRecOn with
  | nil => exact absurd rfl some
  | append_singleton digits c ih =>
      rw [List.forall_mem_append, List.forall_mem_singleton] at all
      rw [decimalValue_concat]
      have last := Nat.toDigits_of_lt_base (digitValue_lt all.2)
      rw [digitChar_digitValue all.2] at last
      cases digits with
      | nil =>
          show Nat.toDigits 10 (0 + digitValue c) = [c]
          rw [Nat.zero_add, last]
      | cons first digits =>
          have noZero : first ≠ '0' := by
            rintro rfl
            simpa using alone rfl
          have front := ih (fun zero => absurd (Option.some.inj zero) noZero)
            (List.cons_ne_nil _ _) all.1
          have positive : 0 < decimalValue (first :: digits) := by
            refine Nat.pos_of_ne_zero fun zero => ?_
            rw [zero] at front
            exact noZero (List.cons.inj front).1.symm
          have split := Nat.toDigits_append_toDigits (by decide) positive (digitValue_lt all.2)
          rw [← split, front, last]

/-- The digits of a positive number begin with another digit than zero. -/
theorem head?_toDigits_ne {value : Nat} (positive : 0 < value) :
    (Nat.toDigits 10 value).head? ≠ some '0' := by
  induction value using Nat.strongRecOn with
  | ind value ih =>
      rcases Nat.lt_or_ge value 10 with small | large
      · rw [Nat.toDigits_of_lt_base small]
        intro zero
        exact Nat.ne_of_gt positive (Nat.digitChar_eq_zero.mp (Option.some.inj zero))
      · rw [Nat.toDigits_of_base_le (by decide) large,
          List.head?_append_of_ne_nil _ Nat.toDigits_ne_nil]
        exact ih (value / 10) (by omega) (by omega)

theorem isWhole_toDigits (value : Nat) : IsWhole (Nat.toDigits 10 value) := by
  refine ⟨⟨Nat.toDigits_ne_nil, fun c listed =>
    Nat.isDigit_of_mem_toDigits (by decide) (by decide) listed⟩, fun zero => ?_⟩
  rcases Nat.eq_zero_or_pos value with rfl | positive
  · rfl
  · exact absurd zero (head?_toDigits_ne positive)

theorem decimalValue_toDigits (value : Nat) : decimalValue (Nat.toDigits 10 value) = value := by
  rw [decimalValue_eq_ofDigitChars]
  exact Nat.ofDigitChars_ten_toDigits

/-- As many digits as there are, and there is one. -/
theorem readDigits_eq_ok {text digits rest : List Char}
    (read : readDigits text = .ok (digits, rest)) : text = digits ++ rest ∧ IsDigits digits := by
  rw [readDigits] at read
  split at read
  · cases read
  · next some =>
    cases read
    refine ⟨List.takeWhile_append_dropWhile.symm, ?_, fun c listed => ?_⟩
    · rintro none
      exact some (by rw [none]; rfl)
    · exact List.all_eq_true.mp List.all_takeWhile c listed

theorem readDigits_append {digits rest : List Char} (written : IsDigits digits)
    (ends : ∀ c more, rest = c :: more → c.isDigit = false) :
    readDigits (digits ++ rest) = .ok (digits, rest) := by
  have stops : rest.takeWhile Char.isDigit = [] ∧ rest.dropWhile Char.isDigit = rest := by
    cases rest with
    | nil => exact ⟨rfl, rfl⟩
    | cons c more =>
        have noDigit := ends c more rfl
        exact ⟨List.takeWhile_cons_of_neg (by simp [noDigit]),
          List.dropWhile_cons_of_neg (by simp [noDigit])⟩
  have some : digits.isEmpty = false := by
    rw [List.isEmpty_eq_false_iff]
    exact written.1
  rw [readDigits, List.takeWhile_append_of_pos written.2, List.dropWhile_append_of_pos written.2,
    stops.1, stops.2, List.append_nil]
  simp only [some]
  rfl

/-! ## Numbers -/

theorem readWhole_eq_ok {text whole rest : List Char} (read : readWhole text = .ok (whole, rest)) :
    text = whole ++ rest ∧ IsWhole whole := by
  obtain ⟨⟨digits, after⟩, taken, finish⟩ := exists_of_bind_eq_ok read
  obtain ⟨split, written⟩ := readDigits_eq_ok taken
  simp only at finish
  split at finish
  · cases finish
  · next alone =>
    cases finish
    refine ⟨split, written, fun zero => ?_⟩
    cases whole with
    | nil => cases zero
    | cons c digits =>
        cases digits with
        | nil => exact congrArg (fun c => [c]) (Option.some.inj zero)
        | cons next digits => exact absurd ⟨zero, by simp⟩ alone

theorem readWhole_append {whole rest : List Char} (written : IsWhole whole)
    (ends : ∀ c more, rest = c :: more → c.isDigit = false) :
    readWhole (whole ++ rest) = .ok (whole, rest) := by
  have alone : ¬ (whole.head? = some '0' ∧ 1 < whole.length) := by
    rintro ⟨zero, long⟩
    rw [written.2 zero] at long
    exact Nat.lt_irrefl 1 long
  rw [readWhole, readDigits_append written.1 ends]
  exact if_neg alone

theorem readFraction_eq_ok {text rest : List Char} {fraction : Option (List Char)}
    (read : readFraction text = .ok (fraction, rest)) :
    ∃ part, text = part ++ rest ∧ IsFraction fraction part := by
  rw [readFraction] at read
  split at read
  · next point =>
    obtain ⟨⟨digits, after⟩, taken, finish⟩ := exists_of_bind_eq_ok read
    obtain ⟨split, written⟩ := readDigits_eq_ok taken
    cases finish
    obtain ⟨more, rfl⟩ := List.head?_eq_some_iff.mp point
    exact ⟨'.' :: digits, congrArg (List.cons '.') split, written, rfl⟩
  · cases read
    exact ⟨[], rfl, rfl⟩

theorem readFraction_append {fraction : Option (List Char)} {part rest : List Char}
    (written : IsFraction fraction part)
    (ends : ∀ c more, rest = c :: more → c.isDigit = false ∧ c ≠ '.') :
    readFraction (part ++ rest) = .ok (fraction, rest) := by
  cases fraction with
  | none =>
      obtain rfl : part = [] := written
      have noPoint : ¬ rest.head? = some '.' := by
        intro point
        obtain ⟨more, rfl⟩ := List.head?_eq_some_iff.mp point
        exact (ends _ _ rfl).2 rfl
      rw [List.nil_append, readFraction, if_neg noPoint]
  | some digits =>
      obtain ⟨digits', rfl⟩ := written
      have taken := readDigits_append digits' fun c more same => (ends c more same).1
      have point : ('.' :: digits ++ rest).head? = some '.' := rfl
      rw [readFraction, if_pos point]
      show (readDigits (digits ++ rest) >>= fun found => pure (some found.1, found.2)) = _
      rw [taken]
      rfl

/-- What is left of a text behind a sign, and the sign. -/
theorem takeSign_eq (text : List Char) :
    ∃ sign, text = sign ++ (takeSign text).2 ∧
      if (takeSign text).1 then sign = ['-'] else sign = [] ∨ sign = ['+'] := by
  cases text with
  | nil => exact ⟨[], rfl, Or.inl rfl⟩
  | cons c rest =>
      rw [takeSign]
      by_cases minus : c = '-'
      · rw [if_pos minus]
        exact ⟨['-'], congrArg (· :: rest) minus, rfl⟩
      · rw [if_neg minus]
        by_cases plus : c = '+'
        · rw [if_pos plus]
          exact ⟨['+'], congrArg (· :: rest) plus, Or.inr rfl⟩
        · rw [if_neg plus]
          exact ⟨[], rfl, Or.inl rfl⟩

theorem takeSign_append {negative : Bool} {sign digits : List Char}
    (signed : if negative then sign = ['-'] else sign = [] ∨ sign = ['+'])
    (written : IsDigits digits) (rest : List Char) :
    takeSign (sign ++ (digits ++ rest)) = (negative, digits ++ rest) := by
  cases negative with
  | true =>
      obtain rfl : sign = ['-'] := signed
      rfl
  | false =>
      rcases (signed : sign = [] ∨ sign = ['+']) with rfl | rfl
      · obtain ⟨some, all⟩ := written
        cases digits with
        | nil => exact absurd rfl some
        | cons c digits =>
            have digit := all c List.mem_cons_self
            have noMinus : c ≠ '-' := by
              rintro rfl
              exact absurd digit (by decide)
            have noPlus : c ≠ '+' := by
              rintro rfl
              exact absurd digit (by decide)
            show takeSign (c :: (digits ++ rest)) = _
            rw [takeSign, if_neg noMinus, if_neg noPlus]
            rfl
      · rfl

theorem readExponent_eq_ok {text rest : List Char} {exponent : Option (Bool × List Char)}
    (read : readExponent text = .ok (exponent, rest)) :
    ∃ part, text = part ++ rest ∧ IsExponent exponent part := by
  rw [readExponent] at read
  split at read
  · next marked =>
    obtain ⟨mark, more, rfl, known⟩ : ∃ mark more, text = mark :: more ∧
        (mark = 'e' ∨ mark = 'E') := by
      rcases marked with small | large
      · obtain ⟨more, rfl⟩ := List.head?_eq_some_iff.mp small
        exact ⟨'e', more, rfl, Or.inl rfl⟩
      · obtain ⟨more, rfl⟩ := List.head?_eq_some_iff.mp large
        exact ⟨'E', more, rfl, Or.inr rfl⟩
    obtain ⟨⟨digits, after⟩, taken, finish⟩ := exists_of_bind_eq_ok read
    obtain ⟨split, written⟩ := readDigits_eq_ok taken
    obtain ⟨sign, signed, kind⟩ := takeSign_eq more
    cases finish
    refine ⟨mark :: sign ++ digits, ?_, written, mark, sign, known, kind, rfl⟩
    rw [List.tail_cons] at split
    rw [List.cons_append, List.cons_append, List.append_assoc, ← split, ← signed]
  · cases read
    exact ⟨[], rfl, rfl⟩

theorem readExponent_append {exponent : Option (Bool × List Char)} {part rest : List Char}
    (written : IsExponent exponent part) (ends : BreaksOff rest) :
    readExponent (part ++ rest) = .ok (exponent, rest) := by
  cases exponent with
  | none =>
      obtain rfl : part = [] := written
      have noMark : ¬ (rest.head? = some 'e' ∨ rest.head? = some 'E') := by
        rintro (small | large)
        · obtain ⟨more, rfl⟩ := List.head?_eq_some_iff.mp small
          exact (ends _ _ rfl).2.2.1 rfl
        · obtain ⟨more, rfl⟩ := List.head?_eq_some_iff.mp large
          exact (ends _ _ rfl).2.2.2 rfl
      rw [List.nil_append, readExponent, if_neg noMark]
  | some parts =>
      obtain ⟨negative, digits⟩ := parts
      obtain ⟨digits', mark, sign, known, signed, rfl⟩ := written
      have taken := readDigits_append digits' fun c more same => (ends c more same).1
      have marked : (mark :: sign ++ digits ++ rest).head? = some 'e' ∨
          (mark :: sign ++ digits ++ rest).head? = some 'E' := by
        rcases known with rfl | rfl
        · exact Or.inl rfl
        · exact Or.inr rfl
      rw [readExponent, if_pos marked, List.append_assoc, List.cons_append, List.tail_cons,
        takeSign_append signed digits']
      show (readDigits (digits ++ rest) >>= fun found =>
        pure (some (negative, found.1), found.2)) = _
      rw [taken]
      rfl

/-- What is taken for a number is one. -/
theorem readLiteral_eq_ok {text rest : List Char} {literal : Literal}
    (read : readLiteral text = .ok (literal, rest)) :
    ∃ part, text = part ++ rest ∧ IsLiteral literal part := by
  obtain ⟨⟨whole, afterWhole⟩, readsWhole, read⟩ := exists_of_bind_eq_ok read
  obtain ⟨⟨fraction, afterFraction⟩, readsFraction, read⟩ := exists_of_bind_eq_ok read
  obtain ⟨⟨exponent, afterExponent⟩, readsExponent, read⟩ := exists_of_bind_eq_ok read
  obtain ⟨splitWhole, isWhole⟩ := readWhole_eq_ok readsWhole
  obtain ⟨fractionPart, splitFraction, isFraction⟩ := readFraction_eq_ok readsFraction
  obtain ⟨exponentPart, splitExponent, isExponent⟩ := readExponent_eq_ok readsExponent
  cases read
  refine ⟨_, ?_, fractionPart, exponentPart, isWhole, isFraction, isExponent, rfl⟩
  rw [List.append_assoc, ← splitExponent, List.append_assoc, ← splitFraction, List.append_assoc,
    ← splitWhole]
  show text = (if (text.head? == some '-') = true then ['-'] else []) ++ _
  split
  · next minus =>
    obtain ⟨more, rfl⟩ := List.head?_eq_some_iff.mp (beq_iff_eq.mp minus)
    rfl
  · rfl

/-- Neither a digit nor a point stands at the front of an exponent, or of what follows if there is
none. -/
theorem IsExponent.ends {exponent : Option (Bool × List Char)} {part rest : List Char}
    (written : IsExponent exponent part) (ends : BreaksOff rest) :
    ∀ c more, part ++ rest = c :: more → c.isDigit = false ∧ c ≠ '.' := by
  intro c more same
  cases exponent with
  | none =>
      obtain rfl : part = [] := written
      obtain ⟨noDigit, noPoint, -⟩ := ends c more same
      exact ⟨noDigit, noPoint⟩
  | some parts =>
      obtain ⟨-, mark, sign, known, -, rfl⟩ := written
      obtain rfl : mark = c := (List.cons.inj same).1
      rcases known with rfl | rfl
      · decide
      · decide

/-- No digit stands at the front of a fraction, or of what follows if there is none. -/
theorem IsFraction.ends {fraction : Option (List Char)} {part rest : List Char}
    (written : IsFraction fraction part)
    (ends : ∀ c more, rest = c :: more → c.isDigit = false ∧ c ≠ '.') :
    ∀ c more, part ++ rest = c :: more → c.isDigit = false := by
  intro c more same
  cases fraction with
  | none =>
      obtain rfl : part = [] := written
      exact (ends c more same).1
  | some digits =>
      obtain ⟨-, rfl⟩ := written
      obtain rfl : '.' = c := (List.cons.inj same).1
      decide

/-- The digits of a number, whose sign is looked at first. -/
theorem head?_ne_minus {digits : List Char} (written : IsDigits digits) (rest : List Char) :
    (digits ++ rest).head? ≠ some '-' := by
  obtain ⟨some, all⟩ := written
  cases digits with
  | nil => exact absurd rfl some
  | cons c digits =>
      intro minus
      obtain rfl : c = '-' := Option.some.inj minus
      exact absurd (all _ List.mem_cons_self) (by decide)

/-- Every number is taken, if the text breaks it off. -/
theorem readLiteral_append {literal : Literal} {part rest : List Char}
    (written : IsLiteral literal part) (ends : BreaksOff rest) :
    readLiteral (part ++ rest) = .ok (literal, rest) := by
  obtain ⟨negative, whole, fraction, exponent⟩ := literal
  obtain ⟨fractionPart, exponentPart, isWhole, isFraction, isExponent, rfl⟩ := written
  have endsFraction := isExponent.ends ends
  have readsWhole := readWhole_append isWhole (isFraction.ends endsFraction)
  have readsFraction := readFraction_append isFraction endsFraction
  have readsExponent := readExponent_append isExponent ends
  obtain ⟨text, same⟩ : ∃ text, (if negative then ['-'] else []) ++ whole ++ fractionPart ++
      exponentPart ++ rest = text := ⟨_, rfl⟩
  have signed : (text.head? == some '-') = negative ∧
      (if negative then text.tail else text) =
        whole ++ (fractionPart ++ (exponentPart ++ rest)) := by
    rw [← same]
    cases negative with
    | true => exact ⟨rfl, by simp⟩
    | false =>
        have noMinus := head?_ne_minus isWhole.1 (fractionPart ++ (exponentPart ++ rest))
        simp only [Bool.false_eq_true, if_false, List.nil_append, List.append_assoc]
        exact ⟨beq_eq_false_iff_ne.mpr noMinus, trivial⟩
  rw [same]
  show (readWhole (if (text.head? == some '-') = true then text.tail else text) >>= fun found =>
    readFraction found.2 >>= fun found' => readExponent found'.2 >>= fun found'' =>
      pure ((⟨text.head? == some '-', found.1, found'.1, found''.1⟩ : Literal), found''.2)) = _
  rw [signed.1, signed.2, readsWhole]
  show (readFraction (fractionPart ++ (exponentPart ++ rest)) >>= _) = _
  rw [readsFraction]
  show (readExponent (exponentPart ++ rest) >>= _) = _
  rw [readsExponent]
  rfl

/-! ## Words -/

/-- An integer without a sign is written as a word if it has the same value. -/
theorem isWord_iff_decimalValue {literal : Literal} {part : List Char} {word : UInt64}
    (written : IsLiteral literal part) (unsigned : literal.negative = false)
    (noFraction : literal.fraction = none) (noExponent : literal.exponent = none) :
    IsWord word part ↔ decimalValue literal.whole = word.toNat := by
  obtain ⟨fraction, exponent, isWhole, isFraction, isExponent, rfl⟩ := written
  rw [noFraction] at isFraction
  rw [noExponent] at isExponent
  obtain rfl : fraction = [] := isFraction
  obtain rfl : exponent = [] := isExponent
  rw [unsigned, if_neg Bool.false_ne_true, List.nil_append, List.append_nil, List.append_nil]
  constructor
  · intro isWord
    rw [show literal.whole = _ from isWord, decimalValue_toDigits]
  · intro value
    show literal.whole = _
    rw [← value, toDigits_decimalValue isWhole]

/-- The only literals that stand for a word are its digits. -/
theorem isWord_of_integer? {literal : Literal} {part : List Char} {word : UInt64}
    (written : IsLiteral literal part) (integer : literal.integer? = some (.natural word)) :
    IsWord word part := by
  rw [Literal.integer?] at integer
  split at integer
  · cases integer
  · next plain =>
    simp only [Bool.or_eq_true, not_or, Bool.not_eq_true, Option.isSome_eq_false_iff,
      Option.isNone_iff_eq_none] at plain
    cases unsigned : literal.negative with
    | true =>
        rw [unsigned, if_pos rfl] at integer
        split at integer <;> cases integer
    | false =>
        rw [unsigned, if_neg Bool.false_ne_true] at integer
        split at integer
        · next small =>
          cases integer
          rw [isWord_iff_decimalValue written unsigned plain.1 plain.2, UInt64.toNat_ofNat']
          exact (Nat.mod_eq_of_lt small).symm
        · cases integer

theorem isLiteral_of_isWord {word : UInt64} {part : List Char} (written : IsWord word part) :
    IsLiteral ⟨false, part, none, none⟩ part := by
  refine ⟨[], [], ?_, rfl, rfl, by simp⟩
  rw [written]
  exact isWhole_toDigits word.toNat

theorem integer?_of_isWord {word : UInt64} {part : List Char} (written : IsWord word part) :
    Literal.integer? ⟨false, part, none, none⟩ = some (.natural word) := by
  have value : decimalValue part = word.toNat :=
    (isWord_iff_decimalValue (isLiteral_of_isWord written) rfl rfl rfl).mp written
  have small : decimalValue part < UInt64.size := by
    rw [value]
    exact word.toNat_lt
  rw [Literal.integer?]
  simp only [Option.isSome_none, Bool.or_self, Bool.false_eq_true, if_false, if_pos small]
  rw [value, UInt64.ofNat_toNat]

theorem IsWord.begins {word : UInt64} {part : List Char} (written : IsWord word part) :
    Begins part := (isLiteral_of_isWord written).begins

theorem IsWord.isValue {word : UInt64} {part : List Char} (written : IsWord word part) :
    IsValue part := .number ⟨_, isLiteral_of_isWord written⟩

/-- What is read as a word is written as its digits. -/
theorem readWord_eq_ok {text rest : List Char} {word : UInt64}
    (read : readWord text = .ok (word, rest)) :
    ∃ before part, Blank before ∧ IsWord word part ∧ text = before ++ part ++ rest := by
  rw [readWord] at read
  split at read
  · cases read
  · next c after shown =>
    obtain ⟨before, blank, rfl, -⟩ := exists_of_skipBlanks_eq_cons shown
    split at read
    · obtain ⟨⟨numeral, behind⟩, readsNumeral, read⟩ := exists_of_bind_eq_ok read
      obtain ⟨value, isWord, read⟩ := exists_of_bind_eq_ok read
      cases read
      obtain ⟨⟨literal, behind⟩, readsLiteral, readsNumeral⟩ := exists_of_bind_eq_ok readsNumeral
      obtain ⟨found, stands, readsNumeral⟩ := exists_of_bind_eq_ok readsNumeral
      cases readsNumeral
      obtain ⟨part, split, written⟩ := readLiteral_eq_ok readsLiteral
      refine ⟨before, part, blank, ?_, by rw [List.append_assoc, ← split]⟩
      cases numeral with
      | negative magnitude => cases isWord
      | fractional => cases isWord
      | natural value =>
          cases isWord
          refine isWord_of_integer? written ?_
          rw [Literal.numeral] at stands
          split at stands
          · next numeral integer =>
            cases stands
            exact integer
          · split at stands <;> cases stands
    · cases read

/-- A word that is written as its digits is read. -/
theorem readWord_append {before part rest : List Char} {word : UInt64} (blank : Blank before)
    (written : IsWord word part) (ends : BreaksOff rest) :
    readWord (before ++ part ++ rest) = .ok (word, rest) := by
  have literal := isLiteral_of_isWord written
  have digits : IsDigits part := by
    rw [written]
    exact (isWhole_toDigits word.toNat).1
  have reads := readLiteral_append literal ends
  obtain ⟨c, digits', rfl, visible, -⟩ := written.begins
  have starts : startsNumber c = true := by
    rw [startsNumber, digits.2 c List.mem_cons_self, Bool.or_true]
  rw [readWord, List.append_assoc, List.cons_append, skipBlanks_append_cons blank visible]
  simp only [if_pos starts]
  show (readNumeral (c :: digits' ++ rest) >>= fun found =>
    found.1.word >>= fun word => pure (word, found.2)) = _
  rw [readNumeral, reads]
  show ((Literal.numeral ⟨false, c :: digits', none, none⟩ >>= fun numeral =>
    pure (numeral, rest)) >>= fun found => found.1.word >>= fun word => pure (word, found.2)) = _
  rw [Literal.numeral, integer?_of_isWord written]
  rfl

end FlowGate.Json
