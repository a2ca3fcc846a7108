/-
# Skipping values

What is skipped is a value, of any depth, and every value is skipped. The brackets that are still
open are all that is remembered on the way in, so the grammar is asked here for what they still
demand of the text: `Closes` says so, and `Due` adds what is expected next. Every skip that succeeds
is then a derivation; the other way the induction is on the value, and each step of it is one of the
equations of the skipping.
-/

import FlowGate.Proofs.Json.Numbers
import FlowGate.Proofs.Json.Strings

namespace FlowGate.Json

/-! ## Values without parts, and keys -/

theorem expectLetters_eq_ok {letters text rest : List Char}
    (taken : expectLetters letters text = .ok rest) : text = letters ++ rest := by
  induction letters generalizing text with
  | nil =>
      cases taken
      rfl
  | cons letter letters ih =>
      cases text with
      | nil => cases taken
      | cons c text =>
          rw [expectLetters] at taken
          split at taken
          · next same =>
            rw [ih taken, same]
            rfl
          · cases taken

theorem expectLetters_append (letters rest : List Char) :
    expectLetters letters (letters ++ rest) = .ok rest := by
  induction letters with
  | nil => rfl
  | cons letter letters ih => rw [List.cons_append, expectLetters, if_pos rfl, ih]

theorem expectColon_eq_ok {text rest : List Char} (taken : expectColon text = .ok rest) :
    ∃ before, Blank before ∧ text = before ++ ':' :: rest := by
  unfold expectColon at taken
  split at taken
  · cases taken
  · next shown =>
    obtain ⟨before, blank, split, -⟩ := exists_of_skipBlanks_eq_cons shown
    split at taken
    · next colon =>
      cases taken
      exact ⟨before, blank, colon ▸ split⟩
    · cases taken

theorem expectColon_append {before : List Char} (blank : Blank before) (rest : List Char) :
    expectColon (before ++ ':' :: rest) = .ok rest := by
  rw [expectColon, skipBlanks_append_cons blank (by decide)]
  exact if_pos rfl

/-- What is skipped as a value without parts is one. -/
theorem skipScalar_eq_ok {first : Char} {text rest : List Char}
    (skipped : skipScalar first text = .ok rest) :
    ∃ more, text = more ++ rest ∧ IsValue (first :: more) := by
  rw [skipScalar] at skipped
  split at skipped
  · next isNull =>
    exact ⟨_, expectLetters_eq_ok skipped, isNull ▸ .null⟩
  split at skipped
  · next isTrue =>
    exact ⟨_, expectLetters_eq_ok skipped, isTrue ▸ .true⟩
  split at skipped
  · next isFalse =>
    exact ⟨_, expectLetters_eq_ok skipped, isFalse ▸ .false⟩
  split at skipped
  · next quote =>
    obtain ⟨body, split, string⟩ := skipString_eq_ok skipped
    exact ⟨body ++ ['"'], by rw [split, List.append_assoc]; rfl, quote ▸ .string string⟩
  split at skipped
  · rw [skipNumber] at skipped
    split at skipped
    · cases skipped
    · next literal _ read =>
      cases skipped
      obtain ⟨part, split, written⟩ := readLiteral_eq_ok read
      obtain ⟨c, more, rfl, -⟩ := written.begins
      obtain ⟨rfl, rfl⟩ := List.cons.inj split
      exact ⟨more, rfl, .number ⟨literal, written⟩⟩
  · cases skipped

/-- A number starts with a minus or a digit. -/
theorem IsLiteral.startsNumber {literal : Literal} {first : Char} {more : List Char}
    (written : IsLiteral literal (first :: more)) : startsNumber first = true := by
  obtain ⟨fraction, exponent, isWhole, -, -, split⟩ := written
  cases negative : literal.negative with
  | true =>
      rw [negative] at split
      rw [(List.cons.inj split).1]
      rfl
  | false =>
      rw [negative] at split
      obtain ⟨⟨some, all⟩, -⟩ := isWhole
      cases digits : literal.whole with
      | nil => exact absurd digits some
      | cons c digits' =>
          rw [digits] at split
          rw [(List.cons.inj split).1, Json.startsNumber, all c (digits ▸ List.mem_cons_self),
            Bool.or_true]

theorem ne_of_startsNumber {first c : Char} (starts : startsNumber first = true)
    (other : startsNumber c = false) : first ≠ c := by
  rintro rfl
  rw [starts] at other
  cases other

/-- A number is skipped, whatever it stands for. -/
theorem skipScalar_number {first : Char} {more rest : List Char} (number : IsNumber (first :: more))
    (ends : BreaksOff rest) : skipScalar first (more ++ rest) = .ok rest := by
  obtain ⟨literal, written⟩ := number
  have starts := written.startsNumber
  have plain : ∀ c, startsNumber c = false → first ≠ c := fun c => ne_of_startsNumber starts
  rw [skipScalar, if_neg (plain 'n' rfl), if_neg (plain 't' rfl), if_neg (plain 'f' rfl),
    if_neg (plain '"' rfl), if_pos starts, skipNumber, ← List.cons_append,
    readLiteral_append written ends]

/-- A member of an object whose key and value nobody looks at. -/
def IsAnyMember (text : List Char) : Prop :=
  ∃ body value, IsString body ∧ IsValue value ∧ IsMember body value text

theorem skipKey_eq_ok {text rest : List Char} (skipped : skipKey text = .ok rest) :
    ∃ before body between, Blank before ∧ IsString body ∧ Blank between ∧
      text = before ++ '"' :: body ++ '"' :: between ++ ':' :: rest := by
  rw [skipKey] at skipped
  split at skipped
  · cases skipped
  · next shown =>
    obtain ⟨before, blank, rfl, -⟩ := exists_of_skipBlanks_eq_cons shown
    split at skipped
    · next quote =>
      obtain ⟨after, string, colon⟩ := exists_of_bind_eq_ok skipped
      obtain ⟨body, rfl, isString⟩ := skipString_eq_ok string
      obtain ⟨between, blank', rfl⟩ := expectColon_eq_ok colon
      refine ⟨before, body, between, blank, isString, blank', ?_⟩
      rw [quote]
      simp
    · cases skipped

theorem skipKey_append {before body between : List Char} (blank : Blank before)
    (string : IsString body) (blank' : Blank between) (rest : List Char) :
    skipKey (before ++ '"' :: body ++ '"' :: between ++ ':' :: rest) = .ok rest := by
  have shown : skipBlanks (before ++ '"' :: body ++ '"' :: between ++ ':' :: rest) =
      '"' :: (body ++ '"' :: (between ++ ':' :: rest)) := by
    simp only [List.append_assoc, List.cons_append]
    exact skipBlanks_append_cons blank (by decide)
  rw [skipKey, shown]
  show (skipString (body ++ '"' :: (between ++ ':' :: rest)) >>= expectColon) = _
  rw [skipString_append string]
  exact expectColon_append blank' rest

/-! ## What is skipped is a value -/

/-- The character that opens a list or an object. -/
def Opening.mark : Opening → Char
  | .list => '['
  | .object => '{'

/-- The character that closes it. -/
def Opening.closing : Opening → Char
  | .list => ']'
  | .object => '}'

/-- What is expected inside. -/
def Opening.inside : Opening → Expected
  | .list => .value
  | .object => .member

/-- What stands inside. -/
def Opening.Holds : Opening → List Char → Prop
  | .list => IsValue
  | .object => IsAnyMember

/-- What the open brackets, the innermost first, demand of a text until all of them are closed. -/
def Closes : List Opening → List Char → Prop
  | [], text => text = []
  | bracket :: outer, text => ∃ parts row rest, (∀ part ∈ parts, bracket.Holds part) ∧
      Row bracket.closing false parts row ∧ Closes outer rest ∧ text = row ++ rest

/-- What is expected next, and then what the open brackets demand. -/
def Due : Expected → List Opening → List Char → Prop
  | .value, brackets, text => ∃ before value rest, Blank before ∧ IsValue value ∧
      Closes brackets rest ∧ text = before ++ value ++ rest
  | .member, brackets, text => ∃ before part rest, Blank before ∧ IsAnyMember part ∧
      Closes brackets rest ∧ text = before ++ part ++ rest
  | .separator, brackets, text => Closes brackets text

/-- An object of any members. -/
theorem IsValue.object_of_parts {parts : List (List Char)} {text : List Char}
    (members : ∀ part ∈ parts, IsAnyMember part) (enclosed : IsEnclosed '{' '}' parts text) :
    IsValue text := by
  obtain ⟨pairs, keys, values, written⟩ : ∃ pairs : List (List Char × List Char),
      (∀ pair ∈ pairs, IsString pair.1) ∧ (∀ pair ∈ pairs, IsValue pair.2) ∧
        List.Forall₂ (fun pair => IsMember pair.1 pair.2) pairs parts := by
    clear enclosed
    induction parts with
    | nil => exact ⟨[], by simp, by simp, .nil⟩
    | cons part parts ih =>
        rw [List.forall_mem_cons] at members
        obtain ⟨body, value, string, isValue, member⟩ := members.1
        obtain ⟨pairs, keys, values, written⟩ := ih members.2
        exact ⟨(body, value) :: pairs, List.forall_mem_cons.mpr ⟨string, keys⟩,
          List.forall_mem_cons.mpr ⟨isValue, values⟩, .cons member written⟩
  exact .object keys values written enclosed

/-- An object whose values are values is one itself. -/
theorem IsObject.isValue {members : List (String × List Char)} {text : List Char}
    (object : IsObject members text) (values : ∀ member ∈ members, IsValue member.2) :
    IsValue text := by
  obtain ⟨parts, entries, enclosed⟩ := object
  refine .object_of_parts (fun part listed => ?_) enclosed
  obtain ⟨member, listed', body, spells, isMember⟩ :=
    exists_of_forall₂_of_mem entries part listed
  exact ⟨body, member.2, spells.isString, values member listed', isMember⟩

/-- What stands between brackets makes a value. -/
theorem Opening.isValue (bracket : Opening) {parts : List (List Char)} {text : List Char}
    (holds : ∀ part ∈ parts, bracket.Holds part)
    (enclosed : IsEnclosed bracket.mark bracket.closing parts text) : IsValue text := by
  cases bracket with
  | list => exact .list holds enclosed
  | object => exact .object_of_parts holds enclosed

section Due

variable {outer : List Opening} {before between text : List Char}

theorem due_inside_iff {bracket : Opening} {brackets : List Opening} :
    Due bracket.inside brackets text ↔ ∃ before part rest, Blank before ∧ bracket.Holds part ∧
      Closes brackets rest ∧ text = before ++ part ++ rest := by
  cases bracket with
  | list => exact Iff.rfl
  | object => exact Iff.rfl

/-- A bracket that is closed at once is a value. -/
theorem due_empty (bracket : Opening) (blank : Blank before) (blank' : Blank between)
    (due : Due .separator outer text) :
    Due .value outer (before ++ bracket.mark :: (between ++ bracket.closing :: text)) :=
  ⟨before, bracket.mark :: (between ++ [bracket.closing]), text, blank,
    bracket.isValue (List.forall_mem_nil _) ⟨_, .close blank', rfl⟩, due, by simp⟩

/-- A bracket makes a value with what it holds first and what closes it. -/
theorem due_open (bracket : Opening) (blank : Blank before)
    (due : Due bracket.inside (bracket :: outer) text) :
    Due .value outer (before ++ bracket.mark :: text) := by
  obtain ⟨between, part, _, blank', first, ⟨parts, row, rest, others, follows, closes, rfl⟩, rfl⟩ :=
    due_inside_iff.mp due
  exact ⟨before, bracket.mark :: (between ++ part ++ row), rest, blank,
    bracket.isValue (List.forall_mem_cons.mpr ⟨first, others⟩) ⟨_, .item blank' follows, rfl⟩,
    closes, by simp⟩

theorem due_comma (bracket : Opening) (blank : Blank before)
    (due : Due bracket.inside (bracket :: outer) text) :
    Due .separator (bracket :: outer) (before ++ ',' :: text) := by
  obtain ⟨between, part, _, blank', first, ⟨parts, row, rest, others, follows, closes, rfl⟩, rfl⟩ :=
    due_inside_iff.mp due
  exact ⟨part :: parts, _, rest, List.forall_mem_cons.mpr ⟨first, others⟩,
    .item ⟨_, _, blank, blank', rfl⟩ follows, closes, by simp⟩

theorem due_close (bracket : Opening) (blank : Blank before) (due : Due .separator outer text) :
    Due .separator (bracket :: outer) (before ++ bracket.closing :: text) :=
  ⟨[], before ++ [bracket.closing], text, List.forall_mem_nil _, .close blank, due, by simp⟩

end Due

/-- Whatever is skipped is what was expected and demanded. -/
theorem skipFrom_eq_ok {expected : Expected} {brackets : List Opening} {text rest : List Char}
    (skipped : skipFrom expected brackets text = .ok rest) :
    ∃ part, Due expected brackets part ∧ text = part ++ rest := by
  fun_induction skipFrom expected brackets text with
  | case1 | case6 | case8 | case11 | case14 | case17 => cases skipped
  | case10 =>
      cases skipped
      exact ⟨[], rfl, rfl⟩
  | case2 brackets text inner after inside shown ih =>
      obtain ⟨more, due, rfl⟩ := ih skipped
      obtain ⟨before, blank, rfl, -⟩ := exists_of_skipBlanks_eq_cons shown
      obtain ⟨between, blank', rfl, -⟩ := exists_of_skipBlanks_eq_cons inside
      exact ⟨_, due_empty .list blank blank' due, by simp [Opening.mark, Opening.closing]⟩
  | case3 brackets text inner more shown ih =>
      obtain ⟨more, due, rfl⟩ := ih skipped
      obtain ⟨before, blank, rfl, -⟩ := exists_of_skipBlanks_eq_cons shown
      exact ⟨_, due_open .list blank due, by simp [Opening.mark]⟩
  | case4 brackets text inner after inside shown noList ih =>
      obtain ⟨more, due, rfl⟩ := ih skipped
      obtain ⟨before, blank, rfl, -⟩ := exists_of_skipBlanks_eq_cons shown
      obtain ⟨between, blank', rfl, -⟩ := exists_of_skipBlanks_eq_cons inside
      exact ⟨_, due_empty .object blank blank' due, by simp [Opening.mark, Opening.closing]⟩
  | case5 brackets text inner more shown noList ih =>
      obtain ⟨more, due, rfl⟩ := ih skipped
      obtain ⟨before, blank, rfl, -⟩ := exists_of_skipBlanks_eq_cons shown
      exact ⟨_, due_open .object blank due, by simp [Opening.mark]⟩
  | case7 brackets text c inner shown noList noObject after scalar ih =>
      obtain ⟨more, closes, rfl⟩ := ih skipped
      obtain ⟨before, blank, rfl, -⟩ := exists_of_skipBlanks_eq_cons shown
      obtain ⟨tail, rfl, isValue⟩ := skipScalar_eq_ok scalar
      exact ⟨_, ⟨before, _, more, blank, isValue, closes, rfl⟩, by simp⟩
  | case9 brackets text after key ih =>
      obtain ⟨_, ⟨between', value, more, blank'', isValue, closes, rfl⟩, rfl⟩ := ih skipped
      obtain ⟨before, body, between, blank, string, blank', rfl⟩ := skipKey_eq_ok key
      have member : IsAnyMember ('"' :: body ++ '"' :: between ++ ':' :: between' ++ value) :=
        ⟨body, value, string, isValue, between, between', blank', blank'', rfl⟩
      exact ⟨_, ⟨before, _, more, blank, member, closes, rfl⟩, by simp⟩
  | case12 text outer inner shown ih =>
      obtain ⟨more, due, rfl⟩ := ih skipped
      obtain ⟨before, blank, rfl, -⟩ := exists_of_skipBlanks_eq_cons shown
      exact ⟨_, due_comma .list blank due, by simp⟩
  | case13 text outer inner shown noComma ih =>
      obtain ⟨more, due, rfl⟩ := ih skipped
      obtain ⟨before, blank, rfl, -⟩ := exists_of_skipBlanks_eq_cons shown
      exact ⟨_, due_close .list blank due, by simp [Opening.closing]⟩
  | case15 text outer inner shown ih =>
      obtain ⟨more, due, rfl⟩ := ih skipped
      obtain ⟨before, blank, rfl, -⟩ := exists_of_skipBlanks_eq_cons shown
      exact ⟨_, due_comma .object blank due, by simp⟩
  | case16 text outer inner shown noComma ih =>
      obtain ⟨more, due, rfl⟩ := ih skipped
      obtain ⟨before, blank, rfl, -⟩ := exists_of_skipBlanks_eq_cons shown
      exact ⟨_, due_close .object blank due, by simp [Opening.closing]⟩

/-- What is skipped is one value, with blanks before it. -/
theorem skipValue_eq_ok {text rest : List Char} (skipped : skipValue text = .ok rest) :
    ∃ before value, Blank before ∧ IsValue value ∧ text = before ++ value ++ rest := by
  obtain ⟨_, ⟨before, value, _, blank, isValue, rfl, rfl⟩, rfl⟩ := skipFrom_eq_ok skipped
  exact ⟨before, value, blank, isValue, by simp⟩

/-! ## The steps of skipping -/

theorem skipFrom_scalar {brackets : List Opening} {text inner rest : List Char} {first : Char}
    (shown : skipBlanks text = first :: inner) (noList : first ≠ '[') (noObject : first ≠ '{')
    (skipped : skipScalar first inner = .ok rest) :
    skipFrom .value brackets text = skipFrom .separator brackets rest := by
  rw [skipFrom]
  split
  · next gone => cases shown.symm.trans gone
  · next here =>
    cases shown.symm.trans here
    rw [if_neg noList, if_neg noObject]
    split
    · next failed => cases skipped.symm.trans failed
    · next taken =>
      cases skipped.symm.trans taken
      rfl

/-- A bracket opens, unless it is closed at once. -/
theorem skipFrom_bracket {bracket : Opening} {brackets : List Opening} {text inner : List Char}
    (shown : skipBlanks text = bracket.mark :: inner) :
    skipFrom .value brackets text =
      if (skipBlanks inner).head? = some bracket.closing then
        skipFrom .separator brackets (skipBlanks inner).tail
      else skipFrom bracket.inside (bracket :: brackets) inner := by
  rw [skipFrom]
  split
  · next gone => cases shown.symm.trans gone
  · next here =>
    cases shown.symm.trans here
    cases bracket with
    | list =>
        rw [Opening.mark, if_pos rfl]
        split
        · next closed =>
          rw [closed]
          rfl
        · next opened =>
          rw [if_neg fun closed => ?_, Opening.inside]
          obtain ⟨after, split⟩ := List.head?_eq_some_iff.mp closed
          exact opened after split
    | object =>
        rw [Opening.mark, if_neg (by decide), if_pos rfl]
        split
        · next closed =>
          rw [closed]
          rfl
        · next opened =>
          rw [if_neg fun closed => ?_, Opening.inside]
          obtain ⟨after, split⟩ := List.head?_eq_some_iff.mp closed
          exact opened after split

theorem skipFrom_member {brackets : List Opening} {text rest : List Char}
    (skipped : skipKey text = .ok rest) :
    skipFrom .member brackets text = skipFrom .value brackets rest := by
  conv_lhs => rw [skipFrom]
  split
  · next failed => cases skipped.symm.trans failed
  · next taken =>
    cases skipped.symm.trans taken
    rfl

/-- Behind a value stands a comma or the closing bracket. -/
theorem skipFrom_separator {bracket : Opening} {outer : List Opening} {text rest : List Char}
    {c : Char} (shown : skipBlanks text = c :: rest) :
    skipFrom .separator (bracket :: outer) text =
      if c = ',' then skipFrom bracket.inside (bracket :: outer) rest
      else if c = bracket.closing then skipFrom .separator outer rest
      else .error .malformed := by
  rw [skipFrom]
  split
  · next gone => cases shown.symm.trans gone
  · next here =>
    cases shown.symm.trans here
    cases bracket <;> rfl

/-! ## Every value is skipped -/

/-- A text that is skipped wherever it stands, as what is expected there. -/
def SkipsAs (expected : Expected) (part : List Char) : Prop :=
  ∀ brackets before rest, Blank before → BreaksOff rest →
    skipFrom expected brackets (before ++ part ++ rest) = skipFrom .separator brackets rest

theorem skipsAs_scalar {first : Char} {more : List Char} (visible : isBlank first = false)
    (noList : first ≠ '[') (noObject : first ≠ '{')
    (skips : ∀ rest, BreaksOff rest → skipScalar first (more ++ rest) = .ok rest) :
    SkipsAs .value (first :: more) := by
  intro brackets before rest blank ends
  rw [List.append_assoc]
  exact skipFrom_scalar (skipBlanks_append_cons blank visible) noList noObject (skips rest ends)

theorem skipsAs_member {body value text : List Char} (string : IsString body)
    (skips : SkipsAs .value value) (member : IsMember body value text) :
    SkipsAs .member text := by
  intro brackets before rest blank ends
  obtain ⟨behind, between, blank', blank'', rfl⟩ := member
  have key := skipKey_append blank string blank' (between ++ value ++ rest)
  have split : before ++ ('"' :: body ++ '"' :: behind ++ ':' :: between ++ value) ++ rest =
      before ++ '"' :: body ++ '"' :: behind ++ ':' :: (between ++ value ++ rest) := by simp
  rw [split, skipFrom_member key]
  exact skips brackets between rest blank'' ends

theorem Opening.closing_ne (bracket : Opening) :
    bracket.closing = ']' ∨ bracket.closing = '}' := by
  cases bracket with
  | list => exact .inl rfl
  | object => exact .inr rfl

/-- What follows the first item is skipped, with the bracket that closes it. -/
theorem skipFrom_row {bracket : Opening} {items : List (List Char)} {row : List Char}
    (follows : Row bracket.closing false items row)
    (skips : ∀ item ∈ items, SkipsAs bracket.inside item) (outer : List Opening)
    (rest : List Char) :
    skipFrom .separator (bracket :: outer) (row ++ rest) = skipFrom .separator outer rest := by
  generalize first : false = place at follows
  induction follows with
  | close blank =>
      have visible : isBlank bracket.closing = false ∧ bracket.closing ≠ ',' := by
        cases bracket <;> exact ⟨by decide, by decide⟩
      rw [List.append_assoc, List.singleton_append,
        skipFrom_separator (skipBlanks_append_cons blank visible.1), if_neg visible.2, if_pos rfl]
  | item isLead follows ih =>
      subst first
      obtain ⟨before, between, blank, blank', rfl⟩ := isLead
      rw [List.forall_mem_cons] at skips
      simp only [List.append_assoc, List.cons_append]
      rw [skipFrom_separator (skipBlanks_append_cons blank (by decide)), if_pos rfl,
        ← List.append_assoc, skips.1 _ _ _ blank' (follows.breaksOff bracket.closing_ne rest)]
      exact ih skips.2 rfl

/-- Items between brackets are skipped if each of them is. -/
theorem skipsAs_enclosed (bracket : Opening) {items : List (List Char)} {text : List Char}
    (enclosed : IsEnclosed bracket.mark bracket.closing items text)
    (begins : ∀ item ∈ items, Begins item)
    (skips : ∀ item ∈ items, SkipsAs bracket.inside item) : SkipsAs .value text := by
  intro brackets before rest blank ends
  obtain ⟨row, follows, rfl⟩ := enclosed
  have visible : isBlank bracket.mark = false ∧ isBlank bracket.closing = false := by
    cases bracket <;> exact ⟨by decide, by decide⟩
  rw [List.append_assoc, List.cons_append,
    skipFrom_bracket (skipBlanks_append_cons blank visible.1)]
  cases follows with
  | close blank' =>
      rw [List.append_assoc, List.singleton_append, skipBlanks_append_cons blank' visible.2,
        List.head?_cons, if_pos rfl, List.tail_cons]
  | @item _ lead item items row isLead follows =>
      rw [List.forall_mem_cons] at begins skips
      obtain ⟨c, more, -, shown, noList, noObject⟩ :=
        (begins.1.append (row ++ rest)).skipBlanks_append isLead
      have opens : (skipBlanks (lead ++ (item ++ (row ++ rest)))).head? ≠ some bracket.closing := by
        rw [shown]
        intro same
        rcases bracket.closing_ne with list | object
        · exact noList (Option.some.inj (same.trans (congrArg some list)))
        · exact noObject (Option.some.inj (same.trans (congrArg some object)))
      simp only [List.append_assoc]
      rw [if_neg opens, ← List.append_assoc,
        skips.1 _ _ _ isLead (follows.breaksOff bracket.closing_ne rest)]
      exact skipFrom_row follows skips.2 brackets rest

/-- Every value is skipped. -/
theorem IsValue.skipsAs {text : List Char} (value : IsValue text) : SkipsAs .value text := by
  induction value with
  | null =>
      exact skipsAs_scalar (by decide) (by decide) (by decide)
        fun rest _ => expectLetters_append ['u', 'l', 'l'] rest
  | true =>
      exact skipsAs_scalar (by decide) (by decide) (by decide)
        fun rest _ => expectLetters_append ['r', 'u', 'e'] rest
  | false =>
      exact skipsAs_scalar (by decide) (by decide) (by decide)
        fun rest _ => expectLetters_append ['a', 'l', 's', 'e'] rest
  | number number =>
      obtain ⟨literal, written⟩ := number
      obtain ⟨c, more, rfl, visible, -⟩ := written.begins
      have starts := written.startsNumber
      exact skipsAs_scalar visible (ne_of_startsNumber starts rfl) (ne_of_startsNumber starts rfl)
        fun rest ends => skipScalar_number ⟨literal, written⟩ ends
  | @string body string =>
      refine skipsAs_scalar (by decide) (by decide) (by decide) fun rest _ => ?_
      have split : body ++ ['"'] ++ rest = body ++ '"' :: rest := by simp
      exact (congrArg skipString split).trans (skipString_append string rest)
  | list values enclosed ih =>
      exact skipsAs_enclosed .list enclosed
        (fun item listed => (values item listed).begins) ih
  | object keys values written enclosed ih =>
      have parts := exists_of_forall₂_of_mem written
      refine skipsAs_enclosed .object enclosed (fun part listed => ?_)
        fun part listed => ?_
      · obtain ⟨member, -, isMember⟩ := parts part listed
        exact isMember.begins
      · obtain ⟨member, listed', isMember⟩ := parts part listed
        exact skipsAs_member (keys member listed') (ih member listed') isMember

/-- One value is skipped, wherever it breaks off. -/
theorem skipValue_append {before value rest : List Char} (blank : Blank before)
    (isValue : IsValue value) (ends : BreaksOff rest) :
    skipValue (before ++ value ++ rest) = .ok rest := by
  rw [skipValue, isValue.skipsAs [] before rest blank ends, skipFrom]

end FlowGate.Json
