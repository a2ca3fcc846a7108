/-
# How documents are written

The grammar of documents: which texts are numbers, strings, lists, objects and values at all, said
by how they are put together and without a word about how they are read. Every text here is exactly
one thing, from its first character to its last; blanks belong to what stands between things.

A string that has to make sense as text `Spells` characters. In a value that nobody looks at it need
not: there a surrogate may stand alone.
-/

import FlowGate.Json.Skip
import Mathlib.Data.List.Forall2

namespace FlowGate.Json

/-- Spaces, tabs and ends of lines, and nothing else. -/
def Blank (text : List Char) : Prop := ∀ c ∈ text, c ∈ [' ', '\n', '\t', '\r']

/-! ## Numbers -/

/-- One digit or more. -/
def IsDigits (digits : List Char) : Prop := digits ≠ [] ∧ ∀ c ∈ digits, c.isDigit = true

/-- The digits before the point: a zero that leads stands alone. -/
def IsWhole (digits : List Char) : Prop :=
  IsDigits digits ∧ (digits.head? = some '0' → digits = ['0'])

/-- A point and the digits after it, or nothing. -/
def IsFraction : Option (List Char) → List Char → Prop
  | none, part => part = []
  | some digits, part => IsDigits digits ∧ part = '.' :: digits

/-- An exponent with its sign, in which a plus may be left out, or nothing. -/
def IsExponent : Option (Bool × List Char) → List Char → Prop
  | none, part => part = []
  | some (negative, digits), part =>
    IsDigits digits ∧ ∃ mark sign, (mark = 'e' ∨ mark = 'E') ∧
      (if negative then sign = ['-'] else sign = [] ∨ sign = ['+']) ∧ part = mark :: sign ++ digits

/-- A number as it is written, with these parts. -/
def IsLiteral (literal : Literal) (text : List Char) : Prop :=
  ∃ fraction exponent, IsWhole literal.whole ∧ IsFraction literal.fraction fraction ∧
    IsExponent literal.exponent exponent ∧
      text = (if literal.negative then ['-'] else []) ++ literal.whole ++ fraction ++ exponent

/-- A number. -/
def IsNumber (text : List Char) : Prop := ∃ literal, IsLiteral literal text

/-- A word is written as its decimal digits: no sign, no point, no exponent and no zero in front. -/
def IsWord (word : UInt64) (text : List Char) : Prop := text = Nat.toDigits 10 word.toNat

/-! ## Strings -/

/-- The letters that may follow a backslash, and the characters that they stand for. -/
def escapeLetters : List (Char × Char) :=
  [('"', '"'), ('\\', '\\'), ('/', '/'), ('b', '\x08'), ('f', '\x0c'), ('n', '\n'), ('r', '\r'),
    ('t', '\t')]

/-- A hexadecimal digit, in either case, and its value. -/
def IsHexDigit (c : Char) (value : Nat) : Prop :=
  value < 16 ∧ (c = value.digitChar ∨ c = value.digitChar.toUpper)

/-- Four hexadecimal digits, and the code unit that they are. -/
def IsCodeUnit (digits : List Char) (unit : Nat) : Prop :=
  ∃ a b c d, List.Forall₂ IsHexDigit digits [a, b, c, d] ∧
    unit = a * 0x1000 + b * 0x100 + c * 0x10 + d

/-- What may follow a backslash, whether it makes sense as text or not. -/
inductive IsEscape : List Char → Prop
  | letter {letter c} (known : (letter, c) ∈ escapeLetters) : IsEscape [letter]
  | unit {digits unit} (isUnit : IsCodeUnit digits unit) : IsEscape ('u' :: digits)

/-- What stands between the quotes of a string. -/
inductive IsString : List Char → Prop
  | nil : IsString []
  | plain {c body} (noQuote : c ≠ '"') (noBackslash : c ≠ '\\') (noControl : ¬ c < ' ')
      (rest : IsString body) : IsString (c :: body)
  | escape {part body} (escape : IsEscape part) (rest : IsString body) :
      IsString ('\\' :: part ++ body)

/-- What follows a backslash, and the character that it stands for: a code unit that is no surrogate
is the character itself, and a high surrogate takes a low one behind it. -/
inductive Escapes : List Char → Char → Prop
  | letter {letter c} (known : (letter, c) ∈ escapeLetters) : Escapes [letter] c
  | unit {digits unit} (isUnit : IsCodeUnit digits unit) (plain : unit < 0xD800 ∨ 0xE000 ≤ unit) :
      Escapes ('u' :: digits) (Char.ofNat unit)
  | pair {digits digits' high low}
      (isUnit : IsCodeUnit digits (0xD800 + high)) (fits : high < 0x400)
      (isUnit' : IsCodeUnit digits' (0xDC00 + low)) (fits' : low < 0x400) :
      Escapes ('u' :: digits ++ '\\' :: 'u' :: digits') (Char.ofNat (0x10000 + high * 0x400 + low))

/-- What stands between the quotes of a string, and the characters that it stands for. -/
inductive Spells : List Char → List Char → Prop
  | nil : Spells [] []
  | plain {c body characters} (noQuote : c ≠ '"') (noBackslash : c ≠ '\\') (noControl : ¬ c < ' ')
      (rest : Spells body characters) : Spells (c :: body) (c :: characters)
  | escape {part c body characters} (escapes : Escapes part c) (rest : Spells body characters) :
      Spells ('\\' :: part ++ body) (c :: characters)

/-! ## Lists and objects -/

/-- What stands before an item: blanks before the first one, and a comma between blanks before every
other one. -/
def IsLead : Bool → List Char → Prop
  | true, lead => Blank lead
  | false, lead => ∃ before between, Blank before ∧ Blank between ∧ lead = before ++ ',' :: between

/-- Items with commas between them, up to and with the closing bracket, from before the first item
or from behind some item on. -/
inductive Row (closing : Char) : Bool → List (List Char) → List Char → Prop
  | close {first before} (blank : Blank before) : Row closing first [] (before ++ [closing])
  | item {first lead item items row} (isLead : IsLead first lead)
      (rest : Row closing false items row) : Row closing first (item :: items) (lead ++ item ++ row)

/-- Items between brackets. -/
def IsEnclosed (opening closing : Char) (items : List (List Char)) (text : List Char) : Prop :=
  ∃ row, Row closing true items row ∧ text = opening :: row

/-- A member of an object: what stands between the quotes of its key, and its value. -/
def IsMember (body value text : List Char) : Prop :=
  ∃ before between, Blank before ∧ Blank between ∧
    text = '"' :: body ++ '"' :: before ++ ':' :: between ++ value

/-- A value, of any depth. -/
inductive IsValue : List Char → Prop
  | null : IsValue ['n', 'u', 'l', 'l']
  | true : IsValue ['t', 'r', 'u', 'e']
  | false : IsValue ['f', 'a', 'l', 's', 'e']
  | number {text} (number : IsNumber text) : IsValue text
  | string {body} (string : IsString body) : IsValue ('"' :: body ++ ['"'])
  | list {items text} (values : ∀ item ∈ items, IsValue item)
      (enclosed : IsEnclosed '[' ']' items text) : IsValue text
  | object {members : List (List Char × List Char)} {parts text}
      (keys : ∀ member ∈ members, IsString member.1)
      (values : ∀ member ∈ members, IsValue member.2)
      (written : List.Forall₂ (fun member => IsMember member.1 member.2) members parts)
      (enclosed : IsEnclosed '{' '}' parts text) : IsValue text

/-- A member of an object: its key as text, and its value as it is written. -/
def IsEntry (member : String × List Char) (text : List Char) : Prop :=
  ∃ body, Spells body member.1.toList ∧ IsMember body member.2 text

/-- An object with these members, in their order. -/
def IsObject (members : List (String × List Char)) (text : List Char) : Prop :=
  ∃ parts, List.Forall₂ IsEntry members parts ∧ IsEnclosed '{' '}' parts text

/-- The values of the members with a key, in order. -/
def valuesOf (key : String) (members : List (String × List Char)) : List (List Char) :=
  (members.filter (·.1 == key)).map Prod.snd

section Written

variable {α : Type} (Written : α → List Char → Prop)

/-- A list of things that are written in a certain way. -/
def IsListOf (values : List α) (text : List Char) : Prop :=
  ∃ items, List.Forall₂ Written values items ∧ IsEnclosed '[' ']' items text

/-- What members give under a key: nothing, or one value and that one only once. -/
def Gives (members : List (String × List Char)) (key : String) : Option α → Prop
  | none => valuesOf key members = []
  | some value => ∃ part, valuesOf key members = [part] ∧ Written value part

end Written

/-- A document: one value that is such a thing, with nothing but blanks around it. -/
def IsDocument (thing : List Char → Prop) (text : List Char) : Prop :=
  ∃ before part after, Blank before ∧ IsValue part ∧ thing part ∧ Blank after ∧
    text = before ++ part ++ after

theorem isDocument_congr {thing thing' : List Char → Prop} {text : List Char}
    (same : ∀ part, thing part ↔ thing' part) : IsDocument thing text ↔ IsDocument thing' text := by
  simp only [IsDocument, same]

/-- Each of the things that are written is written for something. -/
theorem exists_of_forall₂_of_mem {α : Type} {Written : α → List Char → Prop} {values : List α}
    {parts : List (List Char)} (written : List.Forall₂ Written values parts) :
    ∀ part ∈ parts, ∃ value ∈ values, Written value part := by
  induction written with
  | nil => exact List.forall_mem_nil _
  | cons first rest ih =>
      refine List.forall_mem_cons.mpr ⟨⟨_, List.mem_cons_self, first⟩, fun part listed => ?_⟩
      obtain ⟨value, listed', writes⟩ := ih part listed
      exact ⟨value, List.mem_cons_of_mem _ listed', writes⟩

/-! ## First characters -/

/-- A text whose first character is visible and closes nothing. -/
def Begins (text : List Char) : Prop :=
  ∃ c rest, text = c :: rest ∧ isBlank c = false ∧ c ≠ ']' ∧ c ≠ '}'

/-- A text that no number goes on into. -/
def BreaksOff (text : List Char) : Prop :=
  ∀ c rest, text = c :: rest → c.isDigit = false ∧ c ≠ '.' ∧ c ≠ 'e' ∧ c ≠ 'E'

theorem begins_cons {c : Char} {rest : List Char} (visible : isBlank c = false) (noList : c ≠ ']')
    (noObject : c ≠ '}') : Begins (c :: rest) :=
  ⟨c, rest, rfl, visible, noList, noObject⟩

theorem Begins.append {text : List Char} (begins : Begins text) (more : List Char) :
    Begins (text ++ more) := by
  obtain ⟨c, rest, rfl, visible⟩ := begins
  exact ⟨c, rest ++ more, rfl, visible⟩

theorem isBlank_iff {c : Char} : isBlank c = true ↔ c ∈ [' ', '\n', '\t', '\r'] := by
  simp [isBlank, or_assoc]

/-- A digit is neither a blank nor a bracket. -/
theorem begins_of_isDigit {c : Char} {rest : List Char} (digit : c.isDigit = true) :
    Begins (c :: rest) := by
  refine begins_cons (Bool.eq_false_iff.mpr fun blank => ?_) ?_ ?_
  · simp only [isBlank, Bool.or_eq_true, beq_iff_eq] at blank
    rcases blank with ((rfl | rfl) | rfl) | rfl <;> revert digit <;> decide
  · rintro rfl
    revert digit
    decide
  · rintro rfl
    revert digit
    decide

theorem IsDigits.begins {digits : List Char} (written : IsDigits digits) : Begins digits := by
  obtain ⟨some, all⟩ := written
  cases digits with
  | nil => exact absurd rfl some
  | cons c rest => exact begins_of_isDigit (all c List.mem_cons_self)

theorem IsLiteral.begins {literal : Literal} {text : List Char}
    (written : IsLiteral literal text) : Begins text := by
  obtain ⟨fraction, exponent, whole, -, -, rfl⟩ := written
  cases literal.negative with
  | true => exact begins_cons (by decide) (by decide) (by decide)
  | false => exact (whole.1.begins.append fraction).append exponent

theorem IsEnclosed.begins {opening closing : Char} {items : List (List Char)} {text : List Char}
    (enclosed : IsEnclosed opening closing items text) (visible : isBlank opening = false)
    (noList : opening ≠ ']') (noObject : opening ≠ '}') : Begins text := by
  obtain ⟨row, -, rfl⟩ := enclosed
  exact begins_cons visible noList noObject

theorem IsMember.begins {body value text : List Char} (member : IsMember body value text) :
    Begins text := by
  obtain ⟨before, between, -, -, rfl⟩ := member
  exact begins_cons (by decide) (by decide) (by decide)

theorem IsValue.begins {text : List Char} (value : IsValue text) : Begins text := by
  cases value with
  | null => exact begins_cons (by decide) (by decide) (by decide)
  | true => exact begins_cons (by decide) (by decide) (by decide)
  | false => exact begins_cons (by decide) (by decide) (by decide)
  | number number =>
      obtain ⟨literal, written⟩ := number
      exact written.begins
  | string string => exact begins_cons (by decide) (by decide) (by decide)
  | list values enclosed => exact enclosed.begins (by decide) (by decide) (by decide)
  | object keys values written enclosed =>
      exact enclosed.begins (by decide) (by decide) (by decide)

theorem breaksOff_nil : BreaksOff [] := by
  intro c rest impossible
  cases impossible

theorem breaksOff_cons {c : Char} {rest : List Char} (noDigit : c.isDigit = false)
    (noPoint : c ≠ '.') (noMark : c ≠ 'e') (noMark' : c ≠ 'E') : BreaksOff (c :: rest) := by
  intro other others same
  cases same
  exact ⟨noDigit, noPoint, noMark, noMark'⟩

/-- No number goes on into blanks. -/
theorem Blank.breaksOff_append {before text : List Char} (blank : Blank before)
    (after : BreaksOff text) : BreaksOff (before ++ text) := by
  cases before with
  | nil => exact after
  | cons c before =>
      have here := isBlank_iff.mpr (blank c List.mem_cons_self)
      simp only [isBlank, Bool.or_eq_true, beq_iff_eq] at here
      rcases here with ((rfl | rfl) | rfl) | rfl <;>
        exact breaksOff_cons (by decide) (by decide) (by decide) (by decide)

/-- What follows an item breaks off its number. -/
theorem Row.breaksOff {closing : Char} {items : List (List Char)} {row : List Char}
    (follows : Row closing false items row) (bracket : closing = ']' ∨ closing = '}')
    (rest : List Char) : BreaksOff (row ++ rest) := by
  cases follows with
  | close blank =>
      rw [List.append_assoc]
      refine blank.breaksOff_append ?_
      rcases bracket with rfl | rfl
      · exact breaksOff_cons (by decide) (by decide) (by decide) (by decide)
      · exact breaksOff_cons (by decide) (by decide) (by decide) (by decide)
  | item isLead rest =>
      obtain ⟨before, between, blank, -, rfl⟩ := isLead
      simp only [List.append_assoc]
      exact blank.breaksOff_append
        (breaksOff_cons (by decide) (by decide) (by decide) (by decide))

/-! ## Blanks -/

theorem blank_nil : Blank [] := by
  intro c listed
  cases listed

theorem Blank.append {before after : List Char} (blank : Blank before) (blank' : Blank after) :
    Blank (before ++ after) := List.forall_mem_append.mpr ⟨blank, blank'⟩

theorem skipBlanks_append {before : List Char} (blank : Blank before) (text : List Char) :
    skipBlanks (before ++ text) = skipBlanks text := by
  rw [skipBlanks, List.dropWhile_append_of_pos fun c listed => isBlank_iff.mpr (blank c listed),
    skipBlanks]

theorem skipBlanks_cons {c : Char} {rest : List Char} (visible : isBlank c = false) :
    skipBlanks (c :: rest) = c :: rest := by
  rw [skipBlanks, List.dropWhile_cons_of_neg (by simp [visible])]

/-- Behind blanks stands the first visible character. -/
theorem skipBlanks_append_cons {before rest : List Char} {c : Char} (blank : Blank before)
    (visible : isBlank c = false) : skipBlanks (before ++ c :: rest) = c :: rest := by
  rw [skipBlanks_append blank, skipBlanks_cons visible]

/-- What begins behind blanks shows its first character, and that closes nothing. -/
theorem Begins.skipBlanks_append {before text : List Char} (begins : Begins text)
    (blank : Blank before) :
    ∃ c rest, text = c :: rest ∧ skipBlanks (before ++ text) = c :: rest ∧ c ≠ ']' ∧ c ≠ '}' := by
  obtain ⟨c, rest, rfl, visible, closesNothing⟩ := begins
  exact ⟨c, rest, rfl, skipBlanks_append_cons blank visible, closesNothing⟩

theorem skipBlanks_of_blank {text : List Char} (blank : Blank text) : skipBlanks text = [] := by
  have gone := skipBlanks_append blank []
  rwa [List.append_nil] at gone

theorem blank_takeWhile (text : List Char) : Blank (text.takeWhile isBlank) := by
  intro c listed
  exact isBlank_iff.mp (List.all_eq_true.mp List.all_takeWhile c listed)

theorem exists_blank_append (text : List Char) :
    ∃ before, Blank before ∧ text = before ++ skipBlanks text :=
  ⟨text.takeWhile isBlank, blank_takeWhile text, List.takeWhile_append_dropWhile.symm⟩

theorem blank_of_skipBlanks_eq_nil {text : List Char} (gone : skipBlanks text = []) :
    Blank text := by
  obtain ⟨before, blank, split⟩ := exists_blank_append text
  rw [gone, List.append_nil] at split
  rwa [split]

/-- A text is its blanks and then its first visible character. -/
theorem exists_of_skipBlanks_eq_cons {text rest : List Char} {c : Char}
    (shown : skipBlanks text = c :: rest) :
    ∃ before, Blank before ∧ text = before ++ c :: rest ∧ isBlank c = false := by
  obtain ⟨before, blank, split⟩ := exists_blank_append text
  rw [shown] at split
  have visible := List.head?_dropWhile_not isBlank text
  rw [← skipBlanks, shown] at visible
  exact ⟨before, blank, split, visible⟩

end FlowGate.Json
