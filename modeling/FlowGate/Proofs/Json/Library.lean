/-
# What a library decodes

Nothing is known here of a library that decodes texts but what its documentation says
(`Library.Documented`): texts are strict JSON with one value in each, words are made of integers
that fit and of nothing else, lists element by element, and records step by step, from the elements
of a list or from the members of an object. By induction on shapes this settles for every shape which
texts are decoded to which values, without any steps: `Shape.Written` says how a value is written.

The library of the readers is one that does as documented, so what follows for all of them holds of
it as well.
-/

import FlowGate.Proofs.Json.Records

namespace FlowGate.Json

/-! ## What is documented -/

namespace Library

/-- A value as it is written, from which the library decodes this. -/
def Accepts (library : Library) {α : Type} (shape : Shape α) (value : α) (part : List Char) :
    Prop :=
  IsValue part ∧ library.decode shape part = .ok value

/-- What the documentation of a library says. -/
structure Documented (library : Library) : Prop where
  /-- A text is one value with nothing but blanks around it. -/
  whole {α : Type} (shape : Shape α) (value : α) (text : List Char) :
    library.decode shape text = .ok value ↔ IsDocument (library.Accepts shape value) text
  /-- An integer without a sign is decoded to the word of the same value, if there is one. -/
  word_integer {literal : Literal} {part : List Char} (written : IsLiteral literal part)
    (unsigned : literal.negative = false) (noFraction : literal.fraction = none)
    (noExponent : literal.exponent = none) (word : UInt64) :
    library.decode .word part = .ok word ↔ decimalValue literal.whole = word.toNat
  /-- Negative integers are out of range, and minus zero is no integer. -/
  word_negative {literal : Literal} {part : List Char} (written : IsLiteral literal part)
    (negative : literal.negative = true) (word : UInt64) : library.decode .word part ≠ .ok word
  /-- A number with a fraction or an exponent is no integer, whatever its value. -/
  word_float {literal : Literal} {part : List Char} (written : IsLiteral literal part)
    (float : literal.fraction ≠ none ∨ literal.exponent ≠ none) (word : UInt64) :
    library.decode .word part ≠ .ok word
  /-- Values that are no numbers are of the wrong type. -/
  word_other {part : List Char} (isValue : IsValue part) (other : ¬ IsNumber part)
    (word : UInt64) : library.decode .word part ≠ .ok word
  /-- A list is decoded element by element. -/
  list {α : Type} (item : Shape α) (values : List α) {part : List Char} (isValue : IsValue part) :
    library.decode (.list item) part = .ok values ↔ IsListOf (library.Accepts item) values part
  /-- A record is decoded from a list of its fields or from an object, whose members are visited in
  order. -/
  record {Value Record : Type} (declaration : Declaration Value Record) (field : Shape Value)
    (record : Record) {part : List Char} (isValue : IsValue part) :
    library.decode (.record declaration field) part = .ok record ↔
      declaration.Takes (library.Accepts field) record part

theorem accepts_functional (library : Library) {α : Type} (shape : Shape α) :
    Functional (library.Accepts shape) := by
  rintro value value' part ⟨-, decoded⟩ ⟨-, decoded'⟩
  exact Except.ok.inj (decoded.symm.trans decoded')

end Library

/-! ## How values are written -/

/-- How the values of a shape are written. -/
def Shape.Written : {α : Type} → Shape α → α → List Char → Prop
  | _, .word => IsWord
  | _, .list item => IsListOf item.Written
  | _, .record declaration field => declaration.IsRecord field.Written

/-- A record is a value if its fields are. -/
theorem Declaration.IsRecord.isValue {Value Record : Type} {declaration : Declaration Value Record}
    {Written : Value → List Char → Prop} (all : ∀ {value part}, Written value part → IsValue part)
    {record : Record} {text : List Char} (written : declaration.IsRecord Written record text) :
    IsValue text := by
  rcases written with ⟨elements, -, isList, -⟩ | ⟨members, fields, object, others, ⟨-, gives⟩, -⟩
  · exact isList.isValue all
  · refine object.isValue fun member listed => ?_
    by_cases known : member.1 ∈ declaration.keys
    · obtain ⟨place, at_⟩ := List.mem_iff_getElem?.mp known
      exact (gives place member.1 at_).isValue all listed
    · exact others member listed known

theorem Shape.isValue_of_written {α : Type} (shape : Shape α) {value : α} {part : List Char}
    (written : shape.Written value part) : IsValue part := by
  induction shape generalizing part with
  | word => exact IsWord.isValue written
  | list item ih => exact IsListOf.isValue ih written
  | record declaration field ih => exact Declaration.IsRecord.isValue ih written

/-- A word is decoded from its digits. -/
theorem Library.Documented.accepts_word_iff {library : Library} (documented : library.Documented)
    (word : UInt64) (part : List Char) : library.Accepts .word word part ↔ IsWord word part := by
  constructor
  · rintro ⟨isValue, decoded⟩
    by_cases number : IsNumber part
    · obtain ⟨literal, written⟩ := number
      have unsigned : literal.negative = false := Bool.eq_false_iff.mpr fun negative =>
        documented.word_negative written negative word decoded
      have noFraction : literal.fraction = none := by_contra fun some =>
        documented.word_float written (.inl some) word decoded
      have noExponent : literal.exponent = none := by_contra fun some =>
        documented.word_float written (.inr some) word decoded
      exact (isWord_iff_decimalValue written unsigned noFraction noExponent).mpr
        ((documented.word_integer written unsigned noFraction noExponent word).mp decoded)
    · exact absurd decoded (documented.word_other isValue number word)
  · intro isWord
    have written := isLiteral_of_isWord isWord
    exact ⟨IsWord.isValue isWord, (documented.word_integer written rfl rfl rfl word).mpr
      ((isWord_iff_decimalValue written rfl rfl rfl).mp isWord)⟩

/-- What a library accepts for a value is what is written for it. -/
theorem Library.Documented.accepts_eq_written {library : Library} (documented : library.Documented)
    {α : Type} (shape : Shape α) : library.Accepts shape = shape.Written := by
  induction shape with
  | word =>
      funext word part
      exact propext (documented.accepts_word_iff word part)
  | list item ih =>
      funext values part
      refine propext ⟨fun ⟨isValue, decoded⟩ => ?_, fun written => ?_⟩
      · rw [documented.list item values isValue, ih] at decoded
        exact decoded
      · have isValue := Shape.isValue_of_written (.list item) written
        refine ⟨isValue, ?_⟩
        rw [documented.list item values isValue, ih]
        exact written
  | record declaration field ih =>
      have functional := library.accepts_functional field
      rw [ih] at functional
      funext record part
      refine propext ⟨fun ⟨isValue, decoded⟩ => ?_, fun written => ?_⟩
      · rw [documented.record declaration field record isValue, ih] at decoded
        exact (Declaration.takes_iff_isRecord functional).mp decoded
      · have isValue := Shape.isValue_of_written (.record declaration field) written
        refine ⟨isValue, ?_⟩
        rw [documented.record declaration field record isValue, ih]
        exact (Declaration.takes_iff_isRecord functional).mpr written

/-- A text is decoded to a value if it is a document of it, and only then. -/
theorem Library.Documented.decode_eq_ok_iff {library : Library} (documented : library.Documented)
    {α : Type} (shape : Shape α) (value : α) (text : List Char) :
    library.decode shape text = .ok value ↔ IsDocument (shape.Written value) text := by
  rw [documented.whole, documented.accepts_eq_written]

/-! ## The library of the readers -/

/-- What belongs to a shape is read as it is written. -/
theorem Shape.reads {α : Type} (shape : Shape α) : shape.reader.Reads shape.Written := by
  induction shape with
  | word => exact word_reads
  | list item ih => exact list_reads ih
  | record declaration field ih =>
      have functional : Functional field.Written := fun _ _ _ written written' =>
        ih.unique written written'
      exact (Layout.reader_reads ih).congr (Declaration.takes_iff_isRecord functional)

/-- A value is a document of what it is itself, and of nothing else. -/
theorem isDocument_iff_of_isValue {thing : List Char → Prop} {part : List Char}
    (isValue : IsValue part) : IsDocument thing part ↔ thing part := by
  constructor
  · rintro ⟨before, inner, after, blank, innerValue, holds, blank', rfl⟩
    have ends : BreaksOff after := by
      have breaksOff := blank'.breaksOff_append breaksOff_nil
      rwa [List.append_nil] at breaksOff
    -- Skipping the value leaves nothing, and it leaves what stands behind the value in it.
    have all := skipValue_append blank_nil isValue breaksOff_nil
    have first := skipValue_append blank innerValue ends
    rw [List.nil_append, List.append_nil, first] at all
    obtain rfl : after = [] := Except.ok.inj all
    cases before with
    | nil =>
        rw [List.nil_append, List.append_nil]
        exact holds
    | cons c before =>
        obtain ⟨c', rest, same, visible, -⟩ := isValue.begins
        obtain ⟨rfl, -⟩ := List.cons.inj same
        rw [isBlank_iff.mpr (blank c List.mem_cons_self)] at visible
        cases visible
  · intro holds
    exact ⟨[], part, [], blank_nil, isValue, holds, blank_nil, by simp⟩

/-- A number is written in one way only as a literal. -/
theorem IsLiteral.unique {literal literal' : Literal} {part : List Char}
    (written : IsLiteral literal part) (written' : IsLiteral literal' part) :
    literal = literal' := by
  have first := readLiteral_append written breaksOff_nil
  rw [readLiteral_append written' breaksOff_nil] at first
  exact (Prod.mk.inj (Except.ok.inj first)).1.symm

namespace Library

theorem reading_decode_eq_ok_iff {α : Type} (shape : Shape α) {value : α} {text : List Char} :
    reading.decode shape text = .ok value ↔ IsDocument (shape.Written value) text :=
  shape.reads.readAll_eq_ok_iff shape.isValue_of_written

/-- From a value, the readers get what is written. -/
theorem reading_decode_value {α : Type} (shape : Shape α) {value : α} {part : List Char}
    (isValue : IsValue part) : reading.decode shape part = .ok value ↔ shape.Written value part :=
  (reading_decode_eq_ok_iff shape).trans (isDocument_iff_of_isValue isValue)

theorem reading_accepts {α : Type} (shape : Shape α) :
    reading.Accepts shape = shape.Written := by
  funext value part
  exact propext ⟨fun ⟨isValue, decoded⟩ => (reading_decode_value shape isValue).mp decoded,
    fun written => ⟨shape.isValue_of_written written,
      (reading_decode_value shape (shape.isValue_of_written written)).mpr written⟩⟩

/-- The readers decode texts as documented. -/
theorem documented_reading : reading.Documented where
  whole shape value text := by
    rw [reading_accepts]
    exact reading_decode_eq_ok_iff shape
  word_integer written unsigned noFraction noExponent _ :=
    (reading_decode_value .word (.number ⟨_, written⟩)).trans
      (isWord_iff_decimalValue written unsigned noFraction noExponent)
  word_negative written negative word decoded := by
    have isWord := (reading_decode_value .word (.number ⟨_, written⟩)).mp decoded
    rw [written.unique (isLiteral_of_isWord isWord)] at negative
    cases negative
  word_float written float word decoded := by
    have isWord := (reading_decode_value .word (.number ⟨_, written⟩)).mp decoded
    rw [written.unique (isLiteral_of_isWord isWord)] at float
    rcases float with some | some <;> exact some rfl
  word_other isValue other word decoded := by
    have isWord := (reading_decode_value .word isValue).mp decoded
    exact other ⟨_, isLiteral_of_isWord isWord⟩
  list item values part isValue := by
    rw [reading_accepts]
    exact reading_decode_value (.list item) isValue
  record declaration field record part isValue := by
    have functional := reading.accepts_functional field
    rw [Declaration.takes_iff_isRecord functional, reading_accepts]
    exact reading_decode_value (.record declaration field) isValue

end Library

end FlowGate.Json
