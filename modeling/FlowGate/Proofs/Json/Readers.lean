/-
# What readers read

A reader reads what is written in a certain way when it takes exactly that off the front of a text,
with the blanks before it, and gives the value that was written. Words are read so, and a list is
read so if its items are. Both ways round the parts of a list are one lemma, for the first part and
for every other one, and the parts of an object will use it as well.
-/

import FlowGate.Json.Field
import FlowGate.Proofs.Json.Numbers

namespace FlowGate.Json

/-- A reader that takes off what is written in a certain way, and nothing else. -/
structure Reader.Reads {α : Type} (reader : Reader α) (Written : α → List Char → Prop) : Prop where
  taken : ∀ {text rest value}, reader.read text = .ok (value, rest) →
    ∃ before part, Blank before ∧ Written value part ∧ text = before ++ part ++ rest
  takes : ∀ {before part rest value}, Blank before → Written value part → BreaksOff rest →
    reader.read (before ++ part ++ rest) = .ok (value, rest)
  begins : ∀ {value part}, Written value part → Begins part

/-- A word is read as its digits. -/
theorem word_reads : word.Reads IsWord := ⟨readWord_eq_ok, readWord_append, IsWord.begins⟩

namespace Reader.Reads

variable {α : Type} {reader : Reader α} {Written : α → List Char → Prop}

/-- No text is written for two values. -/
theorem unique (reads : reader.Reads Written) {part : List Char} {value value' : α}
    (written : Written value part) (written' : Written value' part) : value = value' := by
  have first := reads.takes blank_nil written breaksOff_nil
  have second := reads.takes blank_nil written' breaksOff_nil
  rw [first] at second
  exact congrArg Prod.fst (Except.ok.inj second)

theorem congr (reads : reader.Reads Written) {Written' : α → List Char → Prop}
    (same : ∀ {value part}, Written value part ↔ Written' value part) : reader.Reads Written' where
  taken finish := by
    obtain ⟨before, part, blank, written, split⟩ := reads.taken finish
    exact ⟨before, part, blank, same.mp written, split⟩
  takes blank written ends := reads.takes blank (same.mpr written) ends
  begins written := reads.begins (same.mpr written)

/-- Whole documents are read if what the reader reads are values. -/
theorem readAll_eq_ok_iff (reads : reader.Reads Written)
    (values : ∀ {value part}, Written value part → IsValue part) {text : List Char} {value : α} :
    reader.readAll text = .ok value ↔ IsDocument (Written value) text := by
  rw [Reader.readAll]
  constructor
  · intro read
    split at read
    · cases read
    · next found rest taken =>
      obtain ⟨before, part, blank, written, rfl⟩ := reads.taken taken
      split at read
      · next gone =>
        cases read
        exact ⟨before, part, rest, blank, values written, written,
          blank_of_skipBlanks_eq_nil gone, rfl⟩
      · cases read
  · rintro ⟨before, part, after, blank, -, written, blank', rfl⟩
    have ends : BreaksOff after := by
      have breaksOff := blank'.breaksOff_append breaksOff_nil
      rwa [List.append_nil] at breaksOff
    rw [reads.takes blank written ends]
    exact if_pos (skipBlanks_of_blank blank')

/-! ## Parts of lists and objects -/

/-- A part that is read is written so, and stands behind its comma or is the first one. -/
theorem readPart_eq_ok (reads : reader.Reads Written) {first : Bool} {c : Char}
    {text inner after : List Char} {value : α} (shown : skipBlanks text = c :: inner)
    (read : readPart reader first c inner = .ok (value, after)) :
    ∃ lead part, IsLead first lead ∧ Written value part ∧ text = lead ++ part ++ after := by
  obtain ⟨before, blank, rfl, -⟩ := exists_of_skipBlanks_eq_cons shown
  cases first with
  | true =>
      obtain ⟨between, part, blank', written, split⟩ := reads.taken read
      exact ⟨before ++ between, part, blank.append blank', written, by simp [split]⟩
  | false =>
      rw [readPart, if_neg Bool.false_ne_true] at read
      split at read
      · next comma =>
        obtain ⟨between, part, blank', written, rfl⟩ := reads.taken read
        exact ⟨before ++ ',' :: between, part, ⟨before, between, blank, blank', rfl⟩, written,
          by simp [comma]⟩
      · cases read

/-- A part that is written so is read, and it does not show a closing bracket. -/
theorem readPart_append (reads : reader.Reads Written) {first : Bool} {lead part rest : List Char}
    {value : α} (isLead : IsLead first lead) (written : Written value part)
    (ends : BreaksOff rest) :
    ∃ c inner, skipBlanks (lead ++ part ++ rest) = c :: inner ∧ c ≠ ']' ∧ c ≠ '}' ∧
      readPart reader first c inner = .ok (value, rest) := by
  cases first with
  | true =>
      obtain ⟨c, inner, split, shown, noList, noObject⟩ :=
        ((reads.begins written).append rest).skipBlanks_append isLead
      refine ⟨c, inner, by rw [List.append_assoc, shown], noList, noObject, ?_⟩
      rw [readPart, if_pos rfl, ← split]
      exact reads.takes blank_nil written ends
  | false =>
      obtain ⟨before, between, blank, blank', rfl⟩ := isLead
      refine ⟨',', between ++ part ++ rest, ?_, by decide, by decide, ?_⟩
      · simp only [List.append_assoc, List.cons_append]
        exact skipBlanks_append_cons blank (by decide)
      · exact reads.takes blank' written ends

end Reader.Reads

/-! ## Lists -/

section Lists

variable {α : Type} {item : Reader α} {Written : α → List Char → Prop} {first : Bool}

theorem readItems_close {text rest : List Char} (shown : skipBlanks text = ']' :: rest) :
    readItems item first text = .ok ([], rest) := by
  rw [readItems]
  split
  · next gone => cases shown.symm.trans gone
  · next here =>
    cases shown.symm.trans here
    exact if_pos rfl

theorem readItems_part {text inner after rest : List Char} {c : Char} {value : α} {values : List α}
    (shown : skipBlanks text = c :: inner) (opens : c ≠ ']')
    (part : readPart item first c inner = .ok (value, after))
    (others : readItems item false after = .ok (values, rest)) :
    readItems item first text = .ok (value :: values, rest) := by
  rw [readItems]
  split
  · next gone => cases shown.symm.trans gone
  · next here =>
    cases shown.symm.trans here
    rw [if_neg opens]
    split
    · next failed => cases part.symm.trans failed
    · next read =>
      cases part.symm.trans read
      rw [others]
      rfl

theorem readItems_eq_ok (reads : item.Reads Written) {text rest : List Char} {values : List α}
    (read : readItems item first text = .ok (values, rest)) :
    ∃ items row, List.Forall₂ Written values items ∧ Row ']' first items row ∧
      text = row ++ rest := by
  fun_induction readItems item first text generalizing values with
  | case1 | case3 => cases read
  | case2 first text last shown =>
      cases read
      obtain ⟨before, blank, rfl, -⟩ := exists_of_skipBlanks_eq_cons shown
      exact ⟨[], before ++ [']'], .nil, .close blank, by simp⟩
  | case4 first text c inner shown opens value after readsPart ih =>
      obtain ⟨⟨others, last⟩, readsOthers, read⟩ := exists_of_bind_eq_ok read
      cases read
      obtain ⟨lead, part, isLead, written, rfl⟩ := reads.readPart_eq_ok shown readsPart
      obtain ⟨items, row, writtens, follows, rfl⟩ := ih readsOthers
      exact ⟨part :: items, lead ++ part ++ row, .cons written writtens, .item isLead follows,
        by simp⟩

theorem readItems_append (reads : item.Reads Written) {items : List (List Char)} {row : List Char}
    (isRow : Row ']' first items row) (rest : List Char) {values : List α}
    (written : List.Forall₂ Written values items) :
    readItems item first (row ++ rest) = .ok (values, rest) := by
  induction isRow generalizing values with
  | close blank =>
      cases written
      rw [List.append_assoc]
      exact readItems_close (skipBlanks_append_cons blank (by decide))
  | @item first lead part items row isLead follows ih =>
      cases written with
      | cons written writtens =>
          obtain ⟨c, inner, shown, opens, -, readsPart⟩ :=
            reads.readPart_append isLead written (follows.breaksOff (.inl rfl) rest)
          rw [List.append_assoc]
          exact readItems_part shown opens readsPart (ih writtens)

/-- A list is read if its items are. -/
theorem list_reads (reads : item.Reads Written) : (list item).Reads (IsListOf Written) where
  taken := by
    intro text rest values read
    change readList item text = .ok (values, rest) at read
    rw [readList] at read
    split at read
    · cases read
    · next c inner shown =>
      obtain ⟨before, blank, rfl, -⟩ := exists_of_skipBlanks_eq_cons shown
      split at read
      · next opening =>
        obtain ⟨items, row, written, isRow, rfl⟩ := readItems_eq_ok reads read
        exact ⟨before, '[' :: row, blank, ⟨items, written, row, isRow, rfl⟩, by simp [opening]⟩
      · cases read
  takes := by
    rintro before part rest values blank ⟨items, written, row, isRow, rfl⟩ -
    show readList item _ = _
    rw [readList, List.append_assoc, List.cons_append, skipBlanks_append_cons blank (by decide)]
    exact readItems_append reads isRow rest written
  begins := by
    rintro values part ⟨items, -, enclosed⟩
    exact enclosed.begins (by decide) (by decide) (by decide)

/-- A list of values is a value. -/
theorem IsListOf.isValue (all : ∀ {value part}, Written value part → IsValue part)
    {values : List α} {text : List Char} (written : IsListOf Written values text) :
    IsValue text := by
  obtain ⟨items, writtens, enclosed⟩ := written
  refine .list (fun item listed => ?_) enclosed
  obtain ⟨value, -, written⟩ := exists_of_forall₂_of_mem writtens item listed
  exact all written

end Lists

end FlowGate.Json
