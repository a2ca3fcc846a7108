/-
# Reading records

A record is read from a list of its fields or from the members of an object, one by one. A member is
read as what it may enter, so an object is read as what comes of visiting all of its members, by
induction on the text in the one direction and on how the object is written in the other. For whole
texts it follows what every reader reads that belongs to a shape.
-/

import FlowGate.Json.Record
import FlowGate.Proofs.Json.Members
import FlowGate.Proofs.Json.Readers
import FlowGate.Proofs.Json.Skipping

namespace FlowGate.Json

namespace Layout

/-- A key is the text that is spelled between its quotes. -/
theorem readKey_eq_ok {text rest : List Char} {key : String}
    (read : readKey text = .ok (key, rest)) : ∃ before body, Blank before ∧
      Spells body key.toList ∧ text = before ++ '"' :: body ++ '"' :: rest := by
  rw [readKey] at read
  split at read
  · cases read
  · next c inner shown =>
    obtain ⟨before, blank, rfl, -⟩ := exists_of_skipBlanks_eq_cons shown
    split at read
    · next quote =>
      cases string : readString inner with
      | error error =>
          rw [string] at read
          cases read
      | ok found =>
          obtain ⟨characters, last⟩ := found
          rw [string] at read
          cases read
          obtain ⟨body, rfl, spells⟩ := readString_eq_ok string
          have same : (String.ofList characters).toList = characters := String.toList_ofList
          exact ⟨before, body, blank, same.symm ▸ spells, by simp [quote]⟩
    · cases read

theorem readKey_append {before body : List Char} {key : String} (blank : Blank before)
    (spells : Spells body key.toList) (rest : List Char) :
    readKey (before ++ '"' :: body ++ '"' :: rest) = .ok (key, rest) := by
  have shown :
      skipBlanks (before ++ '"' :: body ++ '"' :: rest) = '"' :: (body ++ '"' :: rest) := by
    rw [List.append_assoc, List.cons_append]
    exact skipBlanks_append_cons blank (by decide)
  rw [readKey, shown]
  show Except.map _ (readString (body ++ '"' :: rest)) = _
  rw [readString_append spells]
  show Except.ok (String.ofList key.toList, rest) = _
  rw [String.ofList_toList]

/-! ## Members -/

section Members

variable {Value Record : Type} {layout : Layout Value Record}
  {Written : Value → List Char → Prop}

/-- A member is read as what it may do to the fields. -/
theorem member_reads (reads : layout.field.Reads Written) (fields : List (Option Value)) :
    (layout.member fields).Reads fun next part =>
      ∃ member, IsEntry member part ∧ layout.Enters Written fields member next where
  taken := by
    intro text rest next taken
    change layout.readMember fields text = .ok (next, rest) at taken
    rw [readMember] at taken
    obtain ⟨⟨key, behindKey⟩, readsKey, enter⟩ := exists_of_bind_eq_ok taken
    clear taken
    obtain ⟨before, body, blank, spells, rfl⟩ := readKey_eq_ok readsKey
    simp only at enter
    split at enter
    · next unknown =>
      obtain ⟨behindColon, colon, enter⟩ := exists_of_bind_eq_ok enter
      obtain ⟨behindValue, value, enter⟩ := exists_of_bind_eq_ok enter
      cases enter
      obtain ⟨between, blank', rfl⟩ := expectColon_eq_ok colon
      obtain ⟨between', part, blank'', isValue, rfl⟩ := skipValue_eq_ok value
      have other : key ∉ layout.keys := List.idxOf?_eq_none_iff.mp unknown
      exact ⟨before, _, blank, ⟨(key, part),
        ⟨body, spells, between, between', blank', blank'', rfl⟩, .unknown other isValue⟩, by simp⟩
    · next place known =>
      split at enter
      · cases enter
      · next vacant =>
        obtain ⟨behindColon, colon, enter⟩ := exists_of_bind_eq_ok enter
        obtain ⟨⟨value, behindValue⟩, readsValue, enter⟩ := exists_of_bind_eq_ok enter
        cases enter
        obtain ⟨between, blank', rfl⟩ := expectColon_eq_ok colon
        obtain ⟨between', part, blank'', written, rfl⟩ := reads.taken readsValue
        exact ⟨before, _, blank, ⟨(key, part),
          ⟨body, spells, between, between', blank', blank'', rfl⟩,
          .known known (Option.not_isSome_iff_eq_none.mp vacant) written⟩, by simp⟩
  takes := by
    rintro before _ rest next blank ⟨⟨key, part⟩, ⟨body, spells, between, between', blank', blank'',
      rfl⟩, enters⟩ ends
    have split : before ++ ('"' :: body ++ '"' :: between ++ ':' :: between' ++ part) ++ rest =
        before ++ '"' :: body ++ '"' :: (between ++ ':' :: (between' ++ part ++ rest)) := by simp
    show layout.readMember fields (before ++ ('"' :: body ++ '"' :: between ++ ':' :: between' ++
      part) ++ rest) = _
    rw [split, readMember, readKey_append blank spells]
    have colon := expectColon_append blank' (between' ++ part ++ rest)
    cases enters with
    | unknown other isValue =>
        have unknown : layout.keys.idxOf? key = none := List.idxOf?_eq_none_iff.mpr other
        have skips := skipValue_append blank'' isValue ends
        simp only [bind, Except.bind, unknown, colon, skips]
        rfl
    | known known vacant written =>
        have readsValue := reads.takes blank'' written ends
        simp only [bind, Except.bind, known, vacant, colon, readsValue]
        rfl
  begins := by
    rintro next part ⟨member, ⟨body, -, isMember⟩, -⟩
    exact isMember.begins

/-! ## Objects -/

theorem map_eq_ok_iff {record : Record} {rest after : List Char} {made : Except ReadError Record} :
    made.map (·, rest) = .ok (record, after) ↔ made = .ok record ∧ rest = after := by
  cases made with
  | error error =>
      constructor
      · rintro ⟨⟩
      · rintro ⟨⟨⟩, -⟩
  | ok made =>
      show Except.ok (made, rest) = .ok (record, after) ↔ _
      rw [Except.ok.injEq, Except.ok.injEq, Prod.mk.injEq]

theorem ofFields_eq_ok_iff {fields : List (Option Value)} {record : Record} :
    layout.ofFields fields = .ok record ↔ layout.complete fields = some record := by
  rw [ofFields]
  split
  · next made => rw [made, Except.ok.injEq, Option.some.injEq]
  · next made =>
    rw [made]
    constructor <;> rintro ⟨⟩

theorem readMembers_close {first : Bool} {fields : List (Option Value)} {text rest : List Char}
    (shown : skipBlanks text = '}' :: rest) :
    layout.readMembers first fields text = (layout.ofFields fields).map (·, rest) := by
  rw [readMembers]
  split
  · next gone => cases shown.symm.trans gone
  · next here =>
    cases shown.symm.trans here
    exact if_pos rfl

theorem readMembers_part {first : Bool} {fields next : List (Option Value)}
    {text inner after : List Char} {c : Char} (shown : skipBlanks text = c :: inner)
    (opens : c ≠ '}') (part : readPart (layout.member fields) first c inner = .ok (next, after)) :
    layout.readMembers first fields text = layout.readMembers false next after := by
  conv_lhs => rw [readMembers]
  split
  · next gone => cases shown.symm.trans gone
  · next here =>
    cases shown.symm.trans here
    rw [if_neg opens]
    split
    · next failed => cases part.symm.trans failed
    · next read =>
      cases part.symm.trans read
      rfl

theorem readMembers_eq_ok (reads : layout.field.Reads Written) {first : Bool}
    {fields : List (Option Value)} {text rest : List Char} {record : Record}
    (read : layout.readMembers first fields text = .ok (record, rest)) :
    ∃ members parts row final, List.Forall₂ IsEntry members parts ∧ Row '}' first parts row ∧
      layout.Visits Written fields members final ∧ layout.complete final = some record ∧
      text = row ++ rest := by
  fun_induction readMembers layout first fields text with
  | case1 | case3 => cases read
  | case2 first fields text last shown =>
      obtain ⟨made, rfl⟩ := map_eq_ok_iff.mp read
      obtain ⟨lead, blank, rfl, -⟩ := exists_of_skipBlanks_eq_cons shown
      exact ⟨[], [], lead ++ ['}'], fields, .nil, .close blank, .nil, ofFields_eq_ok_iff.mp made,
        by simp⟩
  | case4 first fields text c inner shown opens next after readsPart ih =>
      obtain ⟨lead, part, isLead, ⟨member, entry, enters⟩, rfl⟩ :=
        (member_reads reads fields).readPart_eq_ok shown readsPart
      obtain ⟨members, parts, row, final, entries, follows, visits, made, rfl⟩ := ih read
      exact ⟨member :: members, part :: parts, lead ++ part ++ row, final, .cons entry entries,
        .item isLead follows, .cons enters visits, made, by simp⟩

theorem readMembers_append (reads : layout.field.Reads Written) {first : Bool}
    {parts : List (List Char)} {row : List Char} (isRow : Row '}' first parts row)
    (rest : List Char) {record : Record} {fields final : List (Option Value)}
    {members : List (String × List Char)} (entries : List.Forall₂ IsEntry members parts)
    (visits : layout.Visits Written fields members final)
    (made : layout.complete final = some record) :
    layout.readMembers first fields (row ++ rest) = .ok (record, rest) := by
  induction isRow generalizing members fields with
  | close blank =>
      cases entries
      cases visits
      rw [List.append_assoc, List.singleton_append,
        readMembers_close (skipBlanks_append_cons blank (by decide))]
      exact map_eq_ok_iff.mpr ⟨ofFields_eq_ok_iff.mpr made, rfl⟩
  | @item first lead part parts row isLead follows ih =>
      cases entries with
      | @cons member _ members _ entry entries =>
          cases visits with
          | cons enters visits =>
              obtain ⟨c, inner, shown, -, opens, readsPart⟩ :=
                (member_reads reads fields).readPart_append isLead ⟨member, entry, enters⟩
                  (follows.breaksOff (.inr rfl) rest)
              rw [List.append_assoc, readMembers_part shown opens readsPart]
              exact ih entries visits

/-! ## Lists -/

theorem ofElements_eq_ok_iff {elements : List Value} {record : Record} :
    layout.ofElements elements = .ok record ↔
      layout.complete (layout.filled elements) = some record := by
  rw [ofElements]
  split
  · next made => rw [made, Except.ok.injEq, Option.some.injEq]
  · next made =>
    rw [made]
    constructor <;> rintro ⟨⟩

theorem readElements_close {elements : List Value} {text rest : List Char}
    (shown : skipBlanks text = ']' :: rest) (wanted : Nat) :
    layout.readElements elements text wanted = (layout.ofElements elements).map (·, rest) := by
  cases wanted with
  | zero =>
      rw [readElements, shown]
      exact if_pos rfl
  | succ wanted =>
      rw [readElements, shown]
      exact if_pos rfl

theorem readElements_part {elements : List Value} {element : Value} {text inner after : List Char}
    {c : Char} (shown : skipBlanks text = c :: inner) (opens : c ≠ ']')
    (part : readPart layout.field elements.isEmpty c inner = .ok (element, after)) (wanted : Nat) :
    layout.readElements elements text (wanted + 1) =
      layout.readElements (elements ++ [element]) after wanted := by
  conv_lhs => rw [readElements, shown]
  simp only [if_neg opens, part]
  rfl

theorem readElements_eq_ok (reads : layout.field.Reads Written) {elements : List Value}
    {text rest : List Char} {record : Record} {wanted : Nat}
    (read : layout.readElements elements text wanted = .ok (record, rest)) :
    ∃ more items row, List.Forall₂ Written more items ∧ Row ']' elements.isEmpty items row ∧
      more.length ≤ wanted ∧ layout.ofElements (elements ++ more) = .ok record ∧
      text = row ++ rest := by
  fun_induction readElements layout elements text wanted with
  | case1 | case3 | case4 => cases read
  | case2 elements text inner shown | case5 elements text wanted inner shown =>
      obtain ⟨made, rfl⟩ := map_eq_ok_iff.mp read
      obtain ⟨lead, blank, rfl, -⟩ := exists_of_skipBlanks_eq_cons shown
      refine ⟨[], [], lead ++ [']'], .nil, .close blank, Nat.zero_le _, ?_, by simp⟩
      rwa [List.append_nil]
  | case6 elements text wanted c inner shown opens ih =>
      obtain ⟨⟨element, after⟩, readsPart, others⟩ := exists_of_bind_eq_ok read
      obtain ⟨lead, part, isLead, written, rfl⟩ := reads.readPart_eq_ok shown readsPart
      obtain ⟨more, items, row, writtens, follows, bound, made, rfl⟩ := ih element after others
      have behind : (elements ++ [element]).isEmpty = false := by simp
      rw [behind] at follows
      rw [List.append_assoc, List.singleton_append] at made
      exact ⟨element :: more, part :: items, lead ++ part ++ row, .cons written writtens,
        .item isLead follows, Nat.succ_le_succ bound, made, by simp⟩

theorem readElements_append (reads : layout.field.Reads Written) {first : Bool}
    {items : List (List Char)} {row : List Char} (isRow : Row ']' first items row)
    (rest : List Char) {elements more : List Value} (isFirst : first = elements.isEmpty)
    (written : List.Forall₂ Written more items) {wanted : Nat} (bound : more.length ≤ wanted)
    {record : Record} (made : layout.ofElements (elements ++ more) = .ok record) :
    layout.readElements elements (row ++ rest) wanted = .ok (record, rest) := by
  induction isRow generalizing elements more wanted with
  | close blank =>
      cases written
      rw [List.append_nil] at made
      rw [List.append_assoc, List.singleton_append,
        readElements_close (skipBlanks_append_cons blank (by decide))]
      exact map_eq_ok_iff.mpr ⟨made, rfl⟩
  | @item first lead part items row isLead follows ih =>
      cases written with
      | @cons element _ more _ written writtens =>
          obtain ⟨wanted, rfl⟩ := Nat.exists_eq_succ_of_ne_zero
            (Nat.ne_of_gt (Nat.lt_of_lt_of_le (Nat.succ_pos _) bound))
          obtain ⟨c, inner, shown, opens, -, readsPart⟩ :=
            reads.readPart_append isLead written (follows.breaksOff (.inl rfl) rest)
          rw [List.append_assoc, readElements_part shown opens (isFirst ▸ readsPart)]
          refine ih (by simp) writtens (Nat.le_of_succ_le_succ bound) ?_
          rwa [List.append_assoc, List.singleton_append]

/-! ## Either -/

/-- A record is read if its fields are, step by step. -/
theorem reader_reads (reads : layout.field.Reads Written) :
    layout.reader.Reads (layout.Takes Written) where
  taken := by
    intro text rest record taken
    change layout.read text = .ok (record, rest) at taken
    rw [Layout.read] at taken
    split at taken
    · cases taken
    · next c inner shown =>
      obtain ⟨before, blank, rfl, -⟩ := exists_of_skipBlanks_eq_cons shown
      split at taken
      · next opening =>
        obtain ⟨elements, items, row, written, isRow, bound, made, rfl⟩ :=
          readElements_eq_ok reads taken
        exact ⟨before, '[' :: row, blank,
          .inl ⟨elements, bound, ⟨items, written, row, isRow, rfl⟩, ofElements_eq_ok_iff.mp made⟩,
          by simp [opening]⟩
      · split at taken
        · next opening =>
          obtain ⟨members, parts, row, final, entries, isRow, visits, made, rfl⟩ :=
            readMembers_eq_ok reads taken
          exact ⟨before, '{' :: row, blank,
            .inr ⟨members, final, ⟨parts, entries, row, isRow, rfl⟩, visits, made⟩,
            by simp [opening]⟩
        · cases taken
  takes := by
    rintro before part rest record blank written -
    show layout.read _ = _
    rw [Layout.read, List.append_assoc]
    rcases written with ⟨elements, bound, ⟨items, written, row, isRow, rfl⟩, made⟩ |
      ⟨members, final, ⟨parts, entries, row, isRow, rfl⟩, visits, made⟩
    · rw [List.cons_append, skipBlanks_append_cons blank (by decide)]
      exact readElements_append reads isRow rest rfl written bound (ofElements_eq_ok_iff.mpr made)
    · rw [List.cons_append, skipBlanks_append_cons blank (by decide)]
      exact readMembers_append reads isRow rest entries visits made
  begins := by
    rintro record text (⟨_, -, ⟨_, -, enclosed⟩, -⟩ | ⟨_, _, ⟨_, -, enclosed⟩, -⟩)
    · exact enclosed.begins (by decide) (by decide) (by decide)
    · exact enclosed.begins (by decide) (by decide) (by decide)

end Members

end Layout

end FlowGate.Json
