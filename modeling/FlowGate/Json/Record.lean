/-
# Records in documents

A record has named fields, all of one kind. It can be written as an object, with its fields in any
order and unknown keys skipped, or as a list of its fields in their order. An object may not give a
known key twice. What is missing at the closing bracket is up to the record: it may do without, or
else the first missing key is reported for an object, and the number of elements for a list.
-/

import FlowGate.Json.Field
import FlowGate.Json.Shape

namespace FlowGate.Json

/-- How a record is laid out: its declaration, and the reader for the value of a field. -/
structure Layout (Value Record : Type) extends Declaration Value Record where
  field : Reader Value

namespace Layout

variable {Value Record : Type}

/-- The record as what is expected in a place. -/
def expectation (layout : Layout Value Record) : String := "struct " ++ layout.title

/-- The record with its number of elements, as what is expected of a list. -/
def listExpectation (layout : Layout Value Record) : String :=
  layout.expectation ++ " with " ++ toString layout.keys.length ++
    (if layout.keys.length = 1 then " element" else " elements")

/-! ## Lists -/

/-- Make a record of the elements of a list that has come to its end. -/
def ofElements (layout : Layout Value Record) (elements : List Value) : Except ReadError Record :=
  match layout.complete (layout.filled elements) with
  | some record => .ok record
  | none => .error (.mismatch (.length elements.length layout.listExpectation))

/-- Read the elements of a list, of which so many are still wanted. What the list holds beyond
them is not well formed. -/
def readElements (layout : Layout Value Record) (elements : List Value) (text : List Char) :
    Nat → Except ReadError (Record × List Char)
  | 0 =>
    match skipBlanks text with
    | [] => .error .endOfText
    | c :: rest =>
      if c = ']' then (layout.ofElements elements).map (·, rest) else .error .malformed
  | wanted + 1 =>
    match skipBlanks text with
    | [] => .error .endOfText
    | c :: rest =>
      if c = ']' then (layout.ofElements elements).map (·, rest)
      else do
        let (element, rest) ← readPart layout.field elements.isEmpty c rest
        layout.readElements (elements ++ [element]) rest wanted

/-! ## Objects -/

/-- Make a record of the fields of an object that has come to its end. -/
def ofFields (layout : Layout Value Record) (fields : List (Option Value)) :
    Except ReadError Record :=
  match layout.complete fields with
  | some record => .ok record
  | none =>
    let missing := (layout.keys.zip fields).find? fun entry => entry.2.isNone
    .error (.mismatch (.missingKey ((missing.map Prod.fst).getD "")))

/-- Read a key, from its opening quote. -/
def readKey (text : List Char) : Except ReadError (String × List Char) :=
  match skipBlanks text with
  | [] => .error .endOfText
  | c :: rest =>
    if c = '"' then (readString rest).map fun string => (String.ofList string.1, string.2)
    else .error .malformed

/-- Read a member of an object and enter its value, if its key is known. A key that has a value
already is refused before its second value is looked at. -/
def readMember (layout : Layout Value Record) (fields : List (Option Value)) (text : List Char) :
    Except ReadError (List (Option Value) × List Char) := do
  let (key, rest) ← readKey text
  match layout.keys.idxOf? key with
  | none =>
    let rest ← expectColon rest
    let rest ← skipValue rest
    pure (fields, rest)
  | some place =>
    if (fields[place]?.join).isSome then .error (.mismatch (.duplicateKey key))
    else do
      let rest ← expectColon rest
      let (value, rest) ← layout.field.read rest
      pure (fields.set place (some value), rest)

theorem length_lt_of_readKey {key : String} {text rest : List Char}
    (taken : readKey text = .ok (key, rest)) : rest.length < text.length := by
  unfold readKey at taken
  split at taken
  · cases taken
  · next c after shown =>
    have begun := length_lt_of_skipBlanks_eq_cons shown
    split at taken
    · cases string : readString after with
      | error _ => rw [string] at taken; cases taken
      | ok found =>
        have ended := @length_lt_of_readString after found.1 found.2 string
        rw [string] at taken
        cases taken
        omega
    · cases taken

theorem length_lt_of_readMember {layout : Layout Value Record} {fields next : List (Option Value)}
    {text rest : List Char} (taken : layout.readMember fields text = .ok (next, rest)) :
    rest.length < text.length := by
  unfold readMember at taken
  obtain ⟨⟨key, behindKey⟩, readsKey, taken⟩ := exists_of_bind_eq_ok taken
  have inKey := length_lt_of_readKey readsKey
  simp only at taken
  split at taken
  · obtain ⟨behindColon, colon, taken⟩ := exists_of_bind_eq_ok taken
    obtain ⟨behindValue, value, taken⟩ := exists_of_bind_eq_ok taken
    have inColon := length_lt_of_expectColon colon
    have inValue := length_le_of_skipFrom value
    cases taken
    omega
  · split at taken
    · cases taken
    · obtain ⟨behindColon, colon, taken⟩ := exists_of_bind_eq_ok taken
      obtain ⟨⟨found, behindValue⟩, value, taken⟩ := exists_of_bind_eq_ok taken
      have inColon := length_lt_of_expectColon colon
      have inValue := layout.field.shortens value
      cases taken
      simp only
      omega

/-- The members of an object, read one by one. -/
def member (layout : Layout Value Record) (fields : List (Option Value)) :
    Reader (List (Option Value)) :=
  ⟨layout.readMember fields, length_lt_of_readMember⟩

/-- Read the members of an object up to its closing bracket. -/
def readMembers (layout : Layout Value Record) (first : Bool) (fields : List (Option Value))
    (text : List Char) : Except ReadError (Record × List Char) :=
  match _shown : skipBlanks text with
  | [] => .error .endOfText
  | c :: rest =>
    if c = '}' then (layout.ofFields fields).map (·, rest)
    else
      match _part : readPart (layout.member fields) first c rest with
      | .error error => .error error
      | .ok (fields, after) => layout.readMembers false fields after
termination_by text.length
decreasing_by
  have := length_lt_of_skipBlanks_eq_cons _shown
  have := length_le_of_readPart _part
  omega

/-! ## Either -/

/-- Read a record. -/
def read (layout : Layout Value Record) (text : List Char) :
    Except ReadError (Record × List Char) :=
  match skipBlanks text with
  | [] => .error .endOfText
  | c :: rest =>
    if c = '[' then layout.readElements [] rest layout.keys.length
    else if c = '{' then layout.readMembers true layout.vacant rest
    else .error (refusal layout.expectation c rest)

/-! ## The rest is shorter -/

/-- What follows from a result that was only put beside the rest of the text. -/
theorem rest_eq_of_map {record : Record} {rest after : List Char}
    {made : Except ReadError Record} (taken : made.map (·, rest) = .ok (record, after)) :
    after = rest := by
  cases made with
  | error _ => cases taken
  | ok _ => cases taken; rfl

theorem length_lt_of_readElements {layout : Layout Value Record} {elements : List Value}
    {wanted : Nat} {text rest : List Char} {record : Record}
    (taken : layout.readElements elements text wanted = .ok (record, rest)) :
    rest.length < text.length := by
  induction wanted generalizing elements text with
  | zero =>
    rw [readElements] at taken
    split at taken
    · cases taken
    · next shown =>
      split at taken
      · rw [rest_eq_of_map taken]; exact length_lt_of_skipBlanks_eq_cons shown
      · cases taken
  | succ wanted ih =>
    rw [readElements] at taken
    split at taken
    · cases taken
    · next shown =>
      have begun := length_lt_of_skipBlanks_eq_cons shown
      split at taken
      · rw [rest_eq_of_map taken]; exact begun
      · obtain ⟨⟨element, behind⟩, part, taken⟩ := exists_of_bind_eq_ok taken
        have inPart := length_le_of_readPart part
        have inRest := ih taken
        omega

theorem length_lt_of_readMembers {layout : Layout Value Record} {first : Bool}
    {fields : List (Option Value)} {text rest : List Char} {record : Record}
    (taken : layout.readMembers first fields text = .ok (record, rest)) :
    rest.length < text.length := by
  fun_induction readMembers layout first fields text with
  | case1 | case3 => cases taken
  | case2 _ _ _ _ shown =>
    rw [rest_eq_of_map taken]; exact length_lt_of_skipBlanks_eq_cons shown
  | case4 _ _ _ _ _ shown _ _ _ part ih =>
    have begun := length_lt_of_skipBlanks_eq_cons shown
    have inPart := length_le_of_readPart part
    have behind := ih taken
    omega

theorem length_lt_of_read {layout : Layout Value Record} {text rest : List Char}
    {record : Record} (taken : layout.read text = .ok (record, rest)) :
    rest.length < text.length := by
  unfold read at taken
  split at taken
  · cases taken
  · next shown =>
    have begun := length_lt_of_skipBlanks_eq_cons shown
    split at taken
    · exact Nat.lt_trans (length_lt_of_readElements taken) begun
    · split at taken
      · exact Nat.lt_trans (length_lt_of_readMembers taken) begun
      · cases taken

/-- The reader of records laid out like this. -/
def reader (layout : Layout Value Record) : Reader Record := ⟨layout.read, length_lt_of_read⟩

end Layout

/-! ## A library of readers -/

/-- The reader for what has a shape. -/
def Shape.reader : {α : Type} → Shape α → Reader α
  | _, .word => Json.word
  | _, .list item => Json.list item.reader
  | _, .record declaration field => Layout.reader { declaration with field := field.reader }

/-- The library that reads whole documents with these readers. -/
def Library.reading : Library where
  Error := ReadError
  decode shape text := shape.reader.readAll text

end FlowGate.Json
