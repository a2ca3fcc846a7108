/-
# The members of a record

An object is taken for a record member by member: each enters its value under its key, if the key is
known and has none yet (`Enters`), and whoever does that for all members in order has visited them
(`Visits`). What an object says is put without such an order: which keys have a value, and that none
has two (`Found`). The two say the same, by induction on the members: one more member keeps what has
been entered what the members give, and where the members give something in the end each of them can
be entered.
-/

import FlowGate.Json.Shape
import FlowGate.Proofs.Json.Grammar

namespace FlowGate.Json

/-! ## Values under keys -/

theorem valuesOf_append (key : String) (members more : List (String × List Char)) :
    valuesOf key (members ++ more) = valuesOf key members ++ valuesOf key more := by
  rw [valuesOf, List.filter_append, List.map_append]
  rfl

theorem valuesOf_cons_self (key : String) (part : List Char) (members : List (String × List Char)) :
    valuesOf key ((key, part) :: members) = part :: valuesOf key members := by
  simp [valuesOf]

theorem valuesOf_singleton_ne {key key' : String} (other : key' ≠ key) (part : List Char) :
    valuesOf key [(key', part)] = [] := by
  simp [valuesOf, other]

theorem mem_valuesOf {member : String × List Char} {members : List (String × List Char)}
    (listed : member ∈ members) : member.2 ∈ valuesOf member.1 members :=
  List.mem_map.mpr ⟨member, List.mem_filter.mpr ⟨listed, beq_self_eq_true member.1⟩, rfl⟩

/-- No text is written for two values. -/
def Functional {Value : Type} (Written : Value → List Char → Prop) : Prop :=
  ∀ value value' part, Written value part → Written value' part → value = value'

section Gives

variable {Value : Type} {Written : Value → List Char → Prop} {members : List (String × List Char)}

theorem Gives.congr {members' : List (String × List Char)} {key : String} {given : Option Value}
    (gives : Gives Written members key given)
    (same : valuesOf key members' = valuesOf key members) : Gives Written members' key given := by
  cases given with
  | none => exact same.trans gives
  | some value =>
      obtain ⟨part, single, written⟩ := gives
      exact ⟨part, same.trans single, written⟩

/-- What is found under a key is what was written for it. -/
theorem Gives.isValue (all : ∀ {value part}, Written value part → IsValue part)
    {member : String × List Char} {given : Option Value}
    (gives : Gives Written members member.1 given) (listed : member ∈ members) :
    IsValue member.2 := by
  have present := mem_valuesOf listed
  cases given with
  | none =>
      rw [show valuesOf member.1 members = [] from gives] at present
      cases present
  | some value =>
      obtain ⟨part, single, written⟩ := gives
      rw [single, List.mem_singleton] at present
      exact present ▸ all written

theorem Gives.eq_none {key : String} {given : Option Value}
    (gives : Gives Written members key given) (nothing : valuesOf key members = []) :
    given = none := by
  cases given with
  | none => rfl
  | some value =>
      obtain ⟨part, single, -⟩ := gives
      rw [nothing] at single
      cases single

/-- Where something is given under a key, its only member is written for it. -/
theorem Gives.exists_written {key : String} {part : List Char} {more : List (String × List Char)}
    {given : Option Value} (gives : Gives Written (members ++ (key, part) :: more) key given) :
    ∃ value, Written value part ∧ valuesOf key members = [] := by
  have values : valuesOf key (members ++ (key, part) :: more) =
      valuesOf key members ++ part :: valuesOf key more := by
    rw [valuesOf_append, valuesOf_cons_self]
  cases given with
  | none =>
      rw [Gives, values] at gives
      exact absurd gives (List.append_ne_nil_of_right_ne_nil _ (List.cons_ne_nil _ _))
  | some value =>
      obtain ⟨part', single, written⟩ := gives
      rw [values] at single
      rcases List.append_eq_singleton_iff.mp single with ⟨nothing, same⟩ | ⟨-, impossible⟩
      · obtain ⟨rfl, -⟩ := List.cons.inj same
        exact ⟨value, written, nothing⟩
      · cases impossible

/-- Members give one value under a key at most. -/
theorem Gives.unique (functional : Functional Written) {key : String}
    {given given' : Option Value} (gives : Gives Written members key given)
    (gives' : Gives Written members key given') : given = given' := by
  cases given with
  | none => exact (gives'.eq_none gives).symm
  | some value =>
      obtain ⟨part, single, written⟩ := gives
      cases given' with
      | none => cases gives'.symm.trans single
      | some value' =>
          obtain ⟨part', single', written'⟩ := gives'
          cases single.symm.trans single'
          exact congrArg some (functional _ _ _ written written')

end Gives

namespace Declaration

variable {Value Record : Type} {declaration : Declaration Value Record}
  {Written : Value → List Char → Prop}

/-! ## Member by member -/

/-- What one member makes of the fields found so far: its value becomes that of its key if the key
has none, and an unknown key may have any value. -/
inductive Enters (declaration : Declaration Value Record) (Written : Value → List Char → Prop) :
    List (Option Value) → String × List Char → List (Option Value) → Prop
  | unknown {fields key part} (other : key ∉ declaration.keys) (isValue : IsValue part) :
      Enters declaration Written fields (key, part) fields
  | known {fields key part value place} (at_ : declaration.keys.idxOf? key = some place)
      (vacant : fields[place]?.join = none) (written : Written value part) :
      Enters declaration Written fields (key, part) (fields.set place (some value))

/-- What the members of an object give under the keys of a record. -/
def Found (declaration : Declaration Value Record) (Written : Value → List Char → Prop)
    (members : List (String × List Char)) (fields : List (Option Value)) : Prop :=
  fields.length = declaration.keys.length ∧
    ∀ (place : Nat) key, declaration.keys[place]? = some key →
      Gives Written members key fields[place]?.join

theorem found_iff_forall₂ {members : List (String × List Char)} {fields : List (Option Value)} :
    declaration.Found Written members fields ↔
      List.Forall₂ (Gives Written members) declaration.keys fields := by
  constructor
  · rintro ⟨length, gives⟩
    refine List.forall₂_of_length_eq_of_get length.symm fun place inside inside' => ?_
    have given := gives place _ (List.getElem?_eq_getElem inside)
    rwa [List.getElem?_eq_getElem inside'] at given
  · intro all
    refine ⟨all.length_eq.symm, fun place key at_ => ?_⟩
    obtain ⟨inside, rfl⟩ := List.getElem?_eq_some_iff.mp at_
    have inside' := all.length_eq ▸ inside
    rw [List.getElem?_eq_getElem inside']
    exact all.get inside inside'

theorem vacant_found : declaration.Found Written [] declaration.vacant := by
  refine ⟨List.length_replicate, fun place key at_ => ?_⟩
  have inside := (List.getElem?_eq_some_iff.mp at_).1
  rw [vacant, List.getElem?_replicate_of_lt inside]
  exact rfl

theorem getElem?_of_idxOf?_eq_some {key : String} {place : Nat}
    (known : declaration.keys.idxOf? key = some place) : declaration.keys[place]? = some key := by
  obtain ⟨inside, here, -⟩ := List.idxOf?_eq_some_iff.mp known
  rw [List.getElem?_eq_getElem inside, here]

/-- A member keeps what is found what the members give. -/
theorem Found.enters {fields next : List (Option Value)} {key : String} {part : List Char}
    {members : List (String × List Char)} (found : declaration.Found Written members fields)
    (enters : declaration.Enters Written fields (key, part) next) :
    declaration.Found Written (members ++ [(key, part)]) next := by
  obtain ⟨length, gives⟩ := found
  have elsewhere : ∀ {key'}, key ≠ key' →
      valuesOf key' (members ++ [(key, part)]) = valuesOf key' members := by
    intro key' other
    rw [valuesOf_append, valuesOf_singleton_ne other, List.append_nil]
  cases enters with
  | unknown other isValue =>
      refine ⟨length, fun place key' at_ => ?_⟩
      have ne : key ≠ key' := fun same => other (same ▸ List.mem_of_getElem? at_)
      exact (gives place key' at_).congr (elsewhere ne)
  | @known _ _ value place known vacant written =>
      have here := getElem?_of_idxOf?_eq_some known
      refine ⟨by rw [List.length_set, length], fun place' key' at_ => ?_⟩
      rcases eq_or_ne place place' with rfl | ne
      · have inside := (List.getElem?_eq_some_iff.mp at_).1
        rw [← length] at inside
        cases here.symm.trans at_
        have none := gives place key at_
        rw [vacant] at none
        rw [List.getElem?_set_self inside]
        refine ⟨part, ?_, written⟩
        rw [valuesOf_append, none, List.nil_append, valuesOf_cons_self]
        rfl
      · have ne' : key ≠ key' := by
          rintro rfl
          have inside := (List.getElem?_eq_some_iff.mp here).1
          exact ne ((List.getElem?_inj inside declaration.distinct).mp (here.trans at_.symm))
        rw [List.getElem?_set_ne ne]
        exact (gives place' key' at_).congr (elsewhere ne')

/-- The value of an unknown key is a value. -/
theorem Enters.isValue {fields next : List (Option Value)} {member : String × List Char}
    (enters : declaration.Enters Written fields member next) (other : member.1 ∉ declaration.keys) :
    IsValue member.2 := by
  cases enters with
  | unknown _ isValue => exact isValue
  | known known =>
      exact absurd (List.mem_of_getElem? (getElem?_of_idxOf?_eq_some known)) other

/-- Members give the fields of one record only. -/
theorem Found.unique {fields fields' : List (Option Value)} {members : List (String × List Char)}
    (functional : Functional Written) (found : declaration.Found Written members fields)
    (found' : declaration.Found Written members fields') : fields = fields' := by
  obtain ⟨length, gives⟩ := found
  obtain ⟨length', gives'⟩ := found'
  refine List.ext_getElem (length.trans length'.symm) fun place inside inside' => ?_
  have at_ := List.getElem?_eq_getElem (length ▸ inside)
  have given := gives place _ at_
  have given' := gives' place _ at_
  rw [List.getElem?_eq_getElem inside] at given
  rw [List.getElem?_eq_getElem inside'] at given'
  exact Gives.unique functional given given'

/-- Where members give what is found in the end, each of them can be entered. -/
theorem Found.exists_enters {fields final : List (Option Value)} {key : String} {part : List Char}
    {members more : List (String × List Char)} (found : declaration.Found Written members fields)
    (finds : declaration.Found Written (members ++ (key, part) :: more) final)
    (others : key ∉ declaration.keys → IsValue part) :
    ∃ next, declaration.Enters Written fields (key, part) next := by
  cases known : declaration.keys.idxOf? key with
  | none =>
      have other : key ∉ declaration.keys := List.idxOf?_eq_none_iff.mp known
      exact ⟨fields, .unknown other (others other)⟩
  | some place =>
      have here := getElem?_of_idxOf?_eq_some known
      obtain ⟨value, written, nothing⟩ := (finds.2 place key here).exists_written
      have vacant := (found.2 place key here).eq_none nothing
      exact ⟨fields.set place (some value), .known known vacant written⟩

/-- What the members of an object, visited in order, make of the fields found before them. -/
inductive Visits (declaration : Declaration Value Record) (Written : Value → List Char → Prop) :
    List (Option Value) → List (String × List Char) → List (Option Value) → Prop
  | nil {fields} : Visits declaration Written fields [] fields
  | cons {fields next final member members} (enters : declaration.Enters Written fields member next)
      (rest : Visits declaration Written next members final) :
      Visits declaration Written fields (member :: members) final

/-- Members can be visited if those of unknown keys have any value and the others give fields, and
then these are the fields that are found. -/
theorem visits_iff (functional : Functional Written) {before members : List (String × List Char)}
    {fields final : List (Option Value)} (found : declaration.Found Written before fields) :
    declaration.Visits Written fields members final ↔
      (∀ member ∈ members, member.1 ∉ declaration.keys → IsValue member.2) ∧
        declaration.Found Written (before ++ members) final := by
  induction members generalizing before fields with
  | nil =>
      rw [List.append_nil]
      constructor
      · rintro ⟨⟩
        exact ⟨List.forall_mem_nil _, found⟩
      · rintro ⟨-, finds⟩
        rw [found.unique functional finds]
        exact .nil
  | cons member members ih =>
      have shift : before ++ member :: members = before ++ [member] ++ members := by simp
      rw [List.forall_mem_cons, shift]
      constructor
      · rintro (⟨⟩ | ⟨enters, rest⟩)
        obtain ⟨others, finds⟩ := (ih (found.enters enters)).mp rest
        exact ⟨⟨enters.isValue, others⟩, finds⟩
      · rintro ⟨⟨value, others⟩, finds⟩
        -- The members still to come leave room for this one, so it can be entered.
        obtain ⟨next, enters⟩ := found.exists_enters (shift ▸ finds) value
        exact .cons enters ((ih (found.enters enters)).mpr ⟨others, finds⟩)

/-! ## Records -/

/-- A record as it is taken from a text, step by step: from the elements of a list, no more than
there are keys, or from the members of an object. -/
def Takes (declaration : Declaration Value Record) (Written : Value → List Char → Prop)
    (record : Record) (text : List Char) : Prop :=
  (∃ elements, elements.length ≤ declaration.keys.length ∧ IsListOf Written elements text ∧
    declaration.complete (declaration.filled elements) = some record) ∨
  ∃ members fields, IsObject members text ∧
    declaration.Visits Written declaration.vacant members fields ∧
    declaration.complete fields = some record

/-- A record as it is written: as a list of fields, no more than there are keys, or as an object
that gives its fields. -/
def IsRecord (declaration : Declaration Value Record) (Written : Value → List Char → Prop)
    (record : Record) (text : List Char) : Prop :=
  (∃ elements, elements.length ≤ declaration.keys.length ∧ IsListOf Written elements text ∧
    declaration.complete (declaration.filled elements) = some record) ∨
  ∃ members fields, IsObject members text ∧
    (∀ member ∈ members, member.1 ∉ declaration.keys → IsValue member.2) ∧
    declaration.Found Written members fields ∧ declaration.complete fields = some record

/-- A record is taken from what is written as that record, and from nothing else. -/
theorem takes_iff_isRecord (functional : Functional Written) {record : Record}
    {text : List Char} :
    declaration.Takes Written record text ↔ declaration.IsRecord Written record text := by
  have visits : ∀ members fields, declaration.Visits Written declaration.vacant members fields ↔
      (∀ member ∈ members, member.1 ∉ declaration.keys → IsValue member.2) ∧
        declaration.Found Written members fields :=
    fun members fields => visits_iff functional vacant_found
  simp only [Takes, IsRecord, visits, and_assoc]

end Declaration

end FlowGate.Json
