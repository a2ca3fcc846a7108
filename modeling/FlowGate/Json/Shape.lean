/-
# What is to be decoded

A configuration is declared as a record: the keys of its fields in order, how it is made of their
values, and what the fields are taken to be where a document does not give them. What such a
declaration means for a document is not decided here but by the library that decodes documents. That
library is foreign to this development, so it enters as a value of type `Library`: it is told the
shape of what is wanted, and answers it or an error of its own.
-/

namespace FlowGate.Json

/-- A record with fields of one type, as it is declared: its name, the keys of its fields, the
record with given values in its fields, and the values that fields have which are not given, if they
may be left out. -/
structure Declaration (Value Record : Type) where
  title : String
  keys : List String
  distinct : keys.Nodup
  make : List Value → Option Record
  usual : Option (List Value) := none

namespace Declaration

variable {Value Record : Type}

/-- The record with these fields, some of which may not be given. -/
def complete (declaration : Declaration Value Record) (fields : List (Option Value)) :
    Option Record :=
  match declaration.usual with
  | none => (fields.mapM id).bind declaration.make
  | some usual => declaration.make (List.zipWith Option.getD fields usual)

/-- No field has a value yet. -/
def vacant (declaration : Declaration Value Record) : List (Option Value) :=
  List.replicate declaration.keys.length none

/-- The fields with these values from the first field on, and none in those that follow. -/
def filled (declaration : Declaration Value Record) (values : List Value) : List (Option Value) :=
  values.map some ++ List.replicate (declaration.keys.length - values.length) none

end Declaration

/-- What can be asked for: words, lists, and records with fields of one shape. -/
inductive Shape : Type → Type 1
  | word : Shape UInt64
  | list {α : Type} (item : Shape α) : Shape (List α)
  | record {Value Record : Type} (declaration : Declaration Value Record) (field : Shape Value) :
      Shape Record

/-- A library that decodes texts. -/
structure Library where
  Error : Type
  decode : {α : Type} → Shape α → List Char → Except Error α

end FlowGate.Json
