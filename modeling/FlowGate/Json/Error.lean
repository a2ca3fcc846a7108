/-
# Why a document is refused

A document is read once, from left to right, and the first thing that is wrong with it is reported:
the text ends too soon, or it is not well formed, or it is well formed so far but does not fit what
is being read. Only the last kind has a wording of its own.
-/

import FlowGate.Text.Quoted

namespace FlowGate.Json

/-- What was found in a place where something else was expected. -/
inductive Found
  | null
  | boolean (value : Bool)
  | natural (value : Nat)
  | negative (magnitude : Nat)
  | fractional
  | text (content : List Char)
  | list
  | object
  deriving DecidableEq

/-- What was found, in words. -/
def Found.describe : Found → String
  | .null => "null"
  | .boolean value => "boolean `" ++ (if value then "true" else "false") ++ "`"
  | .natural value => "integer `" ++ toString value ++ "`"
  | .negative magnitude => "integer `-" ++ toString magnitude ++ "`"
  | .fractional => "floating point"
  | .text content => "string " ++ Text.quoted content
  | .list => "sequence"
  | .object => "map"

/-- How a document fails to fit what is being read. -/
inductive Mismatch
  /-- A value of another kind than the one expected. -/
  | kind (found : Found) (expected : String)
  /-- A value of the right kind that is out of range. -/
  | range (found : Found) (expected : String)
  /-- A list of too few elements. -/
  | length (found : Nat) (expected : String)
  | duplicateKey (key : String)
  | missingKey (key : String)
  deriving DecidableEq

/-- The wording under which a mismatch is reported. -/
def Mismatch.message : Mismatch → String
  | .kind found expected => "invalid type: " ++ found.describe ++ ", expected " ++ expected
  | .range found expected => "invalid value: " ++ found.describe ++ ", expected " ++ expected
  | .length found expected => "invalid length " ++ toString found ++ ", expected " ++ expected
  | .duplicateKey key => "duplicate field `" ++ key ++ "`"
  | .missingKey key => "missing field `" ++ key ++ "`"

/-- The first thing that is wrong with a document. -/
inductive ReadError
  | endOfText
  | malformed
  | mismatch (mismatch : Mismatch)
  deriving DecidableEq

end FlowGate.Json
