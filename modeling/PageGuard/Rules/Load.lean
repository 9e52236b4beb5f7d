import PageGuard.Json.Reader
import PageGuard.Rules.Compile

/-!
# Loading a database

A text is a database in one of two shapes: an array of records, which is compiled, or an object,
which is a compiled database.
-/

namespace PageGuard

open Json

/-- Why a text is no database. -/
inductive LoadError where
  /-- The text is no JSON, or an object that is no database. -/
  | json
  /-- The text is JSON of another shape. -/
  | shape (found : String)
deriving DecidableEq

/-- The text of an error; what is wrong with a JSON text is not told. -/
def LoadError.message : LoadError → String
  | .json => "Invalid database JSON: "
  | .shape found =>
    "Unsupported database shape: expected an array of rules or a compiled object, got " ++ found

/-- The database of a value in either shape. -/
def loadValue : Value → Except LoadError Compiled
  | .array records => .ok (compile records)
  | .object members =>
    match Database.ofValue? (.object members) with
    | some d => .ok ⟨d, []⟩
    | none => .error .json
  | .null => .error (.shape "null")
  | .bool _ => .error (.shape "a boolean")
  | .number _ => .error (.shape "a number")
  | .string _ => .error (.shape "a string")

/-- The database of a text in either shape. -/
def loadDatabase (text : String) : Except LoadError Compiled :=
  match Value.sortedOfText? text with
  | none => .error .json
  | some v => loadValue v

/-- The records of a feed; absent when the text is no JSON array. -/
def feedRecords? (text : String) : Option (List Value) :=
  match Value.sortedOfText? text with
  | some (.array records) => some records
  | _ => none

end PageGuard
