import LootFilter.Json.Writer

/-!
# Shape Faults

What can be wrong with a fragment that is decoded into a typed value. A fault
is a cause; its wording is in `Fault.message` alone. The first fault in the
order of the text is the one reported.

## Main definitions

* `Found`: What stands where something else was expected.
* `Fault`: Why a fragment has no value of a type.
* `Fault.message`: The wording of a fault.
-/

namespace LootFilter

/-- What a fragment is, as a complaint about it says. -/
inductive Found where
  | null
  | bool (b : Bool)
  | int (n : Int)
  | float (x : Binary64)
  | text (s : String)
  | sequence
  | map
  deriving DecidableEq

/-- Why a fragment has no value of the type that was asked for. -/
inductive Fault where
  /-- The text is not JSON, or not beyond the point where it was decoded to. -/
  | invalidJson
  /-- A value of another kind stands here. -/
  | wrongType (found : Found) (expected : String)
  /-- The integer does not fit the type. -/
  | outOfRange (n : Int) (expected : String)
  /-- A list does not have the number of items that its type has. -/
  | wrongLength (length : Nat) (expected : String)
  /-- A keyword is written as an object that has not exactly one member. -/
  | notSingleKey
  /-- A member that has no default is absent. -/
  | missingField (name : String)
  /-- A member that the type does not have. -/
  | unknownField (name : String) (known : List String)
  /-- A member that stands twice. -/
  | duplicateField (name : String)
  /-- A keyword that the type does not have. -/
  | unknownVariant (name : String) (known : List String)
  /-- Neither form of a key suits the value. -/
  | noKeyForm
  deriving DecidableEq

namespace Found

/-- What was found, in the words of a message. -/
def describe : Found → String
  | .null => "null"
  | .bool b => "boolean `" ++ (if b then "true" else "false") ++ "`"
  | .int n => "integer `" ++ String.ofList (Json.intChars n) ++ "`"
  | .float x => "floating point `" ++ String.ofList (Json.layout.write x) ++ "`"
  | .text s => "string " ++ Text.quoted s
  | .sequence => "sequence"
  | .map => "map"

end Found

namespace Fault

/-- A name between backticks. -/
def ticked (name : String) : String :=
  "`" ++ name ++ "`"

/-- The names that would have been known: one, two, or a list of them. -/
def oneOf : List String → String
  | [] => "nothing"
  | [a] => ticked a
  | [a, b] => ticked a ++ " or " ++ ticked b
  | names => "one of " ++ ", ".intercalate (names.map ticked)

/-- The wording of a fault. -/
def message : Fault → String
  | .invalidJson => "invalid JSON"
  | .wrongType found expected => "invalid type: " ++ found.describe ++ ", expected " ++ expected
  | .outOfRange n expected =>
    "invalid value: " ++ (Found.int n).describe ++ ", expected " ++ expected
  | .wrongLength length expected =>
    "invalid length " ++ toString length ++ ", expected " ++ expected
  | .notSingleKey => "invalid value: map, expected map with a single key"
  | .missingField name => "missing field " ++ ticked name
  | .unknownField name known => "unknown field " ++ ticked name ++ ", expected " ++ oneOf known
  | .duplicateField name => "duplicate field " ++ ticked name
  | .unknownVariant name known =>
    "unknown variant " ++ ticked name ++ ", expected " ++ oneOf known
  | .noKeyForm => "data did not match any variant of untagged enum JoinKey"

end Fault

end LootFilter
