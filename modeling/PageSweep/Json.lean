import PageSweep.Catalog

/-!
# JSON Values

The values of JSON text. A number is either a whole number, kept exactly, or a
double. The members of an object stand in the order of their names, each name
once.

## Main definitions

* `Json.Number`: An exact whole number or a double.
* `Json`: A JSON value.
* `Json.member`: The member of an object with a name.
* `Json.truthy`: Whether a value says yes.
-/

namespace PageSweep

/-- A number of a JSON text. -/
inductive Json.Number where
  /-- An exact whole number. -/
  | int (value : Int)
  /-- A double. -/
  | float (value : Float)
  deriving DecidableEq

/-- A JSON value. -/
inductive Json where
  | null
  | bool (value : Bool)
  | number (value : Json.Number)
  | string (text : String)
  | array (items : List Json)
  /-- Members, filed under their names. -/
  | object (members : List (String × Json))
  deriving Inhabited

namespace Json

/-- The member `name` of an object; a missing one is null. -/
def member (name : String) (members : Catalog Json) : Json :=
  (members.find? name).getD .null

/-- A number says yes if it differs from zero. -/
def Number.truthy : Number → Bool
  | .int n => n != 0
  | .float x => x != 0

/-- Null, false, zero and the empty string say no; all else says yes. -/
def truthy : Json → Bool
  | .null => false
  | .bool b => b
  | .number n => n.truthy
  | .string s => s != ""
  | .array _ => true
  | .object _ => true

end Json

end PageSweep
