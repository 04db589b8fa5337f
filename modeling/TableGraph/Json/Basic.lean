/-
JSON documents. A number is kept as its literal, so a document is exactly what its text says; `canonical` brings the
literals to one form per number and keeps one value per name.
-/
import TableGraph.Json.Number

namespace TableGraph

/-- a JSON document -/
inductive Json where
  | null
  | bool (value : Bool)
  | number (literal : String)
  | string (text : String)
  | array (items : List Json)
  | object (fields : List (String × Json))
  deriving Repr, BEq, Inhabited

namespace Json

/-- a whole number -/
def whole (n : Int) : Json := .number (String.ofList (Whole.text n))

/-- a floating-point number; infinities and the undefined value have no number in JSON and are null -/
def float (x : Binary64) : Json :=
  if x.isFinite then .number (String.ofList (Binary64.text .json x)) else .null

/-- the value of a field, the first one if there are several -/
def get? (name : String) : Json → Option Json
  | .object fields => (fields.find? fun field => field.1 == name).map (·.2)
  | _ => none

/-- a literal that is a whole number of 64 bits, with or without sign, is kept; any other number, and a negative zero,
is read as a floating-point number, and one that is too large for that is null -/
def canonicalNumber (literal : String) : Json :=
  let s := literal.toList
  match Whole.signedIn 10 (Nat.pow 2 63) Whole.maxWord64 s with
  | .ok n => if n = 0 && s.head? == some '-' then float (Binary64.zero true) else whole n
  | .error _ => ((NumberParts.ofLiteral s).toBinary64?.map float).getD .null

/-- replaces the value of a name where it stands, or adds the name at the end -/
def setField (name : String) (value : Json) : List (String × Json) → List (String × Json)
  | [] => [(name, value)]
  | (other, old) :: rest => if other = name then (name, value) :: rest else (other, old) :: setField name value rest

mutual

/-- the document with canonical numbers and with the last value of each name at the place of the first -/
def canonical : Json → Json
  | .number literal => canonicalNumber literal
  | .array items => .array (canonicalItems items)
  | .object fields => .object (canonicalFields [] fields)
  | other => other

def canonicalItems : List Json → List Json
  | [] => []
  | item :: rest => canonical item :: canonicalItems rest

def canonicalFields (done : List (String × Json)) : List (String × Json) → List (String × Json)
  | [] => done
  | (name, value) :: rest => canonicalFields (setField name (canonical value) done) rest

end

end Json

end TableGraph
