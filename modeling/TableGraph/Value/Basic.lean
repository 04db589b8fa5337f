/-
Values of properties, their canonical keys and their JSON.

The key of a value is the text by which values are compared in joins: whole numbers, floating-point numbers and decimals
share one notation without exponent and without needless zeros.
-/
import TableGraph.Calendar.DateTime
import TableGraph.Json.Basic
import TableGraph.Number.Decimal

namespace TableGraph

/-- the value of a property -/
inductive Value where
  | integer (value : Int64)
  | float (value : Binary64)
  | decimal (value : Decimal)
  | string (value : String)
  | boolean (value : Bool)
  | date (value : Date)
  | time (value : Time)
  | dateTime (value : DateTime)
  /-- a moment in universal time -/
  | dateTimeUtc (value : DateTime)
  deriving DecidableEq, Repr

namespace Value

/-- the canonical key, as characters -/
def keyChars : Value → List Char
  | .integer n => Whole.text n.toInt
  | .float x => Binary64.text .plain x
  | .decimal d => d.canonicalText
  | .string s => s.toList
  | .boolean b => (if b then "true" else "false").toList
  | .date d => d.text
  | .time t => t.text
  | .dateTime t => t.spacedText
  | .dateTimeUtc t => t.markedText ++ "+00:00".toList

/-- the canonical key -/
def key (value : Value) : String := String.ofList value.keyChars

/-- the name of the kind of value; moments have one name -/
def kindName : Value → String
  | .integer _ => "integer"
  | .float _ => "float"
  | .decimal _ => "decimal"
  | .string _ => "string"
  | .boolean _ => "boolean"
  | .date _ => "date"
  | .time _ => "time"
  | .dateTime _ => "datetime"
  | .dateTimeUtc _ => "datetime"

/-- the value in JSON: decimals and dates are strings -/
def toJson : Value → Json
  | .integer n => .whole n.toInt
  | .float x => .float x
  | .decimal d => .string (String.ofList d.text)
  | .string s => .string s
  | .boolean b => .bool b
  | .date d => .string (String.ofList d.text)
  | .time t => .string (String.ofList t.text)
  | .dateTime t => .string (String.ofList t.markedText)
  | .dateTimeUtc t => .string (String.ofList (t.markedText ++ ['Z']))

end Value

end TableGraph
