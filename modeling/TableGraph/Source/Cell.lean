/-
Cells: single values as a source delivers them, before the declared type of their column is applied.
-/
import TableGraph.Calendar.DateTime
import TableGraph.Json.Printer
import TableGraph.Number.Decimal
import TableGraph.Uuid

namespace TableGraph

/-- a value as a source delivers it -/
inductive Cell where
  | null
  | int (value : Int64)
  | float (value : Binary64)
  | decimal (value : Decimal)
  | text (value : String)
  | bool (value : Bool)
  | date (value : Date)
  | time (value : Time)
  | timestamp (value : DateTime)
  /-- a moment in universal time -/
  | timestampTz (value : DateTime)
  | uuid (value : Uuid)
  | json (value : Json)
  | bytes (value : List UInt8)
  /-- the source could not decode the value; it says why -/
  | undecodable (reason : String)
  deriving Repr, Inhabited

/-- the cells of a row, in the order of the columns asked for -/
abbrev Row := List Cell

namespace Cell

/-- the name of a kind of cell with what it holds in parentheses -/
def named (kind : String) (content : List Char) : List Char := kind.toList ++ '(' :: (content ++ [')'])

/-- texts separated by commas -/
def commaSeparated : List (List Char) → List Char
  | [] => []
  | [one] => one
  | one :: rest => one ++ ',' :: ' ' :: commaSeparated rest

/-- the cell as it appears in messages: its kind and its content -/
def inspected : Cell → List Char
  | .null => "Null".toList
  | .int n => named "Int" (Whole.text n.toInt)
  | .float x => named "Float" (Binary64.text .inspected x)
  | .decimal d => named "Decimal" d.text
  | .text s => named "Text" (Text.quoted s.toList)
  | .bool b => named "Bool" (if b then "true" else "false").toList
  | .date d => named "Date" d.text
  | .time t => named "Time" t.text
  | .timestamp t => named "Timestamp" t.markedText
  | .timestampTz t => named "TimestampTz" (t.markedText ++ ['Z'])
  | .uuid id => named "Uuid" id.text
  | .json document => named "Json" document.inspected
  | .bytes content =>
    named "Bytes" ('[' :: (commaSeparated (content.map fun byte => Digits.ofNat byte.toNat) ++ [']']))
  | .undecodable reason => named "Undecodable" (Text.quoted reason.toList)

end Cell

end TableGraph
