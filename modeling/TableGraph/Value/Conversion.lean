/-
Conversion of cells to values of the declared type of their column. Text is read in the declared type, so a source that
delivers text only gives the same values as one with typed cells.

| column type                  | value                   |
|------------------------------|-------------------------|
| smallint, integer, bigint    | integer                 |
| real, double                 | float                   |
| numeric                      | decimal                 |
| char, varchar, text          | string                  |
| uuid, json                   | string                  |
| boolean                      | boolean                 |
| date, time                   | date, time              |
| timestamp, timestamptz       | dateTime, dateTimeUtc   |

Key columns of an unknown type keep any scalar; nothing is kept of binary and array columns.
-/
import TableGraph.Calendar.Reading
import TableGraph.Number.Decimal.Binary64
import TableGraph.Schema.ColumnType
import TableGraph.Source.Cell
import TableGraph.Value.Basic

namespace TableGraph

/-- why a cell has no value of its column's type -/
inductive CellFault where
  | undecodable (reason : String)
  | mismatch (cell : Cell) (type : ColumnType)
  | unsupported (type : ColumnType)
  deriving Repr

/-- the wording of a fault -/
def CellFault.message : CellFault → String
  | .undecodable reason => reason
  | .mismatch cell type => "cannot convert " ++ String.ofList cell.inspected ++ " to " ++ type.name
  | .unsupported type => "unsupported type " ++ type.name

namespace Cell

open Text

/-- the whole number nearest to `n` among those of 64 bits -/
def saturated (n : Int) : Int64 := Int64.ofInt (max (-Int.pow 2 63) (min n (Int.pow 2 63 - 1)))

/-- a number of 64 bits, if `n` is one -/
def inRange? (n : Int) : Option Int64 := if -Int.pow 2 63 ≤ n ∧ n < Int.pow 2 63 then some (Int64.ofInt n) else none

/-- a string of characters as a value -/
def stringValue (s : List Char) : Value := .string (String.ofList s)

/-- the integer of a cell; a whole floating-point number out of range is moved to the nearest end of the range -/
def integer? : Cell → Option Value
  | .int n => some (.integer n)
  | .float x => x.toInt?.map fun n => .integer (saturated n)
  | .decimal d => (d.toInt?.bind inRange?).map .integer
  | .text s => (Whole.int64? (trim s.toList)).map .integer
  | _ => none

/-- the floating-point number of a cell -/
def float? : Cell → Option Value
  | .float x => some (.float x)
  | .int n => some (.float (.ofInt n.toInt))
  | .decimal d => some (.float d.toBinary64)
  | .text s => (Binary64.ofText? (trim s.toList)).map .float
  | _ => none

/-- the decimal of a cell -/
def decimal? : Cell → Option Value
  | .decimal d => some (.decimal d)
  | .int n => some (.decimal (.ofInt64 n))
  | .float x => (Decimal.ofBinary64? x).map .decimal
  | .text s => (Decimal.ofText? (trim s.toList)).map .decimal
  | _ => none

/-- the string of a cell: text as it is, and the plain text of scalars -/
def string? : Cell → Option Value
  | .text s => some (.string s)
  | .int n => some (stringValue (Whole.text n.toInt))
  | .float x => some (stringValue (Binary64.text .plain x))
  | .decimal d => some (stringValue d.text)
  | .bool b => some (.string (if b then "true" else "false"))
  | .uuid id => some (stringValue id.text)
  | _ => none

/-- the identifier of a cell, as a string -/
def uuid? : Cell → Option Value
  | .uuid id => some (stringValue id.text)
  | .text s => (Uuid.ofText? (trim s.toList)).map fun id => stringValue id.text
  | _ => none

/-- the document of a cell, as a string -/
def json? : Cell → Option Value
  | .json document => some (stringValue document.compact)
  | .text s => some (.string s)
  | _ => none

/-- the words for the two truth values -/
def trueWords : List String := ["true", "t", "yes", "y", "1"]
def falseWords : List String := ["false", "f", "no", "n", "0"]

/-- reads a truth value, in any letter case -/
def boolOfText? (s : String) : Option Bool :=
  let word := String.ofList (lowerCase (trim s.toList))
  if trueWords.contains word then some true
  else if falseWords.contains word then some false
  else none

/-- the truth value of a cell -/
def boolean? : Cell → Option Value
  | .bool b => some (.boolean b)
  | .int n => if n = 0 then some (.boolean false) else if n = 1 then some (.boolean true) else none
  | .text s => (boolOfText? s).map .boolean
  | _ => none

/-- the day of a cell -/
def date? : Cell → Option Value
  | .date d => some (.date d)
  | .text s => (Date.ofText? (trim s.toList)).map .date
  | _ => none

/-- the time of day of a cell -/
def time? : Cell → Option Value
  | .time t => some (.time t)
  | .text s => (Time.ofText? (trim s.toList)).map .time
  | _ => none

/-- the moment of a cell, without regard to offsets -/
def dateTime? : Cell → Option Value
  | .timestamp t => some (.dateTime t)
  | .timestampTz t => some (.dateTime t)
  | .text s => (DateTime.ofText? (trim s.toList)).map .dateTime
  | _ => none

/-- the moment of a cell in universal time -/
def dateTimeUtc? : Cell → Option Value
  | .timestampTz t => some (.dateTimeUtc t)
  | .timestamp t => some (.dateTimeUtc t)
  | .text s => (DateTime.universalOfText? (trim s.toList)).map .dateTimeUtc
  | _ => none

/-- the scalar of a cell, whatever it is -/
def scalar? : Cell → Option Value
  | .int n => some (.integer n)
  | .float x => some (.float x)
  | .decimal d => some (.decimal d)
  | .text s => some (.string s)
  | .bool b => some (.boolean b)
  | .uuid id => some (stringValue id.text)
  | _ => none

/-- the value of a cell in a type -/
def valueOf? (cell : Cell) : ColumnType → Option Value
  | .smallInt | .integer | .bigInt => cell.integer?
  | .real | .double => cell.float?
  | .numeric => cell.decimal?
  | .char | .varchar | .text => cell.string?
  | .uuid => cell.uuid?
  | .json => cell.json?
  | .boolean => cell.boolean?
  | .date => cell.date?
  | .time => cell.time?
  | .timestamp => cell.dateTime?
  | .timestampTz => cell.dateTimeUtc?
  | .other _ => cell.scalar?
  | .binary | .array => none

/-- the value of a cell in the type of its column; null cells have none -/
def convert (cell : Cell) (type : ColumnType) : Except CellFault (Option Value) :=
  match cell with
  | .undecodable reason => .error (.undecodable reason)
  | .null => .ok none
  | _ =>
    if type = .binary ∨ type = .array then .error (.unsupported type)
    else
      match cell.valueOf? type with
      | some value => .ok (some value)
      | none => .error (.mismatch cell type)

end Cell

end TableGraph
