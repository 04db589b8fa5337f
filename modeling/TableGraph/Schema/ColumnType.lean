/-
Types of columns. Databases report types by free-form names; `ofName` maps them to a small closed set. Letter case,
white space, modifiers in parentheses and a final `without time zone` do not count.
-/
import TableGraph.Text.Blank
import TableGraph.Text.LowerCase

namespace TableGraph

/-- the type of a column, as far as conversion needs it -/
inductive ColumnType where
  | smallInt
  | integer
  | bigInt
  | real
  | double
  | numeric
  | char
  | varchar
  | text
  | boolean
  | date
  | time
  | timestamp
  | timestampTz
  | uuid
  | json
  | binary
  | array
  | other (name : String)
  deriving DecidableEq, Repr

namespace ColumnType

open Text

theorem length_dropWhile_le (p : Char → Bool) (s : List Char) : (s.dropWhile p).length ≤ s.length :=
  (List.dropWhile_sublist p).length_le

/-- removes every part in parentheses, up to the first closing one, with the white space before it -/
def withoutModifiers (s : List Char) : List Char :=
  match _hopen : s.dropWhile (· != '(') with
  | [] => s
  | _ :: inside =>
    match _hclose : inside.dropWhile (· != ')') with
    | [] => s
    | _ :: rest => trimEnd (s.takeWhile (· != '(')) ++ withoutModifiers rest
termination_by s.length
decreasing_by
  have houter := length_dropWhile_le (· != '(') s
  have hinner := length_dropWhile_le (· != ')') inside
  simp only [_hopen, _hclose, List.length_cons] at houter hinner
  omega

/-- the end of a type name that says nothing -/
def zoneSuffix : List Char := " without time zone".toList

/-- removes the end that says nothing, once -/
def withoutZoneSuffix (s : List Char) : List Char :=
  if zoneSuffix.isSuffixOf s then s.take (s.length - zoneSuffix.length) else s

/-- a type name in small letters with single spaces, without modifiers -/
def normalName (s : List Char) : List Char :=
  withoutZoneSuffix (collapseBlanks (trim (withoutModifiers (lowerCase (trim s)))))

/-- the names under which each type is known -/
def knownNames : List (ColumnType × List String) := [
  (.smallInt, ["smallint", "int2", "tinyint", "smallserial"]),
  (.integer, ["integer", "int", "int4", "mediumint", "serial"]),
  (.bigInt, ["bigint", "int8", "bigserial"]),
  (.real, ["real", "float4"]),
  (.double, ["double precision", "double", "float8", "float"]),
  (.numeric, ["numeric", "decimal", "number", "money"]),
  (.char, ["character", "char", "bpchar", "nchar"]),
  (.varchar, ["character varying", "varchar", "varchar2", "nvarchar", "nvarchar2"]),
  (.text, ["text", "name", "citext", "clob", "longtext", "mediumtext", "tinytext"]),
  (.boolean, ["boolean", "bool", "bit"]),
  (.date, ["date"]),
  (.time, ["time"]),
  (.timestamp, ["timestamp", "datetime", "datetime2", "smalldatetime"]),
  (.timestampTz, ["timestamp with time zone", "timestamptz", "datetimeoffset"]),
  (.uuid, ["uuid", "uniqueidentifier"]),
  (.json, ["json", "jsonb"]),
  (.binary, ["bytea", "blob", "binary", "varbinary", "longblob", "mediumblob", "tinyblob", "image", "raw",
    "bit varying", "varbit"])]

/-- the type of a normal name: arrays by their marks, then the known names -/
def ofNormalName (s : List Char) : ColumnType :=
  let name := String.ofList s
  if ['[', ']'].isSuffixOf s || name == "array" || s.head? == some '_' then .array
  else
    match knownNames.find? fun entry => entry.2.contains name with
    | some (type, _) => type
    | none => .other name

/-- the type that a database calls by this name -/
def ofName (name : String) : ColumnType := ofNormalName (normalName name.toList)

/-- whether values of the type can become properties -/
def isSupported : ColumnType → Bool
  | .binary | .array | .other _ => false
  | _ => true

/-- whether rows can be ordered by a column of the type -/
def isOrderable : ColumnType → Bool
  | .json | .binary | .array => false
  | _ => true

/-- the name of the type in messages -/
def name : ColumnType → String
  | .smallInt => "smallint"
  | .integer => "integer"
  | .bigInt => "bigint"
  | .real => "real"
  | .double => "double"
  | .numeric => "numeric"
  | .char => "char"
  | .varchar => "varchar"
  | .text => "text"
  | .boolean => "boolean"
  | .date => "date"
  | .time => "time"
  | .timestamp => "timestamp"
  | .timestampTz => "timestamptz"
  | .uuid => "uuid"
  | .json => "json"
  | .binary => "binary"
  | .array => "array"
  | .other name => name

end ColumnType

end TableGraph
