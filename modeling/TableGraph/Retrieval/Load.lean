/-
Loading: running a plan and converting the fetched rows to bags of values. Null cells have no value; a cell that is
missing or cannot be converted has none either, with a notice.
-/
import TableGraph.Catalog.Notice
import TableGraph.Retrieval.Plan
import TableGraph.Value.Bag

namespace TableGraph

/-- the rows of a table as bags of values -/
structure LoadedTable where
  label : String
  kind : TableKind
  rows : List PropertyBag
  /-- how many fields were left out because they were missing or could not be converted -/
  skippedFields : Nat
  deriving DecidableEq, Repr

/-- what becomes of one field of a row -/
inductive FieldOutcome where
  | value (value : Value)
  | null
  | empty (reason : FieldReason)

/-- a field left out of a row, and why -/
structure EmptyField where
  column : String
  position : Nat
  reason : FieldReason

namespace HeaderEntry

/-- what becomes of the field of a row that a header entry describes -/
def outcome (entry : HeaderEntry) (row : Row) : FieldOutcome :=
  match row[entry.position]? with
  | none => .empty (.missing row.length)
  | some cell =>
    match cell.convert entry.type with
    | .ok (some value) => .value value
    | .ok none => .null
    | .error cause => .empty (.fault cause)

/-- the named value of a field, if it has one -/
def value? (entry : HeaderEntry) (row : Row) : Option (String × Value) :=
  match entry.outcome row with
  | .value value => some (entry.name, value)
  | _ => none

/-- the field as one left out, if it is -/
def emptyField? (entry : HeaderEntry) (row : Row) : Option EmptyField :=
  match entry.outcome row with
  | .empty reason => some ⟨entry.name, entry.position, reason⟩
  | _ => none

end HeaderEntry

namespace Header

/-- the values of a row -/
def values (header : Header) (row : Row) : PropertyBag :=
  PropertyBag.ofList (header.entries.filterMap fun entry => entry.value? row)

/-- the fields of a row that are left out -/
def emptyFields (header : Header) (row : Row) : List EmptyField :=
  header.entries.filterMap fun entry => entry.emptyField? row

end Header

/-- the notice of a field left out -/
def EmptyField.notice (field : EmptyField) (label : String) : Notice :=
  .emptyField label field.column field.position field.reason.message

namespace RetrievalPlan

/-- fetches the rows of a plan; its ranges one after the other, up to the first failure -/
def fetch (plan : RetrievalPlan) (source : Source) : Except SourceError (List Row) :=
  if plan.ranges.isEmpty then source.rows plan.query none
  else (plan.ranges.mapM fun range => source.rows plan.query (some range)).map List.flatten

/-- the fields left out of fetched rows -/
def emptyFields (plan : RetrievalPlan) (rows : List Row) : List EmptyField := rows.flatMap plan.header.emptyFields

/-- fetches and converts the rows of a plan -/
def load (plan : RetrievalPlan) (source : Source) : Noted (Except SourceError LoadedTable) :=
  match plan.fetch source with
  | .error cause => pure (.error cause)
  | .ok rows =>
    let empty := plan.emptyFields rows
    ⟨empty.map (·.notice plan.label), .ok ⟨plan.label, plan.kind, rows.map plan.header.values, empty.length⟩⟩

end RetrievalPlan

end TableGraph
