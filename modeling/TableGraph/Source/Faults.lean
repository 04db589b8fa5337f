/-
Sources some of whose calls fail. A fault names a call, and a table by its qualified name; every other call goes to the
underlying source.
-/
import TableGraph.Source.Basic

namespace TableGraph

/-- which calls fail, with what reason; and which tables report a wrong number of rows -/
structure Faults where
  tables : Option String
  primaryKeys : String → Option String
  references : String → Option String
  columns : String → Option String
  rowCount : String → Option String
  reportedCount : String → Option Nat
  /-- a query for a table, for all rows or for a range -/
  rows : String → Option RowRange → Option String

namespace Faults

/-- no call fails -/
def none : Faults where
  tables := .none
  primaryKeys := fun _ => .none
  references := fun _ => .none
  columns := fun _ => .none
  rowCount := fun _ => .none
  reportedCount := fun _ => .none
  rows := fun _ _ => .none

end Faults

namespace Source

/-- the answer of a call about a table, or the failure that a fault names -/
def orFault {α : Type} (fault : String → Option String) (call : TableName → Except SourceError α) (name : TableName) :
    Except SourceError α :=
  match fault name.qualified with
  | some reason => .error (.metadata name.qualified reason)
  | none => call name

/-- the source with faults -/
def withFaults (source : Source) (faults : Faults) : Source where
  dialect := source.dialect
  tables :=
    match faults.tables with
    | some reason => .error (.connection reason)
    | none => source.tables
  primaryKeys := orFault faults.primaryKeys source.primaryKeys
  references := orFault faults.references source.references
  columns := orFault faults.columns source.columns
  rowCount := orFault faults.rowCount fun name =>
    match faults.reportedCount name.qualified with
    | some count => .ok count
    | none => source.rowCount name
  rows := fun query range =>
    match faults.rows query.source.qualified range with
    | some reason => .error (.query (query.sql range) reason)
    | none => source.rows query range

end Source

end TableGraph
