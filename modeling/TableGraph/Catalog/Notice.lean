/-
Notices: what a run reports on the side without failing, in the order in which it happens, and the failures that end a
run.
-/
import TableGraph.Source.Basic
import TableGraph.Value.Conversion

namespace TableGraph

/-- why a field of a row has no value -/
inductive FieldReason where
  | missing (cells : Nat)
  | fault (cause : CellFault)
  deriving Repr

/-- the wording of a reason -/
def FieldReason.message : FieldReason → String
  | .missing cells => "row has only " ++ numeral cells ++ " fields"
  | .fault cause => cause.message

/-- something worth telling that does not end a run -/
inductive Notice where
  | unknownProduct (product : String)
  | keyColumnMissing (table column : String)
  | unsupportedColumn (table column typeName : String)
  | rowCountUnknown (table : String) (cause : SourceError)
  | emptyField (table column : String) (position : Nat) (reason : String)
  | danglingReference (table column key : String)
  | tableSkipped (table : String) (cause : SourceError)
  | tablesLeftOut (tables : List String)
  deriving DecidableEq, Repr

/-- the wording of a notice -/
def Notice.message : Notice → String
  | .unknownProduct product =>
    "Unknown database product '" ++ product ++ "', assuming LIMIT/OFFSET pagination"
  | .keyColumnMissing table column => "Key column " ++ table ++ "." ++ column ++ " missing from column metadata"
  | .unsupportedColumn table column typeName =>
    "Unsupported column type \x60" ++ typeName ++ "\x60 for " ++ table ++ "." ++ column ++ ", column dropped"
  | .rowCountUnknown table cause => "Failed to get row count for " ++ table ++ ": " ++ cause.message
  | .emptyField table column position reason =>
    "Empty value field in " ++ table ++ "." ++ column ++ " (position " ++ numeral position ++ "): " ++ reason
  | .danglingReference table column key => "Dangling reference " ++ table ++ "." ++ column ++ " = " ++ key
  | .tableSkipped table cause => "Retrieval of " ++ table ++ " failed, table skipped: " ++ cause.message
  | .tablesLeftOut tables =>
    numeral tables.length ++ " tables failed and were left out: " ++ ", ".intercalate tables

/-- a step of introspection -/
inductive IntrospectionStep where
  | tables
  | primaryKeys (table : String)
  | references (table : String)
  | columns (table : String)
  deriving DecidableEq, Repr

/-- what a step does -/
def IntrospectionStep.description : IntrospectionStep → String
  | .tables => "listing tables"
  | .primaryKeys table => "reading primary keys of " ++ table
  | .references table => "reading foreign keys of " ++ table
  | .columns table => "reading columns of " ++ table

/-- why a run ends without a graph -/
inductive ConversionError where
  | introspection (step : IntrospectionStep) (cause : SourceError)
  | sourceUnavailable (cause : SourceError)
  deriving DecidableEq, Repr

/-- the wording of a failure -/
def ConversionError.message : ConversionError → String
  | .introspection step cause => "Introspection failed while " ++ step.description ++ ": " ++ cause.message
  | .sourceUnavailable cause => "Source unavailable: " ++ cause.message

/-- a result with the notices on the way to it -/
structure Noted (α : Type) where
  notices : List Notice
  value : α

instance : Monad Noted where
  pure a := ⟨[], a⟩
  bind x f := ⟨x.notices ++ (f x.value).notices, (f x.value).value⟩

/-- notices with no result of their own -/
def Noted.tell (notices : List Notice) : Noted Unit := ⟨notices, ()⟩

/-- the dialect of a product; an unknown product is taken for the first dialect, with a notice -/
def Dialect.ofProduct (product : String) : Noted Dialect :=
  match Dialect.ofProduct? product with
  | some dialect => pure dialect
  | none => ⟨[.unknownProduct (Dialect.normalProduct product)], .postgresql⟩

end TableGraph
