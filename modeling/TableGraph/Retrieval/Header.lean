/-
Headers: what each cell of a fetched row is.
-/
import TableGraph.Schema.Description

namespace TableGraph

/-- what the cell at a position is -/
structure HeaderEntry where
  name : String
  role : ColumnRole
  type : ColumnType
  position : Nat
  deriving DecidableEq, Repr

/-- what the cells of a row are, in order -/
structure Header where
  entries : List HeaderEntry
  deriving DecidableEq, Repr

namespace Header

/-- no cells -/
def empty : Header := ⟨[]⟩

/-- adds a cell at the end -/
def push (header : Header) (name : String) (role : ColumnRole) (type : ColumnType) : Header :=
  ⟨header.entries ++ [⟨name, role, type, header.entries.length⟩]⟩

/-- the names of the cells -/
def names (header : Header) : List String := header.entries.map (·.name)

/-- whether a cell has this name -/
def contains (header : Header) (name : String) : Bool := header.names.contains name

/-- the names of the cells of a role -/
def namesOf (header : Header) (role : ColumnRole) : List String :=
  (header.entries.filter fun entry => entry.role = role).map (·.name)

/-- the names of the cells by which rows can be ordered -/
def orderableNames (header : Header) : List String :=
  (header.entries.filter fun entry => entry.type.isOrderable).map (·.name)

/-- adds a referencing column unless there is a cell of its name -/
def pushReference (header : Header) (reference : Reference) : Header :=
  if header.contains reference.column then header else header.push reference.column .foreignKey reference.type

/-- adds columns in order -/
def pushColumns (header : Header) (role : ColumnRole) (columns : List Column) : Header :=
  columns.foldl (fun header column => header.push column.name role column.type) header

end Header

end TableGraph
