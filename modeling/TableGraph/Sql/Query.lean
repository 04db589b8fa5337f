/-
Queries for the rows of one table, whole or in ranges, and their SQL.
-/
import TableGraph.Number.Digits
import TableGraph.Sql.Dialect

namespace TableGraph

/-- a range of rows; without a limit it is open at its end -/
structure RowRange where
  offset : Nat
  limit : Option Nat
  deriving DecidableEq, Repr

/-- some columns of a table, and the columns that order its rows when they are fetched in ranges -/
structure TableQuery where
  source : TableName
  columns : List String
  orderBy : List String
  dialect : Dialect
  deriving DecidableEq, Repr

/-- a number in decimal digits -/
def numeral (n : Nat) : String := String.ofList (Digits.ofNat n)

namespace TableQuery

/-- the columns of the result; all columns if none is named -/
def projection (query : TableQuery) : String :=
  if query.columns.isEmpty then "*" else ", ".intercalate (query.columns.map query.dialect.quote)

/-- the columns that order the rows; without any, the positions of all columns of the result -/
def ordering (query : TableQuery) : String :=
  if query.orderBy.isEmpty then
    ", ".intercalate ((List.range (max query.columns.length 1)).map fun k => numeral (k + 1))
  else ", ".intercalate (query.orderBy.map query.dialect.quote)

/-- the clause for a range of rows; where an offset needs a limit, an open range has one that no table reaches -/
def rangeClause (dialect : Dialect) (range : RowRange) : String :=
  let offset := numeral range.offset
  match dialect.pagination, range.limit with
  | .limitOffset, some limit => " LIMIT " ++ numeral limit ++ " OFFSET " ++ offset
  | .limitOffset, none =>
    match dialect with
    | .mysql => " LIMIT 18446744073709551615 OFFSET " ++ offset
    | .sqlite => " LIMIT -1 OFFSET " ++ offset
    | _ => " OFFSET " ++ offset
  | .offsetFetch, some limit => " OFFSET " ++ offset ++ " ROWS FETCH NEXT " ++ numeral limit ++ " ROWS ONLY"
  | .offsetFetch, none => " OFFSET " ++ offset ++ " ROWS"

/-- the text of the query, for all rows or for a range -/
def sql (query : TableQuery) (range : Option RowRange) : String :=
  let select := "SELECT " ++ query.projection ++ " FROM " ++ query.dialect.quoteTable query.source
  match range with
  | none => select
  | some range => select ++ " ORDER BY " ++ query.ordering ++ rangeClause query.dialect range

end TableQuery

end TableGraph
