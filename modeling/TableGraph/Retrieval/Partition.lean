/-
Partitions: dividing the rows of a table into ranges that can be fetched side by side. All ranges have the same size
but the last, which is open at its end, so that rows beyond the expected number are fetched too.
-/
import TableGraph.Sql.Query

namespace TableGraph

/-- `count` ranges of `size` rows from the start, the last one open -/
def evenRanges (count size : Nat) : List RowRange :=
  (List.range count).map fun k => ⟨k * size, if k + 1 < count then some size else none⟩

/-- the ranges in which a table of `rowCount` rows is fetched; none if it is small or nothing runs side by side -/
def partitionRanges (rowCount parallelism fetchSize : Nat) : List RowRange :=
  if parallelism ≤ 1 ∨ rowCount ≤ max fetchSize 1 then []
  else
    let count := min parallelism rowCount
    evenRanges count (rowCount / count)

end TableGraph
