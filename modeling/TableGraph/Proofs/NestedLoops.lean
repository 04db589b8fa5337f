/-
Joins are nested loops. A join by way of the key index gives the links that two loops over the vertices give, which compare
the keys of every pair: the same links, in the same order, each as often.

Results:
- `DirectRule.toLinks_join`, `JunctionRule.toLinks_join`: the links of one rule.
- `linksOf_joinAll`: the links of all rules.
- `buildEdges_eq`: the edges, and what is counted of them and of dangling references.
- `length_edges_buildEdges`, `even_junctionEdges_buildEdges`: every edge is counted once, and junctions give pairs of edges.
-/
import TableGraph.Graph.Edges
import TableGraph.Proofs.KeyIndexLookup

namespace TableGraph

variable {ι : Type}

/-- whether two values are there and have the same key -/
def sameKey : Option Value → Option Value → Bool
  | some a, some b => a.key == b.key
  | _, _ => false

/-- the vertices of a table whose value in a column has the key of a value -/
def partners (vertices : List (Vertex ι)) (table column : String) (value : Option Value) : List ι :=
  (vertices.filter fun vertex => vertex.label == table && sameKey value (vertex.properties.get? column)).map (·.id)

theorem partners_none (vertices : List (Vertex ι)) (table column : String) :
    partners vertices table column none = [] := by
  simp [partners, sameKey]

/-- the index finds the partners of a value, in the pairs of table and column that it was made for -/
theorem lookup_eq_partners (vertices : List (Vertex ι)) {wanted : List (String × String)} {table column : String}
    (hwanted : (table, column) ∈ wanted) (value : Value) :
    (KeyIndex.ofVertices vertices wanted).lookup table column value.key = partners vertices table column (some value) := by
  have hsame (other : Option Value) : hasKey value.key other = sameKey (some value) other := by
    cases other with
    | none => rfl
    | some other => exact Bool.beq_comm
  rw [KeyIndex.lookup_ofVertices, if_pos hwanted, verticesWithKey, partners]
  simp only [hsame]

/-- the results of all outcomes there are -/
theorem flatMap_filterMap {α β γ : Type} (f : α → Option β) (g : β → List γ) (xs : List α) :
    (xs.filterMap f).flatMap g = xs.flatMap fun x => (f x).toList.flatMap g := by
  rw [List.filterMap_eq_flatMap_toList, List.flatMap_assoc]

/-! ## References of vertices -/

namespace DirectRule

variable (rule : DirectRule) (vertices : List (Vertex ι))

/-- a loop over the vertices of the start table, and within it one over the vertices that may be referred to -/
def nestedLoops : List (Link ι) :=
  (vertices.filter fun vertex => vertex.label == rule.startTable).flatMap fun vertex =>
    rule.linksFrom vertex.id (partners vertices rule.endTable rule.targetColumn (vertex.properties.get? rule.column))

variable {wanted : List (String × String)} (hwanted : (rule.endTable, rule.targetColumn) ∈ wanted)
include hwanted

theorem toLinks_joinVertex (vertex : Vertex ι) :
    (rule.joinVertex (KeyIndex.ofVertices vertices wanted) vertex).toList.flatMap (·.toLinks) =
      rule.linksFrom vertex.id
        (partners vertices rule.endTable rule.targetColumn (vertex.properties.get? rule.column)) := by
  unfold joinVertex
  cases vertex.properties.get? rule.column with
  | none => simp [partners_none, linksFrom]
  | some value =>
    simp only [Option.map_some, Option.toList_some, List.flatMap_cons, List.flatMap_nil, List.append_nil,
      lookup_eq_partners vertices hwanted]
    -- without partners the reference is dangling, and a loop over no partners gives no links either
    cases partners vertices rule.endTable rule.targetColumn (some value) <;> rfl

/-- **A direct rule is two nested loops** over the vertices -/
theorem toLinks_join :
    (rule.join (KeyIndex.ofVertices vertices wanted) vertices).flatMap (·.toLinks) = rule.nestedLoops vertices := by
  simp only [join, flatMap_filterMap, toLinks_joinVertex rule vertices hwanted]
  rfl

end DirectRule

/-! ## Junctions -/

/-- the vertices that a row of a junction refers to on one side -/
def Endpoint.partners (endpoint : Endpoint) (vertices : List (Vertex ι)) (row : PropertyBag) : List ι :=
  TableGraph.partners vertices endpoint.table endpoint.targetColumn (row.get? endpoint.column)

namespace JunctionRule

variable (rule : JunctionRule) (vertices : List (Vertex ι))

/-- the rows that are loaded of a junction -/
def rowsIn (junctions : List LoadedTable) : List PropertyBag :=
  ((junctions.find? fun table => table.label == rule.label).map (·.rows)).getD []

/-- a loop over the rows, and within it one over the vertices of each side -/
def nestedLoops (rows : List PropertyBag) : List (Link ι) :=
  rows.flatMap fun row => rule.linksBetween row (rule.one.partners vertices row) (rule.two.partners vertices row)

theorem linksBetween_nil_left (row : PropertyBag) (twos : List ι) : rule.linksBetween row [] twos = [] := rfl

theorem linksBetween_nil_right (row : PropertyBag) (ones : List ι) : rule.linksBetween row ones [] = [] := by
  simp [linksBetween]

variable {wanted : List (String × String)} (hone : (rule.one.table, rule.one.targetColumn) ∈ wanted)
  (htwo : (rule.two.table, rule.two.targetColumn) ∈ wanted)
include hone htwo

theorem toLinks_joinRow (row : PropertyBag) :
    (rule.joinRow (KeyIndex.ofVertices vertices wanted) row).toList.flatMap (·.toLinks) =
      rule.linksBetween row (rule.one.partners vertices row) (rule.two.partners vertices row) := by
  unfold joinRow Endpoint.partners Endpoint.matches
  cases row.get? rule.one.column with
  | none => simp [partners_none, linksBetween_nil_left]
  | some one =>
    cases row.get? rule.two.column with
    | none => simp [partners_none, linksBetween_nil_right]
    | some two =>
      simp only [lookup_eq_partners vertices hone, lookup_eq_partners vertices htwo]
      cases hones : partners vertices rule.one.table rule.one.targetColumn (some one) with
      | nil => rfl
      | cons first ones =>
        cases partners vertices rule.two.table rule.two.targetColumn (some two) with
        | nil => simp [linksBetween_nil_right, JoinOutcome.toLinks]
        | cons second twos => simp [JoinOutcome.toLinks]

/-- **A junction is three nested loops**: over its rows and over the vertices of both sides -/
theorem toLinks_join (junctions : List LoadedTable) :
    (rule.join (KeyIndex.ofVertices vertices wanted) junctions).flatMap (·.toLinks) =
      rule.nestedLoops vertices (rule.rowsIn junctions) := by
  unfold join rowsIn
  cases junctions.find? fun table => table.label == rule.label with
  | none => rfl
  | some table =>
    simp only [flatMap_filterMap, toLinks_joinRow rule vertices hone htwo]
    rfl

end JunctionRule

/-! ## All rules -/

/-- the links of a rule, by nested loops -/
def EdgeRule.nestedLoops (rule : EdgeRule) (vertices : List (Vertex ι)) (junctions : List LoadedTable) : List (Link ι) :=
  match rule with
  | .direct rule => rule.nestedLoops vertices
  | .junction rule => rule.nestedLoops vertices (rule.rowsIn junctions)

/-- the joins of a rule are its nested loops, by an index that was made for its lookups -/
theorem EdgeRule.toLinks_join {rule : EdgeRule} {wanted : List (String × String)}
    (hwanted : ∀ pair ∈ rule.lookups, pair ∈ wanted) (vertices : List (Vertex ι)) (junctions : List LoadedTable) :
    (rule.join (KeyIndex.ofVertices vertices wanted) vertices junctions).flatMap (·.toLinks) =
      rule.nestedLoops vertices junctions := by
  cases rule with
  | direct rule => exact rule.toLinks_join vertices (hwanted _ (by simp [EdgeRule.lookups]))
  | junction rule =>
    exact rule.toLinks_join vertices (hwanted _ (by simp [EdgeRule.lookups])) (hwanted _ (by simp [EdgeRule.lookups]))
      junctions

/-- **The joins of all rules are nested loops**, one rule after the other -/
theorem linksOf_joinAll (vertices : List (Vertex ι)) (rules : List EdgeRule) (junctions : List LoadedTable) :
    linksOf (joinAll vertices rules junctions) = rules.flatMap fun rule => rule.nestedLoops vertices junctions := by
  rw [linksOf, joinAll, List.flatMap_map]
  refine List.flatMap_congr fun rule hrule => ?_
  exact EdgeRule.toLinks_join (fun pair hpair => List.mem_flatMap.mpr ⟨rule, hrule, hpair⟩) vertices junctions

/-! ## Dangling references -/

/-- how many vertices of the start table have a reference without partners -/
def DirectRule.danglingCount (rule : DirectRule) (vertices : List (Vertex ι)) : Nat :=
  (vertices.filter fun vertex => vertex.label == rule.startTable).countP fun vertex =>
    (vertex.properties.get? rule.column).isSome &&
      (partners vertices rule.endTable rule.targetColumn (vertex.properties.get? rule.column)).isEmpty

/-- how many rows have both references, at least one of them without partners -/
def JunctionRule.danglingCount (rule : JunctionRule) (vertices : List (Vertex ι)) (rows : List PropertyBag) : Nat :=
  rows.countP fun row => (row.get? rule.one.column).isSome && (row.get? rule.two.column).isSome &&
    ((rule.one.partners vertices row).isEmpty || (rule.two.partners vertices row).isEmpty)

/-- how many references of a rule dangle -/
def EdgeRule.danglingCount (rule : EdgeRule) (vertices : List (Vertex ι)) (junctions : List LoadedTable) : Nat :=
  match rule with
  | .direct rule => rule.danglingCount vertices
  | .junction rule => rule.danglingCount vertices (rule.rowsIn junctions)

theorem DirectRule.countP_join (rule : DirectRule) (vertices : List (Vertex ι)) {wanted : List (String × String)}
    (hwanted : (rule.endTable, rule.targetColumn) ∈ wanted) :
    (rule.join (KeyIndex.ofVertices vertices wanted) vertices).countP (·.isDangling) = rule.danglingCount vertices := by
  rw [join, List.countP_filterMap, danglingCount]
  congr 1
  funext vertex
  unfold joinVertex
  cases vertex.properties.get? rule.column with
  | none => rfl
  | some value =>
    simp only [Option.map_some, lookup_eq_partners vertices hwanted]
    cases partners vertices rule.endTable rule.targetColumn (some value) <;> rfl

theorem JunctionRule.countP_join (rule : JunctionRule) (vertices : List (Vertex ι)) {wanted : List (String × String)}
    (hone : (rule.one.table, rule.one.targetColumn) ∈ wanted) (htwo : (rule.two.table, rule.two.targetColumn) ∈ wanted)
    (junctions : List LoadedTable) :
    (rule.join (KeyIndex.ofVertices vertices wanted) junctions).countP (·.isDangling) =
      rule.danglingCount vertices (rule.rowsIn junctions) := by
  unfold join rowsIn
  cases junctions.find? fun table => table.label == rule.label with
  | none => rfl
  | some table =>
    change (table.rows.filterMap _).countP _ = rule.danglingCount vertices table.rows
    rw [List.countP_filterMap, danglingCount]
    congr 1
    funext row
    unfold joinRow Endpoint.matches Endpoint.partners
    cases row.get? rule.one.column with
    | none => rfl
    | some one =>
      cases row.get? rule.two.column with
      | none => rfl
      | some two =>
        simp only [lookup_eq_partners vertices hone, lookup_eq_partners vertices htwo]
        cases partners vertices rule.one.table rule.one.targetColumn (some one) with
        | nil => rfl
        | cons first ones => cases partners vertices rule.two.table rule.two.targetColumn (some two) <;> rfl

/-- the references of a rule that dangle are those without partners -/
theorem EdgeRule.countP_join {rule : EdgeRule} {wanted : List (String × String)}
    (hwanted : ∀ pair ∈ rule.lookups, pair ∈ wanted) (vertices : List (Vertex ι)) (junctions : List LoadedTable) :
    (rule.join (KeyIndex.ofVertices vertices wanted) vertices junctions).countP (·.isDangling) =
      rule.danglingCount vertices junctions := by
  cases rule with
  | direct rule => exact rule.countP_join vertices (hwanted _ (by simp [EdgeRule.lookups]))
  | junction rule =>
    exact rule.countP_join vertices (hwanted _ (by simp [EdgeRule.lookups])) (hwanted _ (by simp [EdgeRule.lookups]))
      junctions

/-! ## All counts -/

/-- the links of the rules of a kind are the nested loops of these rules -/
theorem linksOf_filter_joinAll (keep : EdgeRule → Bool) (vertices : List (Vertex ι)) (rules : List EdgeRule)
    (junctions : List LoadedTable) :
    linksOf ((joinAll vertices rules junctions).filter fun entry => keep entry.1) =
      (rules.filter keep).flatMap fun rule => rule.nestedLoops vertices junctions := by
  rw [linksOf, joinAll, List.filter_map, List.flatMap_map]
  refine List.flatMap_congr fun rule hrule => ?_
  have hmem : rule ∈ rules := List.mem_of_mem_filter hrule
  exact EdgeRule.toLinks_join (fun pair hpair => List.mem_flatMap.mpr ⟨rule, hmem, hpair⟩) vertices junctions

/-- **Edges and counts by nested loops**: the index plays no part in what comes out -/
theorem buildEdges_eq (ids : Nat → ι) (start : Nat) (vertices : List (Vertex ι)) (rules : List EdgeRule)
    (junctions : List LoadedTable) :
    buildEdges ids start vertices rules junctions =
      { edges := identifyLinks ids start (rules.flatMap fun rule => rule.nestedLoops vertices junctions)
        directEdges := ((rules.filter (·.isDirected)).flatMap fun rule => rule.nestedLoops vertices junctions).length
        junctionEdges := ((rules.filter fun rule => !rule.isDirected).flatMap fun rule =>
          rule.nestedLoops vertices junctions).length
        danglingReferences := (rules.map fun rule => rule.danglingCount vertices junctions).sum } := by
  have hdangling : ((joinAll vertices rules junctions).flatMap (·.2)).countP (·.isDangling) =
      (rules.map fun rule => rule.danglingCount vertices junctions).sum := by
    rw [List.countP_flatMap, joinAll, List.map_map]
    congr 1
    refine List.map_congr_left fun rule hrule => ?_
    exact EdgeRule.countP_join (fun pair hpair => List.mem_flatMap.mpr ⟨rule, hrule, hpair⟩) vertices junctions
  simp only [buildEdges, linksOf_joinAll, linksOf_filter_joinAll (·.isDirected),
    linksOf_filter_joinAll fun rule => !rule.isDirected, hdangling]

/-! ## Counts and edges -/

/-- **Every edge is counted once**, as one of a reference of a vertex or as one of a junction -/
theorem length_edges_buildEdges (ids : Nat → ι) (start : Nat) (vertices : List (Vertex ι)) (rules : List EdgeRule)
    (junctions : List LoadedTable) :
    let found := buildEdges ids start vertices rules junctions
    found.directEdges + found.junctionEdges = found.edges.length := by
  intro found
  have hedges : found.edges.length = (linksOf (joinAll vertices rules junctions)).length := List.length_mapIdx
  have hsorted := (List.filter_append_perm (fun entry => entry.1.isDirected)
    (joinAll vertices rules junctions)).flatMap_right fun entry => entry.2.flatMap (·.toLinks)
  rw [hedges, linksOf, ← hsorted.length_eq, List.flatMap_append, List.length_append]
  rfl

theorem JunctionRule.even_length_nestedLoops (rule : JunctionRule) (vertices : List (Vertex ι))
    (rows : List PropertyBag) : Even (rule.nestedLoops vertices rows).length := by
  have hpairs (row : PropertyBag) (ones twos : List ι) :
      (rule.linksBetween row ones twos).length = (ones.length * twos.length) * 2 := by
    simp [linksBetween, linkPair, Nat.mul_assoc]
  rw [nestedLoops, List.length_flatMap, even_iff_two_dvd]
  refine List.dvd_sum fun length hlength => ?_
  obtain ⟨row, -, rfl⟩ := List.mem_map.mp hlength
  exact hpairs row _ _ ▸ Nat.dvd_mul_left 2 _

/-- **Junctions give edges in pairs**, one in each direction -/
theorem even_junctionEdges_buildEdges (ids : Nat → ι) (start : Nat) (vertices : List (Vertex ι))
    (rules : List EdgeRule) (junctions : List LoadedTable) :
    Even (buildEdges ids start vertices rules junctions).junctionEdges := by
  simp only [buildEdges_eq, List.length_flatMap, even_iff_two_dvd]
  refine List.dvd_sum fun length hlength => ?_
  obtain ⟨rule, hrule, rfl⟩ := List.mem_map.mp hlength
  have hundirected := (List.mem_filter.mp hrule).2
  cases rule with
  | direct rule => cases hundirected
  | junction rule => exact (rule.even_length_nestedLoops vertices _).two_dvd

/-! ## Edges without their identifiers -/

/-- an edge without its identifier -/
def Edge.link (edge : Edge ι) : Link ι := ⟨edge.label, edge.source, edge.target, edge.properties⟩

theorem links_identifyLinks (ids : Nat → ι) (start : Nat) (links : List (Link ι)) :
    (identifyLinks ids start links).map (·.link) = links := by
  refine List.ext_getElem? fun k => ?_
  rw [identifyLinks, List.getElem?_map, List.getElem?_mapIdx]
  cases links[k]? <;> rfl

end TableGraph
