/-
The key index is an exact multi-map: a pair of table and column that was asked for finds, in the order of the vertices and
each one once, the vertices of the table whose column has the key; any other pair finds nothing.

Results:
- `KeyIndex.lookup_ofVertices`: what is looked up in the index of some vertices.
- `KeyIndex.lookup_exact`: the same, vertex by vertex: what a vertex must have to be found.
-/
import Mathlib.Tactic
import TableGraph.Graph.KeyIndex

namespace TableGraph

/-- whether a value has a key -/
def hasKey (key : String) (value : Option Value) : Bool := value.any fun v => v.key == key

/-- the identifiers of the vertices of a table whose column has a key, in the order of the vertices -/
def verticesWithKey {ι : Type} (vertices : List (Vertex ι)) (table column key : String) : List ι :=
  (vertices.filter fun vertex => vertex.label == table && hasKey key (vertex.properties.get? column)).map (·.id)

namespace KeyIndex

variable {ι : Type}

theorem nodup_eraseDups (names : List String) : names.eraseDups.Nodup := by
  induction h : names.length using Nat.strong_induction_on generalizing names with
  | _ n ih =>
    cases names with
    | nil => simp
    | cons first rest =>
      rw [List.eraseDups_cons, List.nodup_cons]
      have hlength := List.length_filter_le (fun name => !name == first) rest
      refine ⟨fun hmem => ?_, ih _ (by simp at h; omega) _ rfl⟩
      simpa using (List.mem_filter.mp (List.mem_eraseDups.mp hmem)).2

theorem nodup_columnsOf (wanted : List (String × String)) (table : String) : (columnsOf wanted table).Nodup :=
  nodup_eraseDups _

theorem mem_columnsOf (wanted : List (String × String)) (table column : String) :
    column ∈ columnsOf wanted table ↔ (table, column) ∈ wanted := by
  simp only [columnsOf, List.mem_eraseDups, List.mem_map, List.mem_filter, beq_iff_eq]
  constructor
  · rintro ⟨⟨t, c⟩, ⟨hmem, rfl⟩, rfl⟩
    exact hmem
  · intro hmem
    exact ⟨(table, column), ⟨hmem, rfl⟩, rfl⟩

/-- a vertex is put in front where its column has the key, and nowhere else -/
theorem lookup_addColumn (vertex : Vertex ι) (indexed : String) (index : KeyIndex ι) (table column key : String) :
    (addColumn vertex indexed index).lookup table column key =
      if vertex.label = table ∧ indexed = column ∧ hasKey key (vertex.properties.get? indexed) = true then
        vertex.id :: index.lookup table column key
      else index.lookup table column key := by
  unfold addColumn hasKey
  cases hvalue : vertex.properties.get? indexed with
  | none => simp
  | some value =>
    simp only [lookup, Std.HashMap.getD_insert]
    by_cases hsame : vertex.label = table ∧ indexed = column ∧ value.key = key
    · obtain ⟨rfl, rfl, rfl⟩ := hsame
      simp
    · have hne : ¬((vertex.label, indexed, value.key) == (table, column, key)) = true := by
        simpa using hsame
      rw [if_neg hne, if_neg (by simpa using hsame)]

/-- of the columns that are indexed, each one once, only the one asked for counts -/
theorem lookup_addColumns (vertex : Vertex ι) {columns : List String} (hcolumns : columns.Nodup) (index : KeyIndex ι)
    (table column key : String) :
    (columns.foldr (addColumn vertex) index).lookup table column key =
      if vertex.label = table ∧ column ∈ columns ∧ hasKey key (vertex.properties.get? column) = true then
        vertex.id :: index.lookup table column key
      else index.lookup table column key := by
  induction columns with
  | nil => simp
  | cons first rest ih =>
    obtain ⟨hfirst, hrest⟩ := List.nodup_cons.mp hcolumns
    rw [List.foldr_cons, lookup_addColumn, ih hrest]
    by_cases heq : first = column
    · subst heq
      simp [hfirst]
    · simp [heq, Ne.symm heq]

/-- **The index is an exact multi-map** on the pairs that were asked for, and holds nothing of other pairs -/
theorem lookup_ofVertices (vertices : List (Vertex ι)) (wanted : List (String × String)) (table column key : String) :
    (ofVertices vertices wanted).lookup table column key =
      if (table, column) ∈ wanted then verticesWithKey vertices table column key else [] := by
  induction vertices with
  | nil => simp [ofVertices, empty, lookup, verticesWithKey]
  | cons vertex rest ih =>
    have hadd : ofVertices (vertex :: rest) wanted = addVertex wanted vertex (ofVertices rest wanted) := rfl
    rw [hadd, addVertex, lookup_addColumns vertex (nodup_columnsOf wanted _), ih]
    simp only [mem_columnsOf]
    by_cases hlabel : vertex.label = table
    · subst hlabel
      by_cases hwanted : (vertex.label, column) ∈ wanted
      · by_cases hkey : hasKey key (vertex.properties.get? column) = true
        · simp [verticesWithKey, hwanted, hkey]
        · simp [verticesWithKey, hwanted, hkey]
      · simp [hwanted]
    · simp [verticesWithKey, hlabel]

/-- **Looking up a key.** For any vertices and any list of pairs that are asked for, in any order and with any repetitions:
what is found under a table, a column and a key are the identifiers of the vertices that have the label of the table and
whose property of this column has the key, in the order of the vertices and once for each of them, if the pair of table and
column is in the list; else nothing is found. -/
theorem lookup_exact (vertices : List (Vertex ι)) (wanted : List (String × String)) (table column key : String) :
    (ofVertices vertices wanted).lookup table column key = (vertices.filter fun vertex => decide
      ((table, column) ∈ wanted ∧ vertex.label = table ∧
        (vertex.properties.get? column).map Value.key = some key)).map (·.id) := by
  rw [lookup_ofVertices]
  split_ifs with hwanted
  · rw [verticesWithKey]
    congr 1
    refine List.filter_congr fun vertex _ => ?_
    rw [Bool.eq_iff_iff, Bool.and_eq_true, beq_iff_eq, decide_eq_true_iff, and_iff_right hwanted]
    cases vertex.properties.get? column with
    | none => simp [hasKey]
    | some value => simp [hasKey]
  · rw [eq_comm, List.map_eq_nil_iff, List.filter_eq_nil_iff]
    intro vertex _ hfound
    exact hwanted (of_decide_eq_true hfound).1

end KeyIndex

end TableGraph
