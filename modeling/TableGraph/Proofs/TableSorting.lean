/-
Sorting tables into vertices and edges, as a relation. A table gives a share of the classification: a vertex table with one
rule for each of its references, or, if it has two references and a primary key of two columns, one junction that links the
two sides. The shares of the tables, one after the other, are the classification (`Sorts`), and there is no other one.

Results:
- `classify_eq_iff`: a list of tables is sorted in exactly one way, and this is the classification.
- `classify_append`: lists of tables are classified independently of each other.
- `flatMap_links_classify`: the rules stand for the references of the tables, each once and in order.
- `classify_exact`: all of this together.
-/
import TableGraph.Proofs.Classification

namespace TableGraph

/-- one classification after the other -/
instance : Append Classification :=
  ⟨fun c d => ⟨c.vertexTables ++ d.vertexTables, c.edgeRules ++ d.edgeRules⟩⟩

theorem Classification.append_def (c d : Classification) :
    c ++ d = ⟨c.vertexTables ++ d.vertexTables, c.edgeRules ++ d.edgeRules⟩ := rfl

/-! ## Shares -/

/-- the share of a table in a classification -/
inductive TableDescription.Gives (table : TableDescription) : Classification → Prop
  | vertex (hkeys : ¬(table.references.length = 2 ∧ table.primaryKeys.length = 2)) :
    table.Gives ⟨[table], table.references.map fun reference =>
      .direct ⟨table.label, reference.targetTable, reference.column, reference.targetColumn⟩⟩
  | junction {one two : Reference} (hreferences : table.references = [one, two])
    (hkeys : table.primaryKeys.length = 2) :
    table.Gives ⟨[], [.junction {
      source := table.source
      label := table.label
      one := ⟨one.targetTable, one.column, one.type, one.targetColumn⟩
      two := ⟨two.targetTable, two.column, two.type, two.targetColumn⟩
      attributes := table.attributes
      rowCount := table.rowCount }]⟩

/-- the shares of tables, one after the other -/
inductive Sorts : List TableDescription → Classification → Prop
  | nil : Sorts [] ⟨[], []⟩
  | cons {table : TableDescription} {tables : List TableDescription} {own rest : Classification}
    (hown : table.Gives own) (hrest : Sorts tables rest) : Sorts (table :: tables) (own ++ rest)

namespace TableDescription

theorem isJunction_iff {table : TableDescription} :
    table.isJunction = true ↔ table.references.length = 2 ∧ table.primaryKeys.length = 2 := by
  simp [isJunction]

/-- a table by itself has its share -/
theorem gives_classify (table : TableDescription) : table.Gives (classify [table]) := by
  cases hjunction : table.isJunction with
  | true =>
    obtain ⟨one, two, hreferences⟩ := references_of_isJunction hjunction
    have hshare : classify [table] = ⟨[], [.junction ⟨table.source, table.label, endpoint one, endpoint two,
        table.attributes, table.rowCount⟩]⟩ := by
      simp [classify, edgeRules, hjunction, hreferences]
    rw [hshare]
    exact .junction hreferences (isJunction_iff.mp hjunction).2
  | false =>
    have hshare : classify [table] = ⟨[table], table.references.map table.directRule⟩ := by
      simp [classify, edgeRules_of_not_isJunction, hjunction]
    rw [hshare]
    exact .vertex fun hkeys => Bool.false_ne_true (hjunction.symm.trans (isJunction_iff.mpr hkeys))

/-- a table has one share -/
theorem Gives.eq_classify {table : TableDescription} {own : Classification} (h : table.Gives own) :
    own = classify [table] := by
  have hclassified := table.gives_classify
  generalize classify [table] = share at hclassified
  cases h with
  | vertex hkeys =>
    cases hclassified with
    | vertex => rfl
    | junction hreferences htwo => exact absurd ⟨congrArg List.length hreferences, htwo⟩ hkeys
  | junction hreferences htwo =>
    cases hclassified with
    | vertex hkeys => exact absurd ⟨congrArg List.length hreferences, htwo⟩ hkeys
    | junction hreferences' =>
      obtain ⟨rfl, htail⟩ := List.cons.inj (hreferences.symm.trans hreferences')
      obtain rfl := List.singleton_injective htail
      rfl

end TableDescription

/-! ## Lists of tables -/

/-- **Lists of tables are classified independently** -/
theorem classify_append (tables more : List TableDescription) :
    classify (tables ++ more) = classify tables ++ classify more := by
  simp only [classify, Classification.append_def, List.filter_append, List.flatMap_append]

theorem classify_cons (table : TableDescription) (tables : List TableDescription) :
    classify (table :: tables) = classify [table] ++ classify tables := classify_append [table] tables

/-- **Tables are sorted in exactly one way** -/
theorem classify_eq_iff {tables : List TableDescription} {c : Classification} : classify tables = c ↔ Sorts tables c := by
  constructor
  · rintro rfl
    induction tables with
    | nil => exact .nil
    | cons table tables ih =>
      rw [classify_cons]
      exact .cons table.gives_classify ih
  · intro h
    induction h with
    | nil => rfl
    | cons hown _ ih => rw [classify_cons, ih, hown.eq_classify]

/-! ## References -/

/-- the references of a table, as links from the table -/
def TableDescription.links (table : TableDescription) : List DirectRule :=
  table.references.map fun reference =>
    ⟨table.label, reference.targetTable, reference.column, reference.targetColumn⟩

/-- the references that a rule stands for: its own, or those of both sides of the junction -/
def EdgeRule.links : EdgeRule → List DirectRule
  | .direct rule => [rule]
  | .junction rule => [rule.one, rule.two].map fun side => ⟨rule.label, side.table, side.column, side.targetColumn⟩

/-- the rules of a share stand for the references of the table -/
theorem TableDescription.Gives.flatMap_links {table : TableDescription} {own : Classification} (h : table.Gives own) :
    own.edgeRules.flatMap (·.links) = table.links := by
  cases h with
  | vertex =>
    rw [List.flatMap_map]
    exact List.map_eq_flatMap.symm
  | junction hreferences => simp [EdgeRule.links, links, hreferences]

/-- **No reference is lost, doubled or given to another table** -/
theorem flatMap_links_classify (tables : List TableDescription) :
    (classify tables).edgeRules.flatMap (·.links) = tables.flatMap (·.links) := by
  induction tables with
  | nil => rfl
  | cons table tables ih =>
    rw [classify_cons, Classification.append_def, List.flatMap_append, ih, table.gives_classify.flatMap_links,
      List.flatMap_cons]

/-- **Classification is an exact partition in order.** Tables are sorted in exactly one way: each gives itself as a vertex
table and one rule for each of its references, in their order, or, exactly if it has two references and a primary key of two
columns, one junction of its two references with all its attributes. The share of a table stands between what the tables
before and after it give, so that the vertex tables and the rules follow the tables. The rules stand for the references of
the tables, each once and with its own table. And tables in two lists are classified one list after the other. -/
theorem classify_exact (tables more : List TableDescription) :
    (∀ c, classify tables = c ↔ Sorts tables c) ∧
    (∀ table, ∃ own, table.Gives own ∧ classify (tables ++ table :: more) = classify tables ++ own ++ classify more) ∧
    (classify tables).edgeRules.flatMap (·.links) = tables.flatMap (·.links) ∧
    classify (tables ++ more) = classify tables ++ classify more := by
  refine ⟨fun _ => classify_eq_iff, fun table => ⟨classify [table], table.gives_classify, ?_⟩,
    flatMap_links_classify tables, classify_append tables more⟩
  rw [← classify_append, ← classify_append, List.append_assoc, List.singleton_append]

end TableGraph
