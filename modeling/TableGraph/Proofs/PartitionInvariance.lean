/-
Dividing tables does not show: of tables in memory the same graph and the same report come out for all options, dialects
and reported numbers of rows.

The ranges of a divided table cover its rows whatever number they were made for, so each table is loaded as if it were
fetched at once; and descriptions with other numbers of rows give the same graph.
-/
import TableGraph.Proofs.MemoryRuns

namespace TableGraph

/-- **Partitioning is invisible.** For any tables in memory, any two options and dialects, and any two accounts of how many
rows the tables have, right or wrong or failing, both conversions succeed with the same graph and the same report. -/
theorem convert_divided_eq {ι : Type} (store : MemorySource) (ids : Nat → ι) (dialect dialect' : Dialect)
    (rowCount rowCount' : TableName → Except SourceError Nat) (options options' : RetrievalOptions) :
    ∃ result : Graph ι × Report,
      (convert { store.toSource with dialect := dialect, rowCount := rowCount } options ids).value = .ok result ∧
      (convert { store.toSource with dialect := dialect', rowCount := rowCount' } options' ids).value = .ok result := by
  have hresult (dialect : Dialect) (rowCount : TableName → Except SourceError Nat) (options : RetrievalOptions) :=
    store.convert_memory dialect rowCount store.run options ids
  refine ⟨_, hresult dialect rowCount options, (hresult dialect' rowCount' options').trans (congrArg _ ?_)⟩
  apply assemble_congr
  · exact (store.loaded_answering dialect' rowCount' options').trans
      (store.loaded_answering dialect rowCount options).symm
  · exact (store.failedNames_answering dialect' rowCount' options').trans
      (store.failedNames_answering dialect rowCount options).symm

end TableGraph
