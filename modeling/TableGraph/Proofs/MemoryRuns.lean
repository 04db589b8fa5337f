/-
Conversion of tables in memory, by what it comes to: introspection always succeeds, and the graph is assembled from what
the plans load.

Results:
- `convert_memory`: a conversion of tables in memory gives a graph, also if some of its queries fail.
- `loaded_answering`, `failedNames_answering`: which tables are loaded depends neither on the reported numbers of rows nor
  on the dialect and the options.
-/
import TableGraph.Proofs.Assembly

namespace TableGraph

variable {ι : Type}

/-- the plans that a conversion carries out; none if introspection fails -/
def Source.plans (source : Source) (options : RetrievalOptions) : List RetrievalPlan :=
  match source.introspect.value with
  | .ok tables => (classify tables).plans source.dialect options
  | .error _ => []

/-- a conversion without its notices -/
theorem convert_value (source : Source) (options : RetrievalOptions) (ids : Nat → ι) :
    (convert source options ids).value = source.introspect.value.map fun tables =>
      assemble ids tables (loadPlans source (source.plans options)).value := by
  simp only [convert, Source.plans, Noted.value_bind]
  cases source.introspect.value <;> rfl

namespace MemorySource

variable (store : MemorySource)

/-- the number of rows is all that descriptions of the same tables differ in -/
theorem descriptions_unsized (count : TableName → Nat) :
    (store.descriptions count).map (·.unsized) = store.descriptions fun _ => 0 := by
  rw [descriptions, descriptions, List.map_map]
  rfl

/-- **A conversion of tables in memory gives a graph**, whatever becomes of its queries -/
theorem convert_memory (dialect : Dialect) (rowCount : TableName → Except SourceError Nat)
    (rows : TableQuery → Option RowRange → Except SourceError (List Row)) (options : RetrievalOptions) (ids : Nat → ι) :
    let source := store.answering dialect rowCount rows
    (convert source options ids).value =
      .ok (assemble ids (store.descriptions fun _ => 0) (loadPlans source (source.plans options)).value) := by
  intro source
  have htables := store.introspect_memory dialect rowCount rows
  rw [convert_value, htables, ← descriptions_unsized store fun name => (rowCount name).toOption.getD 0, assemble_unsized]
  rfl

/-- the plans of tables in memory, without their ranges -/
theorem plans_answering (dialect : Dialect) (rowCount : TableName → Except SourceError Nat)
    (rows : TableQuery → Option RowRange → Except SourceError (List Row)) (options : RetrievalOptions) :
    ((store.answering dialect rowCount rows).plans options).map (·.inFull) =
      ((classify (store.descriptions fun _ => 0)).plans .postgresql {}).map (·.inFull) := by
  rw [Source.plans, store.introspect_memory dialect rowCount rows]
  exact (plans_inFull _ _ _).trans (by rw [descriptions_unsized])

theorem covers_of_mem {source : Source} {options : RetrievalOptions} {plan : RetrievalPlan}
    (h : plan ∈ source.plans options) : plan.Covers := by
  unfold Source.plans at h
  split at h
  · exact covers_of_mem_plans h
  · cases h

/-- ranges and dialect play no part in what is loaded from memory -/
theorem loaded?_inFull (plan : RetrievalPlan) : store.loaded? plan.inFull = store.loaded? plan := rfl

/-- what plans load from memory, in terms of plans without ranges -/
theorem loaded_answering (dialect : Dialect) (rowCount : TableName → Except SourceError Nat) (options : RetrievalOptions) :
    let source := store.answering dialect rowCount store.run
    (loadPlans source (source.plans options)).value.loaded =
      (((classify (store.descriptions fun _ => 0)).plans .postgresql {}).map (·.inFull)).filterMap store.loaded? := by
  intro source
  rw [loadPlans_loaded, ← store.plans_answering dialect rowCount store.run options, List.filterMap_map]
  exact List.filterMap_congr fun plan hplan => store.loaded?_memory rfl (covers_of_mem hplan)

/-- which plans load nothing from memory, in terms of plans without ranges -/
theorem failedNames_answering (dialect : Dialect) (rowCount : TableName → Except SourceError Nat)
    (options : RetrievalOptions) :
    let source := store.answering dialect rowCount store.run
    (loadPlans source (source.plans options)).value.failedNames =
      ((((classify (store.descriptions fun _ => 0)).plans .postgresql {}).map (·.inFull)).filter fun plan =>
        (store.loaded? plan).isNone).map (·.label) := by
  intro source
  rw [loadPlans_failedNames, ← store.plans_answering dialect rowCount store.run options, List.filter_map, List.map_map]
  have hfails : ∀ plan ∈ source.plans options, plan.failsOn source = (store.loaded? plan.inFull).isNone := by
    intro plan hplan
    rw [← plan.isNone_loaded?, store.loaded?_memory rfl (covers_of_mem hplan), loaded?_inFull]
  rw [List.filter_congr hfails]
  rfl

end MemorySource

end TableGraph
