/-
Runs with different identifiers. Two conversions of a source that draw their identifiers from different streams fail with
the same error, or give the same report and the same graph up to a bijection of identifiers.

Both graphs are renamings of the graph whose identifiers are the places at which they are drawn.

Results:
- `exists_renaming`: two streams without repetitions are renamed into each other, as far as they are drawn.
- `convert_renamesTo`: two runs are isomorphic.
Witness:
- `twins_counted_down`: one run counts upwards from zero, the other one downwards.
-/
import TableGraph.Proofs.GraphIntegrity

namespace TableGraph

variable {ι κ : Type}

/-- whether one graph is another with every identifier replaced, by one bijection of their identifiers: the same vertices
and edges at the same places -/
def Graph.RenamesTo (graph : Graph ι) (other : Graph κ) : Prop :=
  ∃ f : ι → κ, Set.BijOn f {id | id ∈ graph.identifiers} {id | id ∈ other.identifiers} ∧ other = graph.rename f

/-- **Streams without repetitions are renamed into each other**, as far as they are drawn -/
theorem exists_renaming {ids : Nat → ι} {others : Nat → κ} {count : Nat} (hids : Set.InjOn ids (Set.Iio count))
    (hothers : Set.InjOn others (Set.Iio count)) :
    ∃ f : ι → κ, (∀ k < count, f (ids k) = others k) ∧ Set.BijOn f (ids '' Set.Iio count) (others '' Set.Iio count) := by
  have hf : ∀ k < count, (others ∘ Function.invFunOn ids (Set.Iio count)) (ids k) = others k :=
    fun k hk => congrArg others (hids.leftInvOn_invFunOn hk)
  refine ⟨others ∘ Function.invFunOn ids (Set.Iio count), hf, ?_, ?_, ?_⟩
  · rintro _ ⟨k, hk, rfl⟩
    exact ⟨k, hk, (hf k hk).symm⟩
  · rintro _ ⟨a, ha, rfl⟩ _ ⟨b, hb, rfl⟩ heq
    rw [hf a ha, hf b hb] at heq
    rw [hothers ha hb heq]
  · rintro _ ⟨k, hk, rfl⟩
    exact ⟨ids k, ⟨k, hk, rfl⟩, hf k hk⟩

namespace Graph

/-- the edges of a well-formed graph are renamed with its vertices -/
theorem WellFormed.rename_congr {graph : Graph ι} (h : graph.WellFormed) {f g : ι → κ}
    (hsame : ∀ id ∈ graph.identifiers, f id = g id) : graph.rename f = graph.rename g := by
  have hvertex : ∀ id, (∃! vertex, vertex ∈ graph.vertices ∧ vertex.id = id) → f id = g id := by
    rintro id ⟨vertex, ⟨hvertex, rfl⟩, -⟩
    exact hsame _ (List.mem_append_left _ (List.mem_map_of_mem hvertex))
  have hvertices : graph.vertices.map (·.rename f) = graph.vertices.map (·.rename g) := by
    refine List.map_congr_left fun vertex hmem => ?_
    rw [Vertex.rename, Vertex.rename, hsame _ (List.mem_append_left _ (List.mem_map_of_mem hmem))]
  have hedges : graph.edges.map (·.rename f) = graph.edges.map (·.rename g) := by
    refine List.map_congr_left fun edge hmem => ?_
    rw [Edge.rename, Edge.rename, hsame _ (List.mem_append_right _ (List.mem_map_of_mem hmem)),
      hvertex _ (h.source edge hmem), hvertex _ (h.target edge hmem)]
  rw [rename, rename, hvertices, hedges]

/-- a graph of a conversion that counts its identifiers has them from zero on -/
theorem identifiers_counted {source : Source} {options : RetrievalOptions} {graph : Graph Nat} {report : Report}
    (h : (convert source options id).value = .ok (graph, report)) :
    graph.identifiers = List.range graph.identifiers.length := by
  obtain ⟨tables, -, hgraph⟩ := exists_assemble_of_convert h
  have hdrawn := identifiers_assemble id tables (loadPlans source (source.plans options)).value
  rw [hgraph] at hdrawn
  simpa using hdrawn

end Graph

/-- **Two runs are isomorphic.** For any source and any two streams of which no identifier is drawn twice, both conversions
fail with the same error, or both succeed with the same report, and the second graph is the first with every identifier
replaced through one bijection. -/
theorem convert_renamesTo (source : Source) (options : RetrievalOptions) (ids : Nat → ι) (ids' : Nat → κ)
    (hids : source.DrawsDistinct options ids) (hids' : source.DrawsDistinct options ids') :
    (∃ cause, (convert source options ids).value = .error cause ∧ (convert source options ids').value = .error cause) ∨
      ∃ (graph : Graph ι) (other : Graph κ) (report : Report),
        (convert source options ids).value = .ok (graph, report) ∧
        (convert source options ids').value = .ok (other, report) ∧ graph.RenamesTo other := by
  have hrun := convert_rename ids source options id
  have hrun' := convert_rename ids' source options id
  simp only [Function.comp_id] at hrun hrun'
  -- the run that counts its identifiers decides how both end
  cases hcounted : (convert source options (id : Nat → Nat)).value with
  | error cause =>
    rw [hcounted] at hrun hrun'
    exact .inl ⟨cause, hrun, hrun'⟩
  | ok result =>
    obtain ⟨counted, report⟩ := result
    rw [hcounted] at hrun hrun'
    refine .inr ⟨counted.rename ids, counted.rename ids', report, hrun, hrun', ?_⟩
    have hwell :=
      Graph.wellFormed_of_convert (source.drawsDistinct_of_injective options Function.injective_id) hcounted
    have hplaces := Graph.identifiers_counted hcounted
    set count := counted.identifiers.length
    have hdistinct : Set.InjOn ids (Set.Iio count) := by simpa [count] using hids _ _ hrun
    have hdistinct' : Set.InjOn ids' (Set.Iio count) := by simpa [count] using hids' _ _ hrun'
    obtain ⟨f, hf, hbijection⟩ := exists_renaming hdistinct hdistinct'
    have himage {α : Type} (stream : Nat → α) : {id | id ∈ (counted.rename stream).identifiers} =
        stream '' Set.Iio count := by
      ext id
      simp [hplaces]
    refine ⟨f, ?_, ?_⟩
    · rw [himage, himage]
      exact hbijection
    · rw [Graph.rename_rename]
      refine hwell.rename_congr fun k hk => (hf k ?_).symm
      rw [hplaces] at hk
      exact List.mem_range.mp hk

/-- **Counting up or down**: the graph of the twins with negative identifiers is the one with positive ones, renamed -/
theorem twins_counted_down :
    twins.toSource.DrawsDistinct {} (id : Nat → Nat) ∧ twins.toSource.DrawsDistinct {} (fun k => -(k : Int)) ∧
    ∃ (graph : Graph Nat) (other : Graph Int) (report : Report),
      (convert twins.toSource {} id).value = .ok (graph, report) ∧
      (convert twins.toSource {} fun k => -(k : Int)).value = .ok (other, report) ∧ graph.RenamesTo other := by
  have hup : twins.toSource.DrawsDistinct {} (id : Nat → Nat) :=
    twins.toSource.drawsDistinct_of_injective {} Function.injective_id
  have hdown : twins.toSource.DrawsDistinct {} (fun k => -(k : Int)) :=
    twins.toSource.drawsDistinct_of_injective {} fun a b heq => Int.ofNat.inj (Int.neg_inj.mp heq)
  have hrun := twins.convert_memory twins.dialect twins.toSource.rowCount twins.run {} (id : Nat → Nat)
  refine ⟨hup, hdown, ?_⟩
  rcases convert_renamesTo twins.toSource {} id (fun k => -(k : Int)) hup hdown with ⟨cause, hfailed, -⟩ | hsame
  · cases hfailed.symm.trans hrun
  · exact hsame

end TableGraph
