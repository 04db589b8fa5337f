/-
Junctions have no direction. The edges of a junction come in pairs that run in opposite directions between the same two
vertices and are alike in everything else, and it makes no difference which of its two references counts as the first.

The join does tell its sides apart: the second reference of a row is only looked up if the first has found a vertex, and
the loops over what they find are nested in this order. What a row gives is in both cases every vertex of one side with
every vertex of the other, and it dangles if either side is empty.

Results:
- `JunctionRule.nestedLoops_eq_pairs`: the links of a junction are pairs of a link and its mirror image.
- `JunctionRule.nestedLoops_swap_perm`, `JunctionRule.danglingCount_swap`: links and dangling references with the sides
  exchanged.
- `junction_edges_symmetric`: the edges of a junction, among those of other rules.
-/
import TableGraph.Proofs.NestedLoops

namespace TableGraph

variable {ι : Type}

/-- a link in the opposite direction -/
def Link.mirror (link : Link ι) : Link ι := ⟨link.label, link.target, link.source, link.properties⟩

/-- two nested loops may be exchanged, up to the order of what they give -/
theorem flatMap_exchange_perm {α β γ : Type} (xs : List α) (ys : List β) (f : α → β → List γ) :
    (xs.flatMap fun x => ys.flatMap (f x)).Perm (ys.flatMap fun y => xs.flatMap fun x => f x y) := by
  simp only [← Multiset.coe_eq_coe, ← Multiset.coe_bind]
  exact Multiset.bind_bind _ _

namespace JunctionRule

/-- the junction with its sides exchanged -/
def swap (rule : JunctionRule) : JunctionRule := { rule with one := rule.two, two := rule.one }

variable (rule : JunctionRule)

theorem extraProperties_swap (row : PropertyBag) : rule.swap.extraProperties row = rule.extraProperties row := by
  simp only [extraProperties, swap, Bool.and_comm]

theorem linkPair_eq (label : String) (properties : PropertyBag) (one two : ι) :
    linkPair label properties one two =
      [⟨label, one, two, properties⟩, (⟨label, one, two, properties⟩ : Link ι).mirror] := rfl

/-- the link from the first to the second side, for every match of a row on both sides -/
def forwardLinks (vertices : List (Vertex ι)) (rows : List PropertyBag) : List (Link ι) :=
  rows.flatMap fun row => (rule.one.partners vertices row).flatMap fun one =>
    (rule.two.partners vertices row).map fun two => ⟨rule.label, one, two, rule.extraProperties row⟩

theorem label_of_mem_forwardLinks {vertices : List (Vertex ι)} {rows : List PropertyBag} {link : Link ι}
    (h : link ∈ rule.forwardLinks vertices rows) : link.label = rule.label := by
  simp only [forwardLinks, List.mem_flatMap, List.mem_map] at h
  obtain ⟨row, -, one, -, two, -, rfl⟩ := h
  rfl

/-- **The links of a junction are pairs** of a link and its mirror image -/
theorem nestedLoops_eq_pairs (vertices : List (Vertex ι)) (rows : List PropertyBag) :
    rule.nestedLoops vertices rows = (rule.forwardLinks vertices rows).flatMap fun link => [link, link.mirror] := by
  simp only [nestedLoops, linksBetween, linkPair_eq, forwardLinks, List.flatMap_assoc, List.flatMap_map]

/-- **The sides of a junction may be exchanged**: its links are the same, each as often -/
theorem nestedLoops_swap_perm (vertices : List (Vertex ι)) (rows : List PropertyBag) :
    (rule.swap.nestedLoops vertices rows).Perm (rule.nestedLoops vertices rows) := by
  refine List.Perm.flatMap_left rows fun row _ => ?_
  set ones := rule.one.partners vertices row
  set twos := rule.two.partners vertices row
  let pair := fun one two : ι => linkPair rule.label (rule.extraProperties row) one two
  calc rule.swap.linksBetween row twos ones
    _ = twos.flatMap fun two => ones.flatMap fun one => pair two one := by
      rw [linksBetween, extraProperties_swap]
      rfl
    List.Perm _ (ones.flatMap fun one => twos.flatMap fun two => pair two one) :=
      flatMap_exchange_perm twos ones fun two one => pair two one
    List.Perm _ (ones.flatMap fun one => twos.flatMap fun two => pair one two) := by
      refine List.Perm.flatMap_left ones fun one _ => List.Perm.flatMap_left twos fun two _ => ?_
      exact List.Perm.swap _ _ _

/-- **A row dangles on either side**: which of the two is looked up first plays no part -/
theorem danglingCount_swap (vertices : List (Vertex ι)) (rows : List PropertyBag) :
    rule.swap.danglingCount vertices rows = rule.danglingCount vertices rows := by
  unfold danglingCount
  congr 1
  funext row
  simp only [swap, Bool.or_comm, Bool.and_comm]

end JunctionRule

/-! ## Edges -/

theorem identifyLinks_append (ids : Nat → ι) (start : Nat) (links others : List (Link ι)) :
    identifyLinks ids start (links ++ others) =
      identifyLinks ids start links ++ identifyLinks ids (start + links.length) others := by
  simp only [identifyLinks, List.mapIdx_append, Nat.add_comm, Nat.add_left_comm]

theorem length_identifyLinks (ids : Nat → ι) (start : Nat) (links : List (Link ι)) :
    (identifyLinks ids start links).length = links.length :=
  List.length_mapIdx

/-- links that come with their mirror images become edges that do -/
theorem exists_pairs (ids : Nat → ι) (start : Nat) (links : List (Link ι)) :
    ∃ pairs : List (Edge ι × Edge ι),
      identifyLinks ids start (links.flatMap fun link => [link, link.mirror]) =
        pairs.flatMap (fun pair => [pair.1, pair.2]) ∧
      pairs.map (·.1.link) = links ∧ ∀ pair ∈ pairs, pair.2.link = pair.1.link.mirror := by
  induction links generalizing start with
  | nil => exact ⟨[], rfl, rfl, nofun⟩
  | cons link rest ih =>
    obtain ⟨pairs, hedges, hlinks, hmirror⟩ := ih (start + 2)
    let first : Edge ι := ⟨ids start, link.label, link.source, link.target, link.properties⟩
    let second : Edge ι := ⟨ids (start + 1), link.label, link.target, link.source, link.properties⟩
    refine ⟨(first, second) :: pairs, ?_, ?_, ?_⟩
    · rw [List.flatMap_cons, identifyLinks_append, List.flatMap_cons]
      exact congrArg ([first, second] ++ ·) hedges
    · rw [List.map_cons, hlinks]
      rfl
    · exact List.forall_mem_cons.mpr ⟨rfl, hmirror⟩

variable (ids : Nat → ι) (start : Nat) (vertices : List (Vertex ι)) (rule : JunctionRule)
  (before behind : List EdgeRule) (junctions : List LoadedTable)

/-- **The edges of a junction** stand together as pairs, between those of the rules before and behind it -/
theorem exists_pairs_between :
    ∃ pairs : List (Edge ι × Edge ι),
      let earlier := (buildEdges ids start vertices before junctions).edges
      let later := (buildEdges ids (start + earlier.length + 2 * pairs.length) vertices behind junctions).edges
      (buildEdges ids start vertices (before ++ .junction rule :: behind) junctions).edges =
        earlier ++ pairs.flatMap (fun pair => [pair.1, pair.2]) ++ later ∧
      ∀ pair ∈ pairs, pair.1.label = rule.label ∧ pair.2.link = pair.1.link.mirror := by
  have hlinks : (EdgeRule.junction rule).nestedLoops vertices junctions =
      (rule.forwardLinks vertices (rule.rowsIn junctions)).flatMap fun link => [link, link.mirror] :=
    rule.nestedLoops_eq_pairs vertices _
  set earlier := (buildEdges ids start vertices before junctions).edges with hearlier
  have hlength : earlier.length = (before.flatMap fun rule => rule.nestedLoops vertices junctions).length := by
    simp only [hearlier, buildEdges_eq, length_identifyLinks]
  obtain ⟨pairs, hpairs, hfirsts, hmirror⟩ :=
    exists_pairs ids (start + earlier.length) (rule.forwardLinks vertices (rule.rowsIn junctions))
  have hcount : (rule.forwardLinks vertices (rule.rowsIn junctions)).length = pairs.length := by
    rw [← hfirsts, List.length_map]
  have hdouble : ((EdgeRule.junction rule).nestedLoops vertices junctions).length = 2 * pairs.length := by
    rw [hlinks, List.length_flatMap]
    simp [hcount, Nat.mul_comm]
  refine ⟨pairs, ?_, fun pair hpair => ⟨?_, hmirror pair hpair⟩⟩
  · simp only [hearlier, buildEdges_eq, List.flatMap_append, List.flatMap_cons, identifyLinks_append,
      length_identifyLinks, hdouble]
    rw [hlinks, ← hlength, hpairs, List.append_assoc]
  · have hlink : pair.1.link ∈ pairs.map (·.1.link) := List.mem_map.mpr ⟨pair, hpair, rfl⟩
    rw [hfirsts] at hlink
    exact rule.label_of_mem_forwardLinks hlink

/-- the links of the rules of a kind are the same with the sides of one junction exchanged, each as often -/
theorem flatMap_nestedLoops_swap_perm (keep : EdgeRule → Bool) (hkeep : keep (.junction rule.swap) = keep (.junction rule)) :
    (((before ++ .junction rule.swap :: behind).filter keep).flatMap fun rule => rule.nestedLoops vertices junctions).Perm
      (((before ++ .junction rule :: behind).filter keep).flatMap fun rule => rule.nestedLoops vertices junctions) := by
  have hswap : ((EdgeRule.junction rule.swap).nestedLoops vertices junctions).Perm
      ((EdgeRule.junction rule).nestedLoops vertices junctions) := rule.nestedLoops_swap_perm vertices _
  simp only [List.filter_append, List.filter_cons, hkeep, List.flatMap_append]
  refine List.Perm.append_left _ ?_
  split
  · exact hswap.append_right _
  · exact List.Perm.refl _

/-- **Junctions are symmetric.** Wherever a junction stands among the rules, its edges stand together, between those of the
rules before and behind it, and they are consecutive pairs of an edge and its mirror image, with the label of the junction.
If the sides of the junction are exchanged, the run has the same edges but for order and identifiers, and the same counts. -/
theorem junction_edges_symmetric :
    let run := fun rule : JunctionRule => buildEdges ids start vertices (before ++ .junction rule :: behind) junctions
    (∃ pairs : List (Edge ι × Edge ι),
      let earlier := (buildEdges ids start vertices before junctions).edges
      let later := (buildEdges ids (start + earlier.length + 2 * pairs.length) vertices behind junctions).edges
      (run rule).edges = earlier ++ pairs.flatMap (fun pair => [pair.1, pair.2]) ++ later ∧
      ∀ pair ∈ pairs, pair.1.label = rule.label ∧ pair.2.link = pair.1.link.mirror) ∧
    ((run rule.swap).edges.map (·.link)).Perm ((run rule).edges.map (·.link)) ∧
    (run rule.swap).junctionEdges = (run rule).junctionEdges ∧
    (run rule.swap).directEdges = (run rule).directEdges ∧
    (run rule.swap).danglingReferences = (run rule).danglingReferences := by
  intro run
  have hkept := flatMap_nestedLoops_swap_perm vertices rule before behind junctions
  refine ⟨exists_pairs_between ids start vertices rule before behind junctions, ?_, ?_, ?_, ?_⟩
  · have hall := hkept (fun _ => true) rfl
    simp only [List.filter_true] at hall
    simp only [run, buildEdges_eq, links_identifyLinks]
    exact hall
  · simp only [run, buildEdges_eq]
    exact (hkept (fun rule => !rule.isDirected) rfl).length_eq
  · simp only [run, buildEdges_eq]
    exact (hkept (·.isDirected) rfl).length_eq
  · have hdangling : (EdgeRule.junction rule.swap).danglingCount vertices junctions =
        (EdgeRule.junction rule).danglingCount vertices junctions := rule.danglingCount_swap vertices _
    simp only [run, buildEdges_eq, List.map_append, List.map_cons, hdangling]

end TableGraph
