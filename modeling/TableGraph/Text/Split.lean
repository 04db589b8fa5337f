/-
Cutting a text at a mark: at its first or at its last occurrence, or at every one. The mark itself belongs to no part.

`splitFirst_eq_some_iff`, `splitLast_eq_some` and `splitLast_append` say which parts these are: nothing is lost, and the mark
does not occur before its first or after its last occurrence.
-/

namespace TableGraph.Text

/-- the parts before and after the first occurrence of a mark -/
def splitFirst (mark : List Char) : List Char → Option (List Char × List Char)
  | [] => if mark.isEmpty then some ([], []) else none
  | c :: rest =>
    if mark.isPrefixOf (c :: rest) then some ([], (c :: rest).drop mark.length)
    else (splitFirst mark rest).map fun (before, after) => (c :: before, after)

/-- the parts before and after the last occurrence of a character -/
def splitLast (mark : Char) : List Char → Option (List Char × List Char)
  | [] => none
  | c :: rest =>
    match splitLast mark rest with
    | some (before, after) => some (c :: before, after)
    | none => if c = mark then some ([], rest) else none

/-- the parts between the occurrences of a character -/
def splitAll (mark : Char) : List Char → List (List Char)
  | [] => [[]]
  | c :: rest =>
    if c = mark then [] :: splitAll mark rest
    else
      match splitAll mark rest with
      | [] => [[c]]
      | part :: parts => (c :: part) :: parts

/-- with the mark behind it, a text contains the mark only there -/
def EndsAtFirst (mark before : List Char) : Prop := ∀ s t, before ++ mark = s ++ mark ++ t → t = []

theorem endsAtFirst_nil (mark : List Char) : EndsAtFirst mark [] := by
  intro s t h
  have hlength := congrArg List.length h
  simp only [List.length_append, List.length_nil] at hlength
  exact List.eq_nil_of_length_eq_zero (by omega)

/-- a text that starts with the mark ends with it for the first time only if it is the mark -/
theorem EndsAtFirst.eq_nil_of_prefix {mark before after : List Char} (h : EndsAtFirst mark before)
    (hmark : mark <+: before ++ mark ++ after) : before = [] := by
  obtain ⟨t, ht⟩ := List.prefix_of_prefix_length_le hmark (List.prefix_append _ after) (by simp)
  have hnil : t = [] := h [] t (by simpa using ht.symm)
  rw [hnil, List.append_nil] at ht
  simpa using ht

/-- a character in front of a text is no first occurrence if the longer text does not start with the mark -/
theorem endsAtFirst_cons_iff {mark before after : List Char} {c : Char} (h : ¬mark <+: c :: (before ++ mark ++ after)) :
    EndsAtFirst mark (c :: before) ↔ EndsAtFirst mark before := by
  constructor
  · intro hfirst s t heq
    exact hfirst (c :: s) t (by simp [heq])
  · intro hfirst s t heq
    cases s with
    | nil =>
      refine absurd ⟨t ++ after, ?_⟩ h
      rw [List.nil_append] at heq
      rw [← List.append_assoc, ← heq, List.cons_append, List.cons_append]
    | cons d s => exact hfirst s t (List.cons.inj heq).2

/-- the first occurrence of a single character -/
theorem endsAtFirst_singleton_iff {c : Char} {before : List Char} : EndsAtFirst [c] before ↔ c ∉ before := by
  constructor
  · intro hfirst hmem
    obtain ⟨s, t, rfl⟩ := List.append_of_mem hmem
    have htail := hfirst s (t ++ [c]) (by simp)
    simp at htail
  · intro hmem s t heq
    refine Classical.byContradiction fun ht => hmem ?_
    have hbefore : s ++ [c] <+: before := by
      refine List.prefix_of_prefix_length_le ⟨t, heq.symm⟩ (List.prefix_append _ _) ?_
      have hlength := congrArg List.length heq
      have hpos := List.length_pos_iff.mpr ht
      simp only [List.length_append, List.length_cons, List.length_nil] at hlength ⊢
      omega
    exact hbefore.subset (by simp)

theorem splitFirst_eq_some_iff {mark s before after : List Char} :
    splitFirst mark s = some (before, after) ↔ s = before ++ mark ++ after ∧ EndsAtFirst mark before := by
  induction s generalizing before with
  | nil =>
    simp only [splitFirst, List.isEmpty_iff, Option.ite_none_right_eq_some, Option.some.injEq, Prod.mk.injEq]
    constructor
    · rintro ⟨rfl, rfl, rfl⟩
      exact ⟨rfl, endsAtFirst_nil []⟩
    · rintro ⟨h, -⟩
      simp_all
  | cons c rest ih =>
    simp only [splitFirst, List.isPrefixOf_iff_prefix]
    split
    · rename_i hmark
      constructor
      · intro h
        simp only [Option.some.injEq, Prod.mk.injEq] at h
        obtain ⟨rfl, rfl⟩ := h
        obtain ⟨tail, htail⟩ := hmark
        exact ⟨by simp [← htail], endsAtFirst_nil mark⟩
      · rintro ⟨heq, hfirst⟩
        obtain rfl := hfirst.eq_nil_of_prefix (heq ▸ hmark)
        simp [heq]
    · rename_i hmark
      cases before with
      | nil =>
        have hstart : c :: rest ≠ mark ++ after := fun heq => hmark ⟨after, heq.symm⟩
        simp [hstart]
      | cons d before =>
        simp only [Option.map_eq_some_iff, Prod.exists, Prod.mk.injEq, List.cons.injEq, List.cons_append]
        constructor
        · rintro ⟨b, a, hinner, ⟨rfl, rfl⟩, rfl⟩
          obtain ⟨rfl, hfirst⟩ := ih.mp hinner
          exact ⟨⟨rfl, rfl⟩, (endsAtFirst_cons_iff hmark).mpr hfirst⟩
        · rintro ⟨⟨rfl, rfl⟩, hfirst⟩
          exact ⟨before, after, ih.mpr ⟨rfl, (endsAtFirst_cons_iff hmark).mp hfirst⟩, ⟨rfl, rfl⟩, rfl⟩

theorem splitLast_eq_none_iff {mark : Char} {s : List Char} : splitLast mark s = none ↔ mark ∉ s := by
  induction s with
  | nil => simp [splitLast]
  | cons c rest ih =>
    simp only [splitLast, List.mem_cons, not_or]
    split
    · rename_i hrest
      simp [← ih, hrest]
    · rename_i hrest
      simp [← ih, hrest, eq_comm]

theorem splitLast_append {mark : Char} {before after : List Char} (h : mark ∉ after) :
    splitLast mark (before ++ mark :: after) = some (before, after) := by
  induction before with
  | nil => simp [splitLast, splitLast_eq_none_iff.mpr h]
  | cons c before ih => simp [splitLast, ih]

theorem splitLast_eq_some {mark : Char} {s before after : List Char} (h : splitLast mark s = some (before, after)) :
    s = before ++ mark :: after ∧ mark ∉ after := by
  induction s generalizing before with
  | nil => simp [splitLast] at h
  | cons c rest ih =>
    simp only [splitLast] at h
    split at h
    · rename_i inner tail hinner
      simp only [Option.some.injEq, Prod.mk.injEq] at h
      obtain ⟨rfl, rfl⟩ := h
      obtain ⟨hrest, hmark⟩ := ih hinner
      exact ⟨by simp [hrest], hmark⟩
    · rename_i hrest
      split at h
      · rename_i hc
        simp only [Option.some.injEq, Prod.mk.injEq] at h
        obtain ⟨rfl, rfl⟩ := h
        exact ⟨by simp [hc], splitLast_eq_none_iff.mp hrest⟩
      · simp at h

end TableGraph.Text
