/-
Bags of values are maps from names to values: a bag is known by what is found in it, and a bag made from a list gives each
name the last value that the list has for it.

Results:
- `PropertyBag.ext`: bags in which the same is found are equal.
- `PropertyBag.get?_ofList`: what is found in a bag that is made from a list.
- `PropertyBag.get?_ofNames`: the same for a list that gives each name its value under a function.
- `PropertyBag.entries_ofList_perm`: a bag that is made from a list without repeated names has all of its values.
-/
import Mathlib.Tactic
import TableGraph.Value.Bag

namespace TableGraph.PropertyBag

/-! ## Bags are known by what is found in them -/

theorem lookup_eq_none_of_lt {name : String} {entries : List (String × Value)} (h : ∀ entry ∈ entries, name < entry.1) :
    lookup name entries = none := by
  induction entries with
  | nil => rfl
  | cons first rest ih =>
    have hne : first.1 ≠ name := fun heq => String.lt_irrefl name (heq ▸ h first List.mem_cons_self)
    rw [lookup, if_neg hne]
    exact ih fun entry hmem => h entry (List.mem_cons_of_mem first hmem)

@[simp] theorem lookup_cons_self (entry : String × Value) (rest : List (String × Value)) :
    lookup entry.1 (entry :: rest) = some entry.2 := if_pos rfl

/-- the first name of a sorted list is found in no sorted list that begins after it -/
theorem not_lt_of_lookup_eq {first other : String × Value} {rest others : List (String × Value)}
    (hsorted : (other :: others).Pairwise fun a b => a.1 < b.1)
    (h : lookup first.1 (first :: rest) = lookup first.1 (other :: others)) : ¬first.1 < other.1 := by
  intro hlt
  have hnone : lookup first.1 (other :: others) = none := by
    refine lookup_eq_none_of_lt fun entry hmem => ?_
    rcases List.mem_cons.mp hmem with rfl | hmem
    · exact hlt
    · exact String.lt_trans hlt ((List.pairwise_cons.mp hsorted).1 entry hmem)
  simp [hnone] at h

theorem entries_ext {entries others : List (String × Value)} (hentries : entries.Pairwise fun a b => a.1 < b.1)
    (hothers : others.Pairwise fun a b => a.1 < b.1) (h : ∀ name, lookup name entries = lookup name others) :
    entries = others := by
  induction entries generalizing others with
  | nil =>
    cases others with
    | nil => rfl
    | cons other rest => simpa [lookup] using h other.1
  | cons first rest ih =>
    cases others with
    | nil => simpa [lookup] using h first.1
    | cons other others =>
      have hname : first.1 = other.1 := eq_of_not_lt (not_lt_of_lookup_eq hothers (h first.1))
        (not_lt_of_lookup_eq hentries (h other.1).symm)
      have hvalue : first.2 = other.2 := by
        have hfound := h first.1
        rw [lookup_cons_self, hname, lookup_cons_self] at hfound
        exact Option.some.inj hfound
      obtain ⟨hfirst, hrest⟩ := List.pairwise_cons.mp hentries
      obtain ⟨hother, hothers⟩ := List.pairwise_cons.mp hothers
      have htail : rest = others := by
        refine ih hrest hothers fun name => ?_
        have hfound := h name
        by_cases heq : first.1 = name
        · subst heq
          rw [lookup_eq_none_of_lt hfirst, lookup_eq_none_of_lt fun entry hmem => hname ▸ hother entry hmem]
        · rwa [lookup, if_neg heq, lookup, if_neg (hname ▸ heq)] at hfound
      rw [htail, Prod.ext hname hvalue]

/-- **A bag is known by what is found in it** -/
theorem ext {a b : PropertyBag} (h : ∀ name, a.get? name = b.get? name) : a = b := by
  obtain ⟨entries, hentries⟩ := a
  obtain ⟨others, hothers⟩ := b
  obtain rfl := entries_ext hentries hothers h
  rfl

/-! ## Bags made from lists -/

/-- **Of several values of a name the last one counts** -/
theorem get?_ofList (entries : List (String × Value)) (name : String) :
    (ofList entries).get? name = lookup name entries.reverse := by
  induction entries using List.reverseRecOn with
  | nil => rfl
  | append_singleton entries entry ih =>
    have hinsert : ofList (entries ++ [entry]) = (ofList entries).insert entry.1 entry.2 := by
      rw [ofList, List.foldl_append]
      rfl
    rw [hinsert, get?_insert, ih, List.reverse_append]
    rfl

theorem lookup_filterMap (f : String → Option Value) (names : List String) (name : String) :
    lookup name (names.filterMap fun n => (f n).map fun value => (n, value)) = if name ∈ names then f name else none := by
  induction names with
  | nil => rfl
  | cons first rest ih =>
    by_cases hfirst : first = name
    · subst hfirst
      cases hvalue : f first with
      | none => simp [hvalue, ih]
      | some value => simp [hvalue, lookup]
    · have hne : name ≠ first := Ne.symm hfirst
      cases hvalue : f first with
      | none => simp [hvalue, ih, hne]
      | some value => simp [hvalue, lookup, ih, hfirst, hne]

/-- in a bag that gives names their values under a function, these are found -/
theorem get?_ofNames (f : String → Option Value) (names : List String) (name : String) :
    (ofList (names.filterMap fun n => (f n).map fun value => (n, value))).get? name =
      if name ∈ names then f name else none := by
  rw [get?_ofList, ← List.filterMap_reverse, lookup_filterMap]
  simp only [List.mem_reverse]

/-! ## Lists without repeated names -/

/-- a name that has no value yet is added -/
theorem insertEntry_perm {name : String} {entries : List (String × Value)} (h : name ∉ entries.map (·.1))
    (value : Value) : (insertEntry name value entries).Perm ((name, value) :: entries) := by
  induction entries with
  | nil => rfl
  | cons first rest ih =>
    obtain ⟨other, old⟩ := first
    obtain ⟨hother, hrest⟩ := not_or.mp (mt List.mem_cons.mpr h)
    unfold insertEntry
    split
    · rfl
    · next hlt =>
      split
      · exact ((ih hrest).cons (other, old)).trans (List.Perm.swap ..)
      · next hgt => exact absurd (eq_of_not_lt hlt hgt) hother

/-- **A bag made from a list without repeated names** has all values of the list -/
theorem entries_ofList_perm {entries : List (String × Value)} (h : (entries.map (·.1)).Nodup) :
    (ofList entries).entries.Perm entries := by
  induction entries using List.reverseRecOn with
  | nil => rfl
  | append_singleton entries entry ih =>
    rw [List.map_append, List.nodup_append] at h
    obtain ⟨hentries, -, hapart⟩ := h
    have hbag := ih hentries
    have hnew : entry.1 ∉ (ofList entries).entries.map (·.1) := by
      rw [(hbag.map _).mem_iff]
      intro hmem
      exact hapart _ hmem _ (List.mem_singleton.mpr rfl) rfl
    have hlast : (ofList (entries ++ [entry])).entries = insertEntry entry.1 entry.2 (ofList entries).entries := by
      rw [ofList, List.foldl_append]
      rfl
    rw [hlast]
    calc
      List.Perm (insertEntry entry.1 entry.2 (ofList entries).entries) (entry :: (ofList entries).entries) :=
        insertEntry_perm hnew entry.2
      List.Perm _ (entry :: entries) := hbag.cons entry
      List.Perm _ (entries ++ [entry]) := (List.perm_append_singleton entry entries).symm

/-- what is found in a bag are its entries -/
theorem get?_eq_some_iff {bag : PropertyBag} {name : String} {value : Value} :
    bag.get? name = some value ↔ (name, value) ∈ bag.entries := by
  obtain ⟨entries, sorted⟩ := bag
  simp only [get?]
  induction entries with
  | nil => simp [lookup]
  | cons first rest ih =>
    obtain ⟨hfirst, hrest⟩ := List.pairwise_cons.mp sorted
    by_cases hname : first.1 = name
    · -- the names ascend, so that none occurs twice
      have habsent : (name, value) ∉ rest := by
        intro hmem
        have hlt := hfirst (name, value) hmem
        exact String.lt_irrefl name (hname ▸ hlt)
      subst hname
      rw [lookup_cons_self, List.mem_cons, or_iff_left habsent]
      constructor
      · intro h
        exact Prod.ext rfl (Option.some.inj h).symm
      · intro h
        exact congrArg some (congrArg Prod.snd h).symm
    · have hne : (name, value) ≠ first := by
        rintro rfl
        exact hname rfl
      rw [lookup, if_neg hname, ih hrest, List.mem_cons, or_iff_right hne]

end TableGraph.PropertyBag
