/-
Bags of named values: at most one value per name, kept in the order of names. Two bags with the same values are equal.

`get?_insert` and `get?_filterNames` describe the operations by what they leave to be found.
-/
import TableGraph.Value.Basic

namespace TableGraph

/-- named values in the order of their names -/
structure PropertyBag where
  entries : List (String × Value)
  sorted : entries.Pairwise fun a b => a.1 < b.1
  deriving DecidableEq, Repr

namespace PropertyBag

/-- no values -/
def empty : PropertyBag := ⟨[], .nil⟩

instance : EmptyCollection PropertyBag := ⟨empty⟩
instance : Inhabited PropertyBag := ⟨empty⟩

/-- the value of a name in a list of named values -/
def lookup (name : String) : List (String × Value) → Option Value
  | [] => none
  | (other, value) :: rest => if other = name then some value else lookup name rest

/-- the value of a name -/
def get? (bag : PropertyBag) (name : String) : Option Value := lookup name bag.entries

/-- gives a name a value, in place of the one it may have had -/
def insertEntry (name : String) (value : Value) : List (String × Value) → List (String × Value)
  | [] => [(name, value)]
  | (other, old) :: rest =>
    if name < other then (name, value) :: (other, old) :: rest
    else if other < name then (other, old) :: insertEntry name value rest
    else (name, value) :: rest

theorem mem_insertEntry {name : String} {value : Value} {entries : List (String × Value)} {entry : String × Value}
    (h : entry ∈ insertEntry name value entries) : entry = (name, value) ∨ entry ∈ entries := by
  induction entries with
  | nil => simpa [insertEntry] using h
  | cons first rest ih =>
    obtain ⟨other, old⟩ := first
    unfold insertEntry at h
    split at h
    · simpa using h
    · split at h
      · rcases List.mem_cons.mp h with h | h
        · exact .inr (h ▸ List.mem_cons_self)
        · exact (ih h).imp_right fun h => List.mem_cons_of_mem _ h
      · rcases List.mem_cons.mp h with h | h
        · exact .inl h
        · exact .inr (List.mem_cons_of_mem _ h)

theorem eq_of_not_lt {a b : String} (hab : ¬a < b) (hba : ¬b < a) : a = b :=
  String.le_antisymm (String.not_lt.mp hba) (String.not_lt.mp hab)

theorem sorted_insertEntry (name : String) (value : Value) {entries : List (String × Value)}
    (h : entries.Pairwise fun a b => a.1 < b.1) : (insertEntry name value entries).Pairwise fun a b => a.1 < b.1 := by
  induction entries with
  | nil => simp [insertEntry]
  | cons first rest ih =>
    obtain ⟨other, old⟩ := first
    obtain ⟨hfirst, hrest⟩ := List.pairwise_cons.mp h
    unfold insertEntry
    split
    · next hlt =>
      refine List.pairwise_cons.mpr ⟨fun entry hmem => ?_, h⟩
      rcases List.mem_cons.mp hmem with heq | hmem
      · exact heq ▸ hlt
      · exact String.lt_trans hlt (hfirst entry hmem)
    · split
      · next hgt =>
        refine List.pairwise_cons.mpr ⟨fun entry hmem => ?_, ih hrest⟩
        rcases mem_insertEntry hmem with heq | hmem
        · exact heq ▸ hgt
        · exact hfirst entry hmem
      · next hlt hgt =>
        have heq := eq_of_not_lt hlt hgt
        exact List.pairwise_cons.mpr ⟨fun entry hmem => heq ▸ hfirst entry hmem, hrest⟩

/-- gives a name a value, in place of the one it may have had -/
def insert (bag : PropertyBag) (name : String) (value : Value) : PropertyBag :=
  ⟨insertEntry name value bag.entries, sorted_insertEntry name value bag.sorted⟩

/-- the values whose names satisfy a condition -/
def filterNames (bag : PropertyBag) (keep : String → Bool) : PropertyBag :=
  ⟨bag.entries.filter fun entry => keep entry.1, bag.sorted.filter _⟩

/-- the number of values -/
def size (bag : PropertyBag) : Nat := bag.entries.length

theorem lookup_insertEntry (name : String) (value : Value) (entries : List (String × Value)) (wanted : String) :
    lookup wanted (insertEntry name value entries) = if name = wanted then some value else lookup wanted entries := by
  induction entries with
  | nil => simp [insertEntry, lookup]
  | cons first rest ih =>
    obtain ⟨other, old⟩ := first
    unfold insertEntry
    split
    · simp [lookup]
    · next hlt =>
      split
      · next hgt =>
        by_cases hother : other = wanted
        · have hne : name ≠ wanted := fun h => String.lt_irrefl other ((h.trans hother.symm) ▸ hgt)
          simp [lookup, hother, hne]
        · simp [lookup, hother, ih]
      · by_cases hother : other = wanted <;> simp [lookup, eq_of_not_lt hlt ‹_›, hother]

theorem get?_insert (bag : PropertyBag) (name : String) (value : Value) (wanted : String) :
    (bag.insert name value).get? wanted = if name = wanted then some value else bag.get? wanted :=
  lookup_insertEntry name value bag.entries wanted

theorem get?_filterNames (bag : PropertyBag) (keep : String → Bool) (wanted : String) :
    (bag.filterNames keep).get? wanted = if keep wanted then bag.get? wanted else none := by
  obtain ⟨entries, sorted⟩ := bag
  simp only [get?, filterNames]
  clear sorted
  induction entries with
  | nil => simp [lookup]
  | cons first rest ih =>
    obtain ⟨other, value⟩ := first
    by_cases hother : other = wanted
    · subst hother
      cases hkeep : keep other <;> simp [lookup, hkeep, ih]
    · cases hkeep : keep other <;> simp [lookup, hkeep, hother, ih]

/-- the bag of these values; of several values of a name the last one counts -/
def ofList (entries : List (String × Value)) : PropertyBag :=
  entries.foldl (fun bag entry => bag.insert entry.1 entry.2) empty

/-- the values in JSON, in the order of their names -/
def toJson (bag : PropertyBag) : Json := .object (bag.entries.map fun entry => (entry.1, entry.2.toJson))

/-- the keys of these columns joined by bars, if there are columns and each has a value -/
def compositeKey? (bag : PropertyBag) (columns : List String) : Option String :=
  if columns.isEmpty then none
  else (columns.mapM fun column => (bag.get? column).map Value.key).map fun keys => "|".intercalate keys

end PropertyBag

end TableGraph
