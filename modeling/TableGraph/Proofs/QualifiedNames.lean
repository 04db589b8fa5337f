/-
Qualified names, as texts that schema and name are joined into. The point between them is not marked in any way, so a text
with several points can be cut at each of them, and cut again it gives another table with the same qualified name.

Results:
- `TableName.qualified_eq_iff`: two tables have the same qualified name if they are the same, or if one of them is cut at
  an earlier point than the other.
- `TableName.qualified_ne_iff_apart`: so two tables have different qualified names exactly if they are apart.
-/
import Mathlib.Tactic
import TableGraph.Schema.TableName

namespace TableGraph.TableName

/-- the qualified name up to the point that ends the schema, with this point -/
def schemaPart (table : TableName) : List Char :=
  match table.schema? with
  | some schema => schema.toList ++ ['.']
  | none => []

theorem toList_qualified (table : TableName) : table.qualified.toList = table.schemaPart ++ table.name.toList := by
  unfold qualified schemaPart
  cases table.schema? with
  | none => rfl
  | some schema => simp

/-- the same table: the same name and the same schema, where an empty one is the same as none -/
def Same (a b : TableName) : Prop := a.schema? = b.schema? ∧ a.name = b.name

/-- the same text, cut at an earlier point: what is moved is in the name of the one table and in the schema of the other -/
def CutBefore (a b : TableName) : Prop :=
  ∃ moved, b.schemaPart = a.schemaPart ++ moved ++ ['.'] ∧ a.name.toList = moved ++ '.' :: b.name.toList

/-- different tables, neither of which comes from the other by cutting its qualified name at another point -/
def Apart (a b : TableName) : Prop := ¬a.Same b ∧ ¬a.CutBefore b ∧ ¬b.CutBefore a

theorem schema?_eq_of_schemaPart {a b : TableName} (h : a.schemaPart = b.schemaPart) : a.schema? = b.schema? := by
  unfold schemaPart at h
  cases ha : a.schema? with
  | none =>
    cases hb : b.schema? with
    | none => rfl
    | some t => simp [ha, hb] at h
  | some s =>
    cases hb : b.schema? with
    | none => simp [ha, hb] at h
    | some t =>
      simp only [ha, hb, List.append_left_inj] at h
      rw [String.toList_injective h]

/-- a part that is not empty ends in a point -/
theorem eq_point_of_schemaPart {table : TableName} {s : List Char} {c : Char} (h : table.schemaPart = s ++ [c]) :
    c = '.' := by
  unfold schemaPart at h
  split at h
  · exact (List.singleton_inj.mp (List.append_inj_right' h rfl)).symm
  · simp at h

/-- **When qualified names are the same**: the tables are, or the one text is cut at two points -/
theorem qualified_eq_iff {a b : TableName} :
    a.qualified = b.qualified ↔ a.Same b ∨ a.CutBefore b ∨ b.CutBefore a := by
  -- if the schema of `b` ends later, what lies between the two cuts ends in the point of `b`
  have hcut {a b : TableName} {between : List Char} (hschema : b.schemaPart = a.schemaPart ++ between)
      (hname : a.name.toList = between ++ b.name.toList) : a.Same b ∨ a.CutBefore b := by
    rcases List.eq_nil_or_concat' between with rfl | ⟨moved, c, rfl⟩
    · rw [List.append_nil] at hschema
      exact .inl ⟨schema?_eq_of_schemaPart hschema.symm, String.toList_injective hname⟩
    · rw [← List.append_assoc] at hschema
      obtain rfl := eq_point_of_schemaPart hschema
      exact .inr ⟨moved, hschema, by simpa using hname⟩
  rw [← String.toList_inj, toList_qualified, toList_qualified]
  constructor
  · intro h
    rcases List.append_eq_append_iff.mp h with ⟨between, hschema, hname⟩ | ⟨between, hschema, hname⟩
    · exact (hcut hschema hname).elim .inl fun h => .inr (.inl h)
    · rcases hcut hschema hname with ⟨hschema, hname⟩ | h
      · exact .inl ⟨hschema.symm, hname.symm⟩
      · exact .inr (.inr h)
  · rintro (⟨hschema, hname⟩ | ⟨moved, hschema, hname⟩ | ⟨moved, hschema, hname⟩)
    · rw [schemaPart, schemaPart, hschema, hname]
    · simp [hschema, hname]
    · simp [hschema, hname]

/-- **Tables of different qualified names** -/
theorem qualified_ne_iff_apart {a b : TableName} : a.qualified ≠ b.qualified ↔ a.Apart b := by
  rw [Ne, qualified_eq_iff, not_or, not_or, Apart]

end TableGraph.TableName
