/-
Composite keys against the keys that they are made of.

A composite key is the keys of the key columns, joined by bars. A bar in one of the keys looks like a bar between two of
them, so a composite key tells the pieces between all bars and no more. It tells the keys if it is known how many bars there
are in each, in particular if at most one column can have any: the total is known. Only a text can have a bar in its key.

Results:
- `Text.intercalate_eq_iff`: joined texts are the same if their pieces are.
- `Value.exists_text_of_bar`: a bar in a key comes from a text.
- `PropertyBag.compositeKey?_tells_keys`: when there is a composite key, and what it tells of the keys.
Witness:
- `PropertyBag.seats_told_apart`: one key with a bar, and numbers of different types.
Counterexample:
- `PropertyBag.streets_run_together`: keys that differ in each column, and have one composite key.
-/
import TableGraph.Proofs.Calls
import TableGraph.Proofs.CanonicalKeys
import TableGraph.Proofs.DecimalReading
import TableGraph.Text.Split
import TableGraph.Value.Bag

namespace TableGraph

/-! ## Joining and cutting -/

namespace Text

variable {mark : Char}

@[simp] theorem splitAll_cons_mark (rest : List Char) : splitAll mark (mark :: rest) = [] :: splitAll mark rest :=
  if_pos rfl

/-- a character that is not the mark belongs to the first piece -/
theorem splitAll_cons_of_ne {c : Char} (hc : c ≠ mark) (rest : List Char) :
    ∃ piece pieces, splitAll mark rest = piece :: pieces ∧ splitAll mark (c :: rest) = (c :: piece) :: pieces := by
  have hcut (rest : List Char) : ∃ piece pieces, splitAll mark rest = piece :: pieces := by
    induction rest with
    | nil => exact ⟨_, _, rfl⟩
    | cons d rest ih =>
      obtain ⟨piece, pieces, h⟩ := ih
      by_cases hd : d = mark
      · exact ⟨_, _, if_pos hd⟩
      · exact ⟨d :: piece, pieces, by rw [splitAll, if_neg hd, h]⟩
  obtain ⟨piece, pieces, h⟩ := hcut rest
  exact ⟨piece, pieces, h, by rw [splitAll, if_neg hc, h]⟩

/-- there is one piece more than there are marks -/
theorem length_splitAll (s : List Char) : (splitAll mark s).length = s.count mark + 1 := by
  induction s with
  | nil => rfl
  | cons c rest ih =>
    by_cases hc : c = mark
    · subst hc
      rw [splitAll_cons_mark, List.length_cons, ih, List.count_cons_self]
    · obtain ⟨piece, pieces, hrest, hcons⟩ := splitAll_cons_of_ne hc rest
      rw [hcons, List.count_cons_of_ne hc, ← ih, hrest, List.length_cons, List.length_cons]

/-- a mark between two texts is cut at -/
theorem splitAll_append_mark (s rest : List Char) :
    splitAll mark (s ++ mark :: rest) = splitAll mark s ++ splitAll mark rest := by
  induction s with
  | nil => simp [splitAll]
  | cons c s ih =>
    by_cases hc : c = mark
    · subst hc
      rw [List.cons_append, splitAll_cons_mark, splitAll_cons_mark, ih, List.cons_append]
    · obtain ⟨piece, pieces, hs, hcons⟩ := splitAll_cons_of_ne hc s
      obtain ⟨piece', pieces', hs', hcons'⟩ := splitAll_cons_of_ne hc (s ++ mark :: rest)
      rw [ih, hs, List.cons_append] at hs'
      obtain ⟨rfl, rfl⟩ := List.cons.inj hs'
      rw [List.cons_append, hcons', hcons, List.cons_append]

/-- **Joining loses where the marks come from**: what is cut again are the pieces of all parts -/
theorem splitAll_intercalate {parts : List (List Char)} (h : parts ≠ []) :
    splitAll mark ([mark].intercalate parts) = parts.flatMap (splitAll mark) := by
  induction parts with
  | nil => exact absurd rfl h
  | cons part rest ih =>
    cases rest with
    | nil => rw [List.intercalate_singleton, List.flatMap_singleton]
    | cons next rest =>
      rw [List.intercalate_cons_cons, List.append_assoc, List.singleton_append, splitAll_append_mark,
        ih (List.cons_ne_nil _ _), ← List.flatMap_cons]

/-- the pieces, joined again, are the text -/
theorem intercalate_splitAll (s : List Char) : [mark].intercalate (splitAll mark s) = s := by
  induction s with
  | nil => rfl
  | cons c rest ih =>
    by_cases hc : c = mark
    · subst hc
      obtain ⟨piece, pieces, h⟩ := List.exists_cons_of_ne_nil
        (List.ne_nil_of_length_pos (by rw [length_splitAll]; omega) : splitAll c rest ≠ [])
      rw [splitAll_cons_mark, h, List.intercalate_cons_cons, ← h, ih]
      rfl
    · obtain ⟨piece, pieces, hrest, hcons⟩ := splitAll_cons_of_ne hc rest
      rw [hrest] at ih
      rw [hcons]
      cases pieces with
      | nil => rw [List.intercalate_singleton] at ih ⊢; rw [ih]
      | cons next pieces =>
        rw [List.intercalate_cons_cons] at ih ⊢
        rw [List.cons_append, List.cons_append, ih]

/-- **Joined texts are the same** exactly if their pieces are -/
theorem intercalate_eq_iff {parts others : List (List Char)} (h : parts ≠ []) (h' : others ≠ []) :
    [mark].intercalate parts = [mark].intercalate others ↔
      parts.flatMap (splitAll mark) = others.flatMap (splitAll mark) := by
  rw [← splitAll_intercalate h, ← splitAll_intercalate h']
  exact (Function.LeftInverse.injective intercalate_splitAll).eq_iff.symm

section Columns

variable {columns : List String} {f g : String → List Char}

/-- pieces tell the texts that they are of if it is known how many marks there are in each -/
theorem eq_of_pieces_eq (hcount : ∀ column ∈ columns, (f column).count mark = (g column).count mark)
    (h : (columns.flatMap fun column => splitAll mark (f column)) = columns.flatMap fun column => splitAll mark (g column)) :
    ∀ column ∈ columns, f column = g column := by
  induction columns with
  | nil => simp
  | cons first rest ih =>
    obtain ⟨hfirst, hrest⟩ := List.forall_mem_cons.mp hcount
    rw [List.flatMap_cons, List.flatMap_cons] at h
    have hlength : (splitAll mark (f first)).length = (splitAll mark (g first)).length := by
      rw [length_splitAll, length_splitAll, hfirst]
    obtain ⟨hpieces, hothers⟩ := List.append_inj h hlength
    exact List.forall_mem_cons.mpr
      ⟨Function.LeftInverse.injective intercalate_splitAll hpieces, ih hrest hothers⟩

/-- there are as many pieces as texts, and one more for each mark -/
theorem length_pieces (columns : List String) (f : String → List Char) :
    (columns.flatMap fun column => splitAll mark (f column)).length =
      (columns.map fun column => (f column).count mark).sum + columns.length := by
  induction columns with
  | nil => rfl
  | cons first rest ih =>
    rw [List.flatMap_cons, List.length_append, ih, length_splitAll, List.map_cons, List.sum_cons, List.length_cons]
    omega

/-- the number of marks in each text follows from the pieces if only the texts of one column can have any -/
theorem count_eq_of_pieces_eq
    (hone : ∀ a ∈ columns, ∀ b ∈ columns, mark ∈ f a ∨ mark ∈ g a → mark ∈ f b ∨ mark ∈ g b → a = b)
    (h : (columns.flatMap fun column => splitAll mark (f column)) = columns.flatMap fun column => splitAll mark (g column)) :
    ∀ column ∈ columns, (f column).count mark = (g column).count mark := by
  intro column hcolumn
  have htotal := congrArg List.length h
  rw [length_pieces, length_pieces, Nat.add_right_cancel_iff] at htotal
  by_contra hne
  have hmarked : mark ∈ f column ∨ mark ∈ g column := by
    rw [← List.count_pos_iff, ← List.count_pos_iff]
    omega
  -- all marks are in this column, and so the totals are those of its texts
  have hothers (other : String) (hother : other ≠ column) (hmem : other ∈ columns) :
      (f other).count mark = 0 ∧ (g other).count mark = 0 := by
    rw [List.count_eq_zero, List.count_eq_zero, ← not_or]
    exact fun hboth => hother (hone other hmem column hcolumn hboth hmarked)
  rw [List.sum_map_eq_nsmul_single column _ fun other hother hmem => (hothers other hother hmem).1,
    List.sum_map_eq_nsmul_single column _ fun other hother hmem => (hothers other hother hmem).2, smul_eq_mul, smul_eq_mul]
    at htotal
  exact hne (Nat.eq_of_mul_eq_mul_left (List.count_pos_iff.mpr hcolumn) htotal)

end Columns

end Text

/-! ## Bars in keys -/

/-- the characters of a floating-point number -/
theorem Binary64.mem_plainText {x : Binary64} {c : Char} (h : c ∈ x.text .plain) :
    c.isDigit = true ∨ c ∈ ['-', '.', 'N', 'a', 'i', 'n', 'f'] := by
  cases x with
  | undefined =>
    simp only [text, List.mem_cons, List.not_mem_nil, or_false] at h
    rcases h with rfl | rfl | rfl <;> decide
  | infinite negative =>
    simp only [text, List.mem_append, List.mem_ite_nil_right, List.mem_cons, List.not_mem_nil, or_false] at h
    rcases h with ⟨-, rfl⟩ | rfl | rfl | rfl <;> decide
  | finite negative significand exponent canonical =>
    rw [text, List.mem_append, List.mem_ite_nil_right, List.mem_singleton] at h
    rcases h with ⟨-, rfl⟩ | h
    · decide
    · by_cases hzero : significand = 0
      · simp only [hzero, if_true, Layout.plain, Bool.false_eq_true, if_false, List.mem_singleton] at h
        exact .inl (h ▸ rfl)
      · obtain ⟨coefficient, leading, hlast, hform, -⟩ := exists_shortest_eq exponent (Nat.pos_of_ne_zero hzero)
          canonical.1 Rounding.nearestUp_eq_or
        obtain ⟨whole, scale, -, htext, -⟩ := pointed_eq hlast leading
        simp only [hzero, if_false, Layout.plain, if_true, hform, htext] at h
        rcases Decimal.mem_sizeText h with hdigit | rfl
        · exact .inl hdigit
        · decide

theorem DateTime.mem_textWith {t : DateTime} {mark c : Char} (h : c ∈ t.textWith mark) :
    c = mark ∨ c ∈ t.date.text ∨ c ∈ t.time.text := by
  rw [textWith, List.mem_append, List.mem_cons] at h
  tauto

namespace Value

/-- **A bar in a key comes from a text** -/
theorem exists_text_of_bar {v : Value} (h : '|' ∈ v.keyChars) : ∃ text, v = .string text := by
  have hdate (d : Date) : '|' ∉ d.text := fun h => by simpa using Date.mem_text h
  have htime (t : Time) : '|' ∉ t.text := fun h => by simpa using Time.mem_text h
  have hmoment {t : DateTime} {mark : Char} (hmark : '|' ≠ mark) : '|' ∉ t.textWith mark := fun h => by
    rcases DateTime.mem_textWith h with heq | hmem | hmem
    · exact hmark heq
    · exact hdate _ hmem
    · exact htime _ hmem
  cases v with
  | string text => exact ⟨text, rfl⟩
  | integer n =>
    obtain ⟨d, htext, -⟩ := Whole.exists_leastDecimal n.toInt
    rw [keyChars, htext] at h
    simpa using Decimal.mem_leastText h
  | float x => simpa using Binary64.mem_plainText h
  | decimal d =>
    rw [keyChars, d.canonicalText_eq] at h
    simpa using Decimal.mem_leastText h
  | boolean b => cases b <;> exact absurd h (by decide)
  | date d => exact absurd h (hdate d)
  | time t => exact absurd h (htime t)
  | dateTime t => exact absurd h (hmoment (by decide))
  | dateTimeUtc t =>
    rcases List.mem_append.mp h with hmem | hmem
    · exact absurd hmem (hmoment (by decide))
    · exact absurd hmem (by decide)

end Value

/-! ## Composite keys -/

namespace PropertyBag

/-- the canonical key of a column, if it has a value -/
def key? (bag : PropertyBag) (column : String) : Option String := (bag.get? column).map Value.key

/-- each of these columns has a value -/
def HasAll (bag : PropertyBag) (columns : List String) : Prop := ∀ column ∈ columns, (bag.get? column).isSome = true

instance (bag : PropertyBag) (columns : List String) : Decidable (bag.HasAll columns) :=
  inferInstanceAs (Decidable (∀ column ∈ columns, _))

/-- the characters of the canonical key of a column -/
def keyChars (bag : PropertyBag) (column : String) : List Char := ((bag.get? column).map Value.keyChars).getD []

/-- the number of bars in the key of a column -/
def bars (bag : PropertyBag) (column : String) : Nat := (bag.keyChars column).count '|'

/-- what stands between bars in the keys of columns -/
def keyPieces (bag : PropertyBag) (columns : List String) : List (List Char) :=
  columns.flatMap fun column => Text.splitAll '|' (bag.keyChars column)

/-- the value of a column is a text with a bar -/
def Barred (bag : PropertyBag) (column : String) : Prop :=
  ∃ text, bag.get? column = some (.string text) ∧ '|' ∈ text.toList

variable {bag other : PropertyBag} {columns : List String} {column : String}

theorem key?_eq (h : (bag.get? column).isSome = true) : bag.key? column = some (String.ofList (bag.keyChars column)) := by
  obtain ⟨v, hv⟩ := Option.isSome_iff_exists.mp h
  rw [key?, keyChars, hv]
  rfl

theorem key?_eq_iff (h : (bag.get? column).isSome = true) (h' : (other.get? column).isSome = true) :
    bag.key? column = other.key? column ↔ bag.keyChars column = other.keyChars column := by
  rw [key?_eq h, key?_eq h', Option.some_inj, String.ofList_inj]

theorem barred_of_mem (h : '|' ∈ bag.keyChars column) : bag.Barred column := by
  cases hv : bag.get? column with
  | none => simp [keyChars, hv] at h
  | some v =>
    have hbar : '|' ∈ v.keyChars := by simpa [keyChars, hv] using h
    obtain ⟨text, rfl⟩ := Value.exists_text_of_bar hbar
    exact ⟨text, hv, hbar⟩

/-- there is no composite key of no columns, and none without one of the keys -/
theorem compositeKey?_eq_none_iff (bag : PropertyBag) (columns : List String) :
    bag.compositeKey? columns = none ↔ columns = [] ∨ ∃ column ∈ columns, bag.get? column = none := by
  cases columns with
  | nil => simp [compositeKey?]
  | cons first rest =>
    have hisNone := isNone_mapM (fun column => (bag.get? column).map Value.key) (first :: rest)
    rw [Bool.eq_iff_iff, Option.isNone_iff_eq_none, List.any_eq_true] at hisNone
    simp only [compositeKey?, List.isEmpty_cons, Bool.false_eq_true, if_false, Option.map_eq_none_iff, hisNone,
      Option.isNone_iff_eq_none, reduceCtorEq, false_or]

/-- the keys of all columns, joined -/
theorem compositeKey?_of_hasAll (h : bag.HasAll columns) (hne : columns ≠ []) :
    bag.compositeKey? columns = some (String.ofList (['|'].intercalate (columns.map bag.keyChars))) := by
  have hkeys : columns.mapM (fun column => (bag.get? column).map Value.key) =
      some (columns.map fun column => String.ofList (bag.keyChars column)) :=
    mapM_eq_pure fun column hcolumn => key?_eq (h column hcolumn)
  have hjoined (keys : List (List Char)) :
      "|".intercalate (keys.map String.ofList) = String.ofList (['|'].intercalate keys) := by
    rw [← String.toList_inj, String.toList_intercalate, String.toList_ofList, List.map_map]
    simp [Function.comp_def]
  have hisEmpty : columns.isEmpty = false := List.isEmpty_eq_false_iff.mpr hne
  rw [compositeKey?, hisEmpty, hkeys, ← hjoined, List.map_map]
  rfl

/-- composite keys are the same exactly if their pieces are -/
theorem compositeKey?_eq_iff (hne : columns ≠ []) (h : bag.HasAll columns) (h' : other.HasAll columns) :
    bag.compositeKey? columns = other.compositeKey? columns ↔ bag.keyPieces columns = other.keyPieces columns := by
  have hkeys (bag : PropertyBag) : columns.map bag.keyChars ≠ [] := mt List.map_eq_nil_iff.mp hne
  rw [compositeKey?_of_hasAll h hne, compositeKey?_of_hasAll h' hne, Option.some_inj, String.ofList_inj,
    Text.intercalate_eq_iff (hkeys bag) (hkeys other), List.flatMap_map, List.flatMap_map]
  rfl

/-- the keys are the composite key and where its bars come from -/
theorem keys_eq_iff (hne : columns ≠ []) (h : bag.HasAll columns) (h' : other.HasAll columns) :
    (∀ column ∈ columns, bag.key? column = other.key? column) ↔
      bag.compositeKey? columns = other.compositeKey? columns ∧ ∀ column ∈ columns, bag.bars column = other.bars column := by
  have hchars : (∀ column ∈ columns, bag.key? column = other.key? column) ↔
      ∀ column ∈ columns, bag.keyChars column = other.keyChars column :=
    forall₂_congr fun column hcolumn => key?_eq_iff (h column hcolumn) (h' column hcolumn)
  rw [hchars, compositeKey?_eq_iff hne h h']
  constructor
  · intro heq
    exact ⟨List.flatMap_congr fun column hcolumn => congrArg _ (heq column hcolumn),
      fun column hcolumn => congrArg _ (heq column hcolumn)⟩
  · rintro ⟨hpieces, hbars⟩
    exact Text.eq_of_pieces_eq hbars hpieces

/-- **Composite keys and keys.** There is a composite key unless there are no columns or one of them has no value. Two
composite keys are the same exactly if the keys are cut into the same pieces by their bars. The keys of all columns are the
same exactly if the composite keys are and the keys of each column have as many bars. And if no two columns have texts with
bars, the same composite key comes from the same keys. -/
theorem compositeKey?_tells_keys (columns : List String) (bag other : PropertyBag) :
    (bag.compositeKey? columns = none ↔ columns = [] ∨ ∃ column ∈ columns, bag.get? column = none) ∧
    (columns ≠ [] → bag.HasAll columns → other.HasAll columns →
      (bag.compositeKey? columns = other.compositeKey? columns ↔ bag.keyPieces columns = other.keyPieces columns) ∧
      ((∀ column ∈ columns, bag.key? column = other.key? column) ↔
        bag.compositeKey? columns = other.compositeKey? columns ∧
          ∀ column ∈ columns, bag.bars column = other.bars column) ∧
      ((∀ a ∈ columns, ∀ b ∈ columns, bag.Barred a ∨ other.Barred a → bag.Barred b ∨ other.Barred b → a = b) →
        bag.compositeKey? columns = other.compositeKey? columns →
          ∀ column ∈ columns, bag.key? column = other.key? column)) := by
  refine ⟨compositeKey?_eq_none_iff bag columns, fun hne h h' => ?_⟩
  refine ⟨compositeKey?_eq_iff hne h h', keys_eq_iff hne h h', fun hone heq => ?_⟩
  have hbars : ∀ column ∈ columns, bag.bars column = other.bars column :=
    Text.count_eq_of_pieces_eq
      (fun a ha b hb hmarked hmarked' => hone a ha b hb (hmarked.imp barred_of_mem barred_of_mem)
        (hmarked'.imp barred_of_mem barred_of_mem))
      ((compositeKey?_eq_iff hne h h').mp heq)
  exact (keys_eq_iff hne h h').mpr ⟨heq, hbars⟩

/-- the row of a seat: a room with a bar in its name, and a number that is once whole and once not typed as such -/
theorem seats_told_apart :
    let seat (number : Value) : PropertyBag := .ofList [("room", .string "A|1"), ("seat", number)]
    let bag := seat (.integer 1)
    let other := seat (.float (Binary64.ofInt 1))
    let columns := ["room", "seat"]
    columns ≠ [] ∧ bag.HasAll columns ∧ other.HasAll columns ∧
      (∀ a ∈ columns, ∀ b ∈ columns, bag.Barred a ∨ other.Barred a → bag.Barred b ∨ other.Barred b → a = b) ∧
      bag.compositeKey? columns = some "A|1|1" ∧ bag.compositeKey? columns = other.compositeKey? columns ∧
      ∀ column ∈ columns, bag.key? column = other.key? column := by
  intro seat bag other columns
  have hne : columns ≠ [] := by decide
  have h : bag.HasAll columns := by decide
  have h' : other.HasAll columns := by decide
  have hnumber (number : Value) : (seat number).get? "seat" = some number := by simp [seat, ofList, get?_insert]
  have hseat : ¬(bag.Barred "seat" ∨ other.Barred "seat") := by
    rintro (⟨text, htext, -⟩ | ⟨text, htext, -⟩) <;> exact nomatch (hnumber _).symm.trans htext
  have hroom {column : String} (hcolumn : column ∈ columns) (hbarred : bag.Barred column ∨ other.Barred column) :
      column = "room" := by
    rcases List.mem_cons.mp hcolumn with hroom | hrest
    · exact hroom
    · exact absurd (List.mem_singleton.mp hrest ▸ hbarred) hseat
  have hone : ∀ a ∈ columns, ∀ b ∈ columns, bag.Barred a ∨ other.Barred a → bag.Barred b ∨ other.Barred b → a = b :=
    fun a ha b hb hbarred hbarred' => (hroom ha hbarred).trans (hroom hb hbarred').symm
  have hkey : bag.compositeKey? columns = some "A|1|1" := by decide +kernel
  have hsame : bag.compositeKey? columns = other.compositeKey? columns := by decide +kernel
  exact ⟨hne, h, h', hone, hkey, hsame, ((compositeKey?_tells_keys columns bag other).2 hne h h').2.2 hone hsame⟩

/-- a bar at the end of a street and one at the start of a city: neither key is the same, and the composite keys are -/
theorem streets_run_together :
    let bag : PropertyBag := .ofList [("street", .string "x|y"), ("city", .string "z")]
    let other : PropertyBag := .ofList [("street", .string "x"), ("city", .string "y|z")]
    let columns := ["street", "city"]
    bag.HasAll columns ∧ other.HasAll columns ∧ bag.compositeKey? columns = some "x|y|z" ∧
      other.compositeKey? columns = some "x|y|z" ∧ ∀ column ∈ columns, bag.key? column ≠ other.key? column := by
  decide +kernel

end PropertyBag

end TableGraph
