/-
Conversion to whole numbers of 64 bits. A cell denotes a number: it is one, or its text spells one. If that number is a
whole number of 64 bits it is the value of the cell, and any other number is refused.

This holds of all kinds of cells but one: a whole floating-point number beyond the range is moved to the nearest end of
the range, though a decimal and a text of the same number are refused. Documents are concerned too, because a number that
they write in digits is kept as a floating-point number if it is too large.

Results:
- `Cell.convert_float_beyond`: floating-point numbers beyond the range.
- `Cell.convert_whole_exact`: all other cells, and the whole numbers within the range that a document writes.
Witness:
- `whole_at_the_ends`: cells of all kinds at the ends of the range.
Counterexample:
- `whole_beyond_the_end`: two numbers of a document, one beyond the range, that become the same value.
-/
import TableGraph.Proofs.ExactValues
import TableGraph.Proofs.WholeNumbers
import TableGraph.Source.Fixture
import TableGraph.Value.Conversion

namespace TableGraph

/-- the range of the whole numbers of 64 bits -/
def InWord (q : ℚ) : Prop := -2 ^ 63 ≤ q ∧ q < 2 ^ 63

theorem inWord_intCast {n : Int} : InWord n ↔ -2 ^ 63 ≤ n ∧ n < 2 ^ 63 := by
  unfold InWord
  exact_mod_cast Iff.rfl

/-- the types whose values are whole numbers -/
def ColumnType.wholeTypes : List ColumnType := [.smallInt, .integer, .bigInt]

namespace Cell

/-! ## What a cell denotes -/

/-- a cell denotes a number: it is this number, or its text spells it -/
def Denotes (cell : Cell) (q : ℚ) : Prop :=
  match cell with
  | .int n => q = n.toInt
  | .float x => x.toRat? = some q
  | .decimal d => q = d.toRat
  | .text s => ∃ n : Int, q = n ∧ Whole.SpelledIn s.toList n
  | _ => False

/-- a floating-point number in a cell is within the range of whole numbers of 64 bits -/
def Fits (cell : Cell) : Prop :=
  match cell with
  | .float x => ∀ q, x.toRat? = some q → InWord q
  | _ => True

theorem Denotes.unique {cell : Cell} {p q : ℚ} (hp : cell.Denotes p) (hq : cell.Denotes q) : p = q := by
  cases cell with
  | int n => exact hp.trans hq.symm
  | float x => exact Option.some.inj (hp.symm.trans hq)
  | decimal d => exact hp.trans hq.symm
  | text s =>
    obtain ⟨n, rfl, hn⟩ := hp
    obtain ⟨m, rfl, hm⟩ := hq
    rw [hn.unique hm]
  | _ => exact hp.elim

/-- a text denotes the whole number that it spells -/
theorem denotes_text_iff {s : String} {n : Int} : (Cell.text s).Denotes n ↔ Whole.SpelledIn s.toList n := by
  constructor
  · rintro ⟨m, hm, h⟩
    rwa [Int.cast_injective hm]
  · exact fun h => ⟨n, rfl, h⟩

/-! ## Into the range -/

theorem inRange?_eq_some_iff {m : Int} {n : Int64} : inRange? m = some n ↔ m = n.toInt := by
  have hlow := n.le_toInt
  have hhigh := n.toInt_lt
  unfold inRange?
  rw [Int.pow_eq]
  constructor
  · intro h
    split at h
    · next hrange => rw [← Option.some.inj h, Int64.toInt_ofInt_of_le hrange.1 hrange.2]
    · exact nomatch h
  · rintro rfl
    rw [if_pos ⟨hlow, hhigh⟩, Int64.ofInt_toInt]

/-- a number within the range is not moved -/
theorem toInt_saturated {m : Int} (h : InWord m) : (saturated m).toInt = m := by
  obtain ⟨hlow, hhigh⟩ := inWord_intCast.mp h
  rw [saturated, Int.pow_eq, min_eq_left (by omega), max_eq_right (by omega)]
  exact Int64.toInt_ofInt_of_le hlow hhigh

/-- a number beyond the range is moved to the end that is nearest -/
theorem saturated_of_not_inWord {m : Int} (h : ¬InWord m) :
    saturated m = if m < 0 then Int64.minValue else Int64.maxValue := by
  rw [inWord_intCast] at h
  rw [saturated, Int.pow_eq]
  split
  · rw [max_eq_left (by omega)]
    rfl
  · rw [min_eq_right (by omega), max_eq_right (by omega)]
    rfl

/-! ## Conversion -/

/-- a cell whose conversion gives a value is one that has a value of the type -/
theorem convert_eq_some_iff {cell : Cell} {type : ColumnType} {value : Value} :
    cell.convert type = .ok (some value) ↔ cell.valueOf? type = some value := by
  unfold convert
  split
  · cases type <;> exact ⟨nofun, nofun⟩
  · cases type <;> exact ⟨nofun, nofun⟩
  · split
    · next hunsupported =>
      rcases hunsupported with rfl | rfl <;> exact ⟨nofun, nofun⟩
    · split
      · next found hfound => simp [hfound]
      · next hnone => simp [hnone]

theorem valueOf?_of_mem_wholeTypes {type : ColumnType} (htype : type ∈ ColumnType.wholeTypes) (cell : Cell) :
    cell.valueOf? type = cell.integer? := by
  rcases List.mem_cons.mp htype with rfl | htype
  · rfl
  · rcases List.mem_pair.mp htype with rfl | rfl <;> rfl

/-- a cell that denotes a number is refused if it has no whole number -/
theorem convert_eq_mismatch {type : ColumnType} (htype : type ∈ ColumnType.wholeTypes) {cell : Cell} {q : ℚ}
    (hdenotes : cell.Denotes q) (hnone : cell.integer? = none) : cell.convert type = .error (.mismatch cell type) := by
  rw [← valueOf?_of_mem_wholeTypes htype] at hnone
  have hsupported : ¬(type = .binary ∨ type = .array) := by
    rintro (rfl | rfl) <;> exact absurd htype (by decide)
  unfold convert
  split
  · exact hdenotes.elim
  · exact hdenotes.elim
  · rw [if_neg hsupported, hnone]

/-- **Whole numbers of cells**: the value is the whole number of 64 bits that the cell denotes -/
theorem integer?_eq_some_iff {cell : Cell} {value : Value} (hfits : cell.Fits) :
    cell.integer? = some value ↔ ∃ n : Int64, value = .integer n ∧ cell.Denotes n.toInt := by
  cases cell with
  | int n =>
    simp only [integer?, Denotes, Int.cast_inj, Int64.toInt_inj, Option.some.injEq]
    constructor
    · rintro rfl
      exact ⟨n, rfl, rfl⟩
    · rintro ⟨m, rfl, rfl⟩
      rfl
  | float x =>
    -- a whole number that the cell holds is within the range, and so it is not moved
    have hmoved (m : Int) (hm : x.toRat? = some (m : ℚ)) : (saturated m).toInt = m := toInt_saturated (hfits m hm)
    simp only [integer?, Denotes, Option.map_eq_some_iff, Binary64.toInt?_eq_some_iff]
    constructor
    · rintro ⟨m, hm, rfl⟩
      exact ⟨saturated m, rfl, by rwa [hmoved m hm]⟩
    · rintro ⟨n, rfl, hn⟩
      exact ⟨n.toInt, hn, congrArg _ (Int64.toInt_inj.mp (hmoved n.toInt hn))⟩
  | decimal d =>
    simp only [integer?, Denotes, Option.map_eq_some_iff, Option.bind_eq_some_iff, Decimal.toInt?_eq_some_iff,
      inRange?_eq_some_iff]
    constructor
    · rintro ⟨n, ⟨m, hm, rfl⟩, rfl⟩
      exact ⟨n, rfl, hm.symm⟩
    · rintro ⟨n, rfl, hn⟩
      exact ⟨n, ⟨n.toInt, hn.symm, rfl⟩, rfl⟩
  | text s =>
    simp only [integer?, denotes_text_iff, Option.map_eq_some_iff, Whole.int64?_eq_some_iff,
      Whole.spelledIn_iff_spells_trim]
    constructor
    · rintro ⟨n, hn, rfl⟩
      exact ⟨n, rfl, hn⟩
    · rintro ⟨n, rfl, hn⟩
      exact ⟨n, hn, rfl⟩
  | _ => simp [integer?, Denotes]

/-- **Beyond the range**: a whole floating-point number beyond the range becomes the end that is nearest to it -/
theorem convert_float_beyond {type : ColumnType} (htype : type ∈ ColumnType.wholeTypes) {x : Binary64} {n : Int}
    (hwhole : x.toRat? = some (n : ℚ)) (hbeyond : ¬InWord n) :
    (Cell.float x).convert type = .ok (some (.integer (if n < 0 then Int64.minValue else Int64.maxValue))) := by
  rw [convert_eq_some_iff, valueOf?_of_mem_wholeTypes htype, integer?, Binary64.toInt?_eq_some_iff.mpr hwhole,
    Option.map_some, saturated_of_not_inWord hbeyond]

end Cell

/-! ## Whole numbers of a document -/

/-- a value of a document is a whole number, written in digits, as a whole floating-point number or as a text -/
inductive Yaml.Writes : Yaml → Int → Prop
  | integer (n : Int) : Writes (.integer n) n
  | float {x : Binary64} {n : Int} (h : x.toRat? = some (n : ℚ)) : Writes (.float x) n
  | string {s : String} {n : Int} (h : Whole.SpelledIn s.toList n) : Writes (.string s) n

/-- the cell of a number within the range denotes this number -/
theorem Yaml.Writes.denotes {y : Yaml} {n : Int} (h : y.Writes n) (hn : InWord n) :
    (Cell.ofYaml y).Denotes n ∧ (Cell.ofYaml y).Fits := by
  cases h with
  | integer =>
    obtain ⟨hlow, hhigh⟩ := inWord_intCast.mp hn
    have hcell : Cell.ofYaml (.integer n) = .int (Int64.ofInt n) := by
      rw [Cell.ofYaml, Int.pow_eq, if_pos hhigh]
    have hvalue : (Int64.ofInt n).toInt = n := Int64.toInt_ofInt_of_le hlow hhigh
    rw [hcell]
    exact ⟨congrArg _ hvalue.symm, trivial⟩
  | float h =>
    refine ⟨h, fun q hq => ?_⟩
    rwa [← Option.some.inj (h.symm.trans hq)]
  | string h => exact ⟨⟨n, rfl, h⟩, trivial⟩

/-- the key of a whole number determines it -/
theorem Value.key_integer_injective {n m : Int64} (h : (Value.integer n).key = (Value.integer m).key) : n = m :=
  Int64.toInt_inj.mp (Whole.text_injective (String.ofList_injective h))

/-- **Conversion to whole numbers is exact.** In a column of whole numbers, a cell has a value if it denotes a whole
number of 64 bits, and then this one; a cell that denotes any other number is refused. Whole numbers within the range that
a document writes, in whatever way, have different values and different keys if they are different. Floating-point numbers
beyond the range are left out. -/
theorem Cell.convert_whole_exact {type : ColumnType} (htype : type ∈ ColumnType.wholeTypes) :
    (∀ (cell : Cell) (value : Value), cell.Fits →
      (cell.convert type = .ok (some value) ↔ ∃ n : Int64, value = .integer n ∧ cell.Denotes n.toInt)) ∧
    (∀ (cell : Cell) (q : ℚ), cell.Fits → cell.Denotes q → (∀ n : Int64, q ≠ n.toInt) →
      cell.convert type = .error (.mismatch cell type)) ∧
    ∀ (y z : Yaml) (i j : Int), y.Writes i → z.Writes j → InWord i → InWord j → i ≠ j →
      ∃ n m : Int64, n.toInt = i ∧ m.toInt = j ∧ (Cell.ofYaml y).convert type = .ok (some (.integer n)) ∧
        (Cell.ofYaml z).convert type = .ok (some (.integer m)) ∧ (Value.integer n).key ≠ (Value.integer m).key := by
  have hexact (cell : Cell) (value : Value) (hfits : cell.Fits) :
      cell.convert type = .ok (some value) ↔ ∃ n : Int64, value = .integer n ∧ cell.Denotes n.toInt := by
    rw [convert_eq_some_iff, valueOf?_of_mem_wholeTypes htype, integer?_eq_some_iff hfits]
  have hwritten (y : Yaml) (i : Int) (hy : y.Writes i) (hi : InWord i) :
      ∃ n : Int64, n.toInt = i ∧ (Cell.ofYaml y).convert type = .ok (some (.integer n)) := by
    obtain ⟨hdenotes, hfits⟩ := hy.denotes hi
    obtain ⟨hlow, hhigh⟩ := inWord_intCast.mp hi
    have hvalue : (Int64.ofInt i).toInt = i := Int64.toInt_ofInt_of_le hlow hhigh
    exact ⟨Int64.ofInt i, hvalue, (hexact _ _ hfits).mpr ⟨_, rfl, hvalue.symm ▸ hdenotes⟩⟩
  refine ⟨hexact, ?_, ?_⟩
  · intro cell q hfits hdenotes hother
    have hnone : cell.integer? = none := by
      refine Option.eq_none_iff_forall_ne_some.mpr fun value hvalue => ?_
      obtain ⟨n, -, hn⟩ := (integer?_eq_some_iff hfits).mp hvalue
      exact hother n (hdenotes.unique hn)
    exact convert_eq_mismatch htype hdenotes hnone
  · intro y z i j hy hz hi hj hne
    obtain ⟨n, rfl, hn⟩ := hwritten y i hy hi
    obtain ⟨m, rfl, hm⟩ := hwritten z j hz hj
    exact ⟨n, m, rfl, rfl, hn, hm, fun h => hne (congrArg _ (Value.key_integer_injective h))⟩

/-- the end of the range above which a number is too large, as a floating-point number, and its opposite -/
def endFloat (negative : Bool) : Binary64 := .finite negative (Nat.pow 2 52) 11 (by decide)

/-- the same number as a decimal, with zeros after the point -/
def endDecimal : Decimal := ⟨false, 922337203685477580800, 2, by decide, by decide⟩

theorem toRat?_endFloat (negative : Bool) : (endFloat negative).toRat? = some (signed negative (2 ^ 63)) := by
  rw [endFloat, Binary64.toRat?, Nat.pow_eq]
  norm_num

theorem toRat_endDecimal : endDecimal.toRat = 2 ^ 63 := by
  norm_num [endDecimal, Decimal.toRat, signed]

/-- the least number of the range as a floating-point number, the first number above it as a decimal, and both ends of the
range in a document, one in digits and one as a text -/
theorem whole_at_the_ends :
    ColumnType.bigInt ∈ ColumnType.wholeTypes ∧
      ((Cell.float (endFloat true)).Fits ∧
        (Cell.float (endFloat true)).convert .bigInt = .ok (some (.integer Int64.minValue))) ∧
      ((Cell.decimal endDecimal).Denotes (2 ^ 63) ∧
        (Cell.decimal endDecimal).convert .bigInt = .error (.mismatch (.decimal endDecimal) .bigInt)) ∧
      ∃ n m : Int64, n.toInt = 2 ^ 63 - 1 ∧ m.toInt = -2 ^ 63 ∧
        (Cell.ofYaml (.integer (2 ^ 63 - 1))).convert .bigInt = .ok (some (.integer n)) ∧
        (Cell.ofYaml (.string " -09223372036854775808")).convert .bigInt = .ok (some (.integer m)) ∧
        (Value.integer n).key ≠ (Value.integer m).key := by
  have htype : ColumnType.bigInt ∈ ColumnType.wholeTypes := by decide
  obtain ⟨hexact, hrefused, hwritten⟩ := Cell.convert_whole_exact htype
  have hleast : Int64.minValue.toInt = -2 ^ 63 := by decide
  have hdenotes : (Cell.float (endFloat true)).Denotes Int64.minValue.toInt := by
    rw [Cell.Denotes, toRat?_endFloat, hleast]
    norm_num [signed]
  have hfits : (Cell.float (endFloat true)).Fits := by
    intro q hq
    rw [toRat?_endFloat, Option.some.injEq] at hq
    norm_num [← hq, signed, InWord]
  have hend : (Cell.decimal endDecimal).Denotes (2 ^ 63) := toRat_endDecimal.symm
  have hbeyond (n : Int64) : (2 ^ 63 : ℚ) ≠ n.toInt := by
    have hhigh := n.toInt_lt
    intro h
    exact hhigh.ne' (by exact_mod_cast h)
  have hspelled : Whole.SpelledIn " -09223372036854775808".toList (-2 ^ 63) := by
    have hnumeral : Whole.IsNumeral "09223372036854775808".toList :=
      ⟨by decide +kernel, List.all_eq_true.mp (by decide +kernel)⟩
    have hpadded : Text.Padded "-09223372036854775808".toList " -09223372036854775808".toList :=
      ⟨[' '], [], by decide +kernel, List.all_eq_true.mp (by decide), List.forall_mem_nil _⟩
    exact ⟨_, hpadded, .minus hnumeral⟩
  refine ⟨htype, ⟨hfits, (hexact _ _ hfits).mpr ⟨_, rfl, hdenotes⟩⟩, ⟨hend, ?_⟩, ?_⟩
  · exact hrefused _ _ trivial hend hbeyond
  · exact hwritten _ _ _ _ (.integer _) (.string hspelled) (by norm_num [InWord]) (by norm_num [InWord]) (by norm_num)

/-- the number above the greatest one of 64 bits, written in a document, becomes a floating-point number and is then moved
onto the greatest one: the value is not what the cell denotes, and two numbers of the document get the same value -/
theorem whole_beyond_the_end :
    Cell.ofYaml (.integer (2 ^ 63)) = .float (endFloat false) ∧
      (Cell.float (endFloat false)).convert .bigInt = .ok (some (.integer Int64.maxValue)) ∧
      ¬(Cell.float (endFloat false)).Denotes Int64.maxValue.toInt ∧
      (Cell.ofYaml (.integer (2 ^ 63 - 1))).convert .bigInt = .ok (some (.integer Int64.maxValue)) := by
  have hend : (endFloat false).toRat? = some (((2 ^ 63 : Int) : ℚ)) := by
    rw [toRat?_endFloat]
    norm_num [signed]
  have hgreatest : Int64.maxValue.toInt = 2 ^ 63 - 1 := by decide
  have hlarge : Binary64.ofInt (2 ^ 63) = endFloat false := by decide +kernel
  refine ⟨congrArg Cell.float hlarge, ?_, ?_, rfl⟩
  · exact Cell.convert_float_beyond (by decide) hend (by norm_num [InWord])
  · intro hdenotes
    rw [Cell.Denotes, hend, hgreatest] at hdenotes
    norm_num at hdenotes

end TableGraph
