/-
What stands for the value of a property in a document.

It is said by the parts of the texts, not by how they are written. Strings and truth values stand for themselves, and whole
and finite numbers are literals that denote them; what JSON has no number for is null. All other values are strings: a
decimal with all its digits, a day as year, month and day, a time of day with the fraction of a second, a moment as both.

Results:
- `Date.isText_text`, `Time.isText_text`: days and times of day are written field by field.
- `Value.encodes_toJson`: every value is written as what stands for it.
- `Value.Encodes.eq_null_iff`: only infinite and undefined numbers are null.
-/
import TableGraph.Proofs.CalendarTexts
import TableGraph.Proofs.JsonNumbers
import TableGraph.Value.Basic

namespace TableGraph

/-! ## Days -/

/-- a field of some width whose digits say a number -/
structure Digits.IsField (width n : Nat) (s : List Char) : Prop where
  length_eq : s.length = width
  isDigit : ∀ c ∈ s, c.isDigit = true
  value_eq : Digits.value s = n

theorem Digits.isField_padded {width n : Nat} (hwidth : 0 < width) (h : n < 10 ^ width) :
    IsField width n (padded width n) where
  length_eq := length_padded hwidth h
  isDigit _ := isDigit_of_mem_padded
  value_eq := value_padded width n

namespace Date

/-- at least four digits of a year, and no needless zero -/
structure IsLongYear (n : Nat) (s : List Char) : Prop extends Digits.IsField s.length n s where
  four_le : 4 ≤ s.length
  of_zero : s.head? = some '0' → s.length = 4

/-- the text of a year: four digits in the first ten thousand years, else a sign and at least four digits -/
inductive IsYear : Int → List Char → Prop
  | plain {n : Nat} {s : List Char} (h : Digits.IsField 4 n s) : IsYear n s
  | early {n : Nat} {s : List Char} (h : IsLongYear n s) (hsign : 0 < n) : IsYear (-n) ('-' :: s)
  | late {n : Nat} {s : List Char} (h : IsLongYear n s) (hsign : 10000 ≤ n) : IsYear n ('+' :: s)

/-- the text of a day: year, month and day joined by hyphens -/
inductive IsText (d : Date) : List Char → Prop
  | joined {year month day : List Char} (hyear : IsYear d.year year) (hmonth : Digits.IsField 2 d.month month)
      (hday : Digits.IsField 2 d.day day) : d.IsText (year ++ '-' :: (month ++ '-' :: day))

theorem isLongYear_padded (n : Nat) : IsLongYear n (Digits.padded 4 n) where
  length_eq := rfl
  isDigit _ := Digits.isDigit_of_mem_padded
  value_eq := Digits.value_padded 4 n
  four_le := by
    rw [Digits.length_padded_eq_max]
    exact le_max_left 4 _
  of_zero := by
    intro hzero
    by_cases hshort : n < 10 ^ 4
    · exact Digits.length_padded (by decide) hshort
    · -- a year of more digits is not padded
      have hlength : 4 < (Digits.ofNat n).length := by
        by_contra hle
        exact hshort ((Digits.lt_pow_length n).trans_le (Nat.pow_le_pow_right (by decide) (by omega)))
      have hzeros : 4 - (Digits.ofNat n).length = 0 := by omega
      rw [Digits.padded, hzeros, List.replicate_zero, List.nil_append] at hzero
      exact absurd hzero (Digits.head?_ofNat_ne (by omega))

theorem isYear_yearText (year : Int) : IsYear year (yearText year) := by
  unfold yearText
  simp only
  split
  · next hnegative =>
    have hearly := IsYear.early (isLongYear_padded year.natAbs) (by omega)
    have hvalue : -(year.natAbs : Int) = year := by omega
    rwa [hvalue] at hearly
  · next hpositive =>
    have hvalue : (year.natAbs : Int) = year := by omega
    split
    · have hplain := IsYear.plain (Digits.isField_padded (by decide : 0 < 4) (by omega : year.natAbs < 10 ^ 4))
      rwa [hvalue] at hplain
    · have hlate := IsYear.late (isLongYear_padded year.natAbs) (by omega)
      rwa [hvalue] at hlate

/-- **A day is written field by field** -/
theorem isText_text (d : Date) : d.IsText d.text := by
  have hmonth := d.month_le
  have hday := d.day_le
  apply IsText.joined (isYear_yearText d.year)
  · exact Digits.isField_padded (by decide) (by omega)
  · exact Digits.isField_padded (by decide) (by omega)

end Date

/-! ## Times of day -/

namespace Time

/-- the fraction of a second in groups of three digits, the last of which is needed -/
inductive IsFraction : (nano : Nat) → List Char → Prop
  | none : IsFraction 0 []
  | point {groups n : Nat} {s : List Char} (h : Digits.IsField (3 * groups) n s) (hgroups : groups ≤ 3)
      (hlast : n % 1000 ≠ 0) : IsFraction (n * 10 ^ (9 - 3 * groups)) ('.' :: s)

/-- the text of a time of day: hour, minute and second joined by colons, and the fraction -/
inductive IsText (t : Time) : List Char → Prop
  | joined {hour minute second fraction : List Char} (hhour : Digits.IsField 2 t.hour hour)
      (hminute : Digits.IsField 2 t.minute minute) (hsecond : Digits.IsField 2 t.second second)
      (hfraction : IsFraction t.nano fraction) : t.IsText (hour ++ ':' :: (minute ++ ':' :: (second ++ fraction)))

theorem isFraction_fractionText {nano : Nat} (h : nano < 10 ^ 9) : IsFraction nano (fractionText nano) := by
  have hpoint (groups : Nat) {n : Nat} (hsome : 0 < 3 * groups) (hgroups : groups ≤ 3) (hlast : n % 1000 ≠ 0)
      (hvalue : n * 10 ^ (9 - 3 * groups) = nano) (hfits : n < 10 ^ (3 * groups)) :
      IsFraction nano ('.' :: Digits.padded (3 * groups) n) :=
    hvalue ▸ .point (Digits.isField_padded hsome hfits) hgroups hlast
  unfold fractionText
  simp only [Nat.pow_eq]
  split_ifs with hzero hmilli hmicro
  · exact hzero ▸ .none
  · exact hpoint 1 (by decide) (by decide) (by omega) (by omega) (by omega)
  · exact hpoint 2 (by decide) (by decide) (by omega) (by omega) (by omega)
  · exact hpoint 3 (by decide) (by decide) (by omega) (by omega) (by omega)

/-- **A time of day is written field by field** -/
theorem isText_text (t : Time) : t.IsText t.text := by
  obtain ⟨hhour, hminute, hsecond, hnano⟩ := t.valid
  apply IsText.joined
  · exact Digits.isField_padded (by decide) (by omega)
  · exact Digits.isField_padded (by decide) (by omega)
  · exact Digits.isField_padded (by decide) (by omega)
  · exact isFraction_fractionText hnano

end Time

/-- the text of a moment: a day and a time of day joined by the letter T -/
inductive DateTime.IsText (t : DateTime) : List Char → Prop
  | joined {day clock : List Char} (hday : t.date.IsText day) (hclock : t.time.IsText clock) :
      t.IsText (day ++ 'T' :: clock)

theorem DateTime.isText_markedText (t : DateTime) : t.IsText t.markedText :=
  .joined t.date.isText_text t.time.isText_text

/-! ## Values -/

namespace Value

/-- what stands for a value in a document -/
inductive Encodes : Value → Json → Prop
  | integer {n : Int64} {literal : String} (h : Json.WrittenOut (n.toInt < 0) n.toInt.natAbs 0 literal.toList) :
      Encodes (.integer n) (.number literal)
  /-- a literal of JSON that is read as the number -/
  | float {x : Binary64} {literal : String} (hfinite : x.isFinite = true) (hnumber : Json.IsNumber literal.toList)
      (hread : Binary64.ofText? literal.toList = some x) : Encodes (.float x) (.number literal)
  | unbounded {x : Binary64} (h : x.isFinite = false) : Encodes (.float x) .null
  | decimal {d : Decimal} {text : String} (h : Json.WrittenOut d.negative d.coefficient d.scale text.toList) :
      Encodes (.decimal d) (.string text)
  | string (text : String) : Encodes (.string text) (.string text)
  | boolean (b : Bool) : Encodes (.boolean b) (.bool b)
  | date {d : Date} {text : String} (h : d.IsText text.toList) : Encodes (.date d) (.string text)
  | time {t : Time} {text : String} (h : t.IsText text.toList) : Encodes (.time t) (.string text)
  | dateTime {t : DateTime} {text : String} (h : t.IsText text.toList) : Encodes (.dateTime t) (.string text)
  /-- a moment in universal time ends in the letter Z -/
  | dateTimeUtc {t : DateTime} {moment : List Char} {text : String} (h : t.IsText moment)
      (hmark : text.toList = moment ++ ['Z']) : Encodes (.dateTimeUtc t) (.string text)

/-- **Every value is written as what stands for it** -/
theorem encodes_toJson (v : Value) : v.Encodes v.toJson := by
  cases v with
  | integer n => exact .integer (String.toList_ofList.symm ▸ Json.writtenOut_text n.toInt)
  | float x =>
    cases hfinite : x.isFinite with
    | false =>
      rw [toJson, Json.float, hfinite]
      exact .unbounded hfinite
    | true =>
      rw [toJson, Json.float, hfinite]
      obtain ⟨negative, coefficient, place, hdenotes, -⟩ := Json.denotes_float hfinite
      refine .float hfinite ?_ ?_
      · rw [String.toList_ofList]
        exact ⟨negative, coefficient, place, hdenotes⟩
      · rw [String.toList_ofList]
        exact Binary64.ofText?_text hfinite
  | decimal d => exact .decimal (String.toList_ofList.symm ▸ Json.writtenOut_sizeText d.negative d.coefficient d.scale)
  | string text => exact .string text
  | boolean b => exact .boolean b
  | date d => exact .date (String.toList_ofList.symm ▸ d.isText_text)
  | time t => exact .time (String.toList_ofList.symm ▸ t.isText_text)
  | dateTime t => exact .dateTime (String.toList_ofList.symm ▸ t.isText_markedText)
  | dateTimeUtc t => exact .dateTimeUtc t.isText_markedText String.toList_ofList

/-- only numbers that JSON has no number for are null -/
theorem Encodes.eq_null_iff {v : Value} {json : Json} (h : v.Encodes json) :
    json = .null ↔ ∃ x, v = .float x ∧ x.isFinite = false := by
  cases h with
  | float hfinite => simp [hfinite]
  | unbounded h => simp [h]
  | _ => simp

end Value

end TableGraph
