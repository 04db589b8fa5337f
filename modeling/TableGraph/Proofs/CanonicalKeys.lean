/-
Canonical keys against the values that they stand for.

Joins compare keys, so two values should have one key exactly if they are equal, and numbers of different types if they are
the same number. The key of a number is its decimal text. Whole numbers and decimals are always written exactly, with no
needless digit, and so are the floating-point numbers that have few digits. Of other floating-point numbers the text may be
a decimal near them that is shorter but another number, and zero with a minus is written with it.

Results:
- `Value.keys_of_equal_numbers`: when one number has one key in all numeric types, and that plain numbers have.
- `Value.keys_of_exact_types`: keys of whole numbers and decimals are equal exactly if the numbers are, and keys of one of
  the other types if the values are.
Witnesses:
- `Value.keys_of_one_and_a_half`: numbers of different types that have one key.
- `Value.keys_of_leap_seconds`: moments and numbers whose keys are compared.
Counterexample:
- `Value.equal_numbers_apart`: equal numbers with different keys, one because of the sign of zero and one because of its digits.
-/
import TableGraph.Proofs.CalendarTexts
import TableGraph.Proofs.FloatTexts
import TableGraph.Value.Basic

namespace TableGraph

/-! ## Texts of exact numbers -/

/-- the text of a whole number is that of the decimal that it is -/
theorem Whole.exists_leastDecimal (n : Int) : ∃ d : LeastDecimal, text n = d.text ∧ d.toRat = n := by
  refine ⟨.ofLeast (n < 0) n.natAbs 0 (.inl rfl), ?_, ?_⟩
  · rw [LeastDecimal.text, LeastDecimal.ofLeast, Decimal.sizeText_zero, text]
    by_cases hneg : n < 0
    · have hnonzero : n ≠ 0 := by omega
      simp [hneg, hnonzero]
    · simp [hneg]
  · rw [LeastDecimal.toRat_ofLeast, pow_zero, div_one, signed, Nat.cast_natAbs]
    by_cases hneg : n < 0
    · simp [hneg, abs_of_neg hneg]
    · simp [hneg, abs_of_nonneg (not_lt.mp hneg)]

namespace Decimal

/-- no zero is left at the end of the fraction -/
theorem stripZeros_least (coefficient scale : Nat) :
    (stripZeros coefficient scale).2 = 0 ∨ (stripZeros coefficient scale).1 % 10 ≠ 0 := by
  induction scale generalizing coefficient with
  | zero => exact .inl rfl
  | succ scale ih =>
    unfold stripZeros
    split
    · exact ih _
    · next hlast => exact .inr hlast

/-- the least decimal of the number that a decimal denotes -/
def least (d : Decimal) : LeastDecimal := .ofLeast d.negative _ _ (stripZeros_least d.coefficient d.scale)

/-- the canonical text of a decimal is that of its least decimal -/
theorem canonicalText_eq (d : Decimal) : d.canonicalText = d.least.text := rfl

theorem toRat_least (d : Decimal) : d.least.toRat = d.toRat := by
  have hvalue := stripZeros_value d.coefficient d.scale
  have hle := stripZeros_scale_le d.coefficient d.scale
  rw [least, LeastDecimal.toRat_ofLeast, toRat]
  generalize (stripZeros d.coefficient d.scale).1 = c at hvalue ⊢
  generalize (stripZeros d.coefficient d.scale).2 = s at hvalue hle ⊢
  congr 1
  rw [div_eq_div_iff (by positivity) (by positivity), ← hvalue, ← Nat.sub_add_cancel hle, Nat.add_sub_cancel, pow_add]
  push_cast
  rw [Nat.pow_eq]
  push_cast
  ring

end Decimal

namespace Value

/-! ## Numbers -/

/-- the number that a value of an exact numeric type is -/
def exactNumber? : Value → Option ℚ
  | .integer n => some n.toInt
  | .decimal d => some d.toRat
  | _ => none

/-- the number that a value is, if it is a finite number of any type -/
def number? : Value → Option ℚ
  | .float x => x.toRat?
  | value => value.exactNumber?

/-- the key of a value is the text of the number that it is, with no needless digit and no sign for zero -/
def WrittenExactly (value : Value) : Prop := ∃ d : LeastDecimal, value.keyChars = d.text ∧ value.number? = some d.toRat

theorem key_eq_key_iff {v w : Value} : v.key = w.key ↔ v.keyChars = w.keyChars := String.ofList_inj

theorem number?_of_exactNumber? {v : Value} {q : ℚ} (h : v.exactNumber? = some q) : v.number? = some q := by
  cases v with
  | float x => exact nomatch h
  | _ => exact h

/-- a number of a type whose keys are exact, or a floating-point number of few digits that is not zero with a minus -/
def IsPlain : Value → Prop
  | .float x => x ≠ .zero true ∧ ∃ m s : Int, x.toRat? = some ((m : ℚ) * 10 ^ s) ∧ Binary64.FewDigits m s
  | value => value.exactNumber?.isSome = true

/-- **Whole numbers and decimals** are written exactly -/
theorem writtenExactly_of_exactNumber? {v : Value} {q : ℚ} (h : v.exactNumber? = some q) : v.WrittenExactly := by
  cases v with
  | integer n =>
    obtain ⟨d, htext, hvalue⟩ := Whole.exists_leastDecimal n.toInt
    exact ⟨d, htext, congrArg some hvalue.symm⟩
  | decimal d => exact ⟨d.least, d.canonicalText_eq, congrArg some d.toRat_least.symm⟩
  | _ => exact nomatch h

/-- **Plain numbers** are written exactly -/
theorem IsPlain.writtenExactly {v : Value} (h : v.IsPlain) : v.WrittenExactly := by
  cases v with
  | float x =>
    obtain ⟨hzero, m, s, hx, hfew⟩ := h
    obtain ⟨d, htext, hvalue⟩ := Binary64.exists_leastDecimal hx hzero hfew
    exact ⟨d, htext, hx.trans (congrArg some hvalue.symm)⟩
  | _ =>
    obtain ⟨q, hq⟩ := Option.isSome_iff_exists.mp h
    exact writtenExactly_of_exactNumber? hq

/-- a number that is not written exactly is a floating-point number -/
theorem exists_float_of_not_writtenExactly {v : Value} {q : ℚ} (hv : v.number? = some q) (h : ¬v.WrittenExactly) :
    ∃ x, v = .float x := by
  cases v with
  | float x => exact ⟨x, rfl⟩
  | integer n => exact absurd (writtenExactly_of_exactNumber? (v := .integer n) rfl) h
  | decimal d => exact absurd (writtenExactly_of_exactNumber? (v := .decimal d) rfl) h
  | _ => exact nomatch hv

/-- a value that has the key and the number of one that is written exactly is written exactly -/
theorem WrittenExactly.of_key_eq {v w : Value} (hexact : v.WrittenExactly) (hkey : v.key = w.key)
    (hnumber : v.number? = w.number?) : w.WrittenExactly := by
  obtain ⟨d, htext, hvalue⟩ := hexact
  exact ⟨d, (key_eq_key_iff.mp hkey).symm.trans htext, hnumber.symm.trans hvalue⟩

/-- numbers that are written exactly have one key exactly if they are equal -/
theorem WrittenExactly.key_eq_iff {v w : Value} {p q : ℚ} (hv : v.WrittenExactly) (hw : w.WrittenExactly)
    (hp : v.number? = some p) (hq : w.number? = some q) : v.key = w.key ↔ p = q := by
  obtain ⟨d, htext, hvalue⟩ := hv
  obtain ⟨e, htext', hvalue'⟩ := hw
  obtain rfl : p = d.toRat := Option.some.inj (hp.symm.trans hvalue)
  obtain rfl : q = e.toRat := Option.some.inj (hq.symm.trans hvalue')
  rw [key_eq_key_iff, htext, htext', LeastDecimal.text_injective.eq_iff, LeastDecimal.toRat_injective.eq_iff]

/-- equal numbers have one key if they are the same value or both are written exactly, and else they have not -/
theorem key_eq_iff_of_number? {v w : Value} {q : ℚ} (hv : v.number? = some q) (hw : w.number? = some q) :
    v.key = w.key ↔ v = w ∨ v.WrittenExactly ∧ w.WrittenExactly := by
  constructor
  · intro hkey
    by_cases hexact : v.WrittenExactly
    · exact .inr ⟨hexact, hexact.of_key_eq hkey (hv.trans hw.symm)⟩
    by_cases hexact' : w.WrittenExactly
    · exact .inr ⟨hexact'.of_key_eq hkey.symm (hw.trans hv.symm), hexact'⟩
    obtain ⟨x, rfl⟩ := exists_float_of_not_writtenExactly hv hexact
    obtain ⟨y, rfl⟩ := exists_float_of_not_writtenExactly hw hexact'
    rcases Binary64.eq_of_toRat? hv hw with rfl | ⟨negative, rfl, rfl⟩
    · exact .inl rfl
    · -- zeros of both signs
      have htext := key_eq_key_iff.mp hkey
      simp only [keyChars, Binary64.text_zero] at htext
      cases negative <;> exact absurd htext (by decide)
  · rintro (rfl | ⟨hexact, hexact'⟩)
    · rfl
    · exact (hexact.key_eq_iff hexact' hv hw).mpr rfl

/-- **The key of a number.** Two values of numeric types that are the same number have one key exactly if they are the same
value or both are written exactly. In particular they have one key if each is a whole number, a decimal or a floating-point
number of few digits: whole and below 2^53, or normal and of at most fifteen decimal digits, but not zero with a minus. -/
theorem keys_of_equal_numbers {v w : Value} {q : ℚ} (hv : v.number? = some q) (hw : w.number? = some q) :
    (v.key = w.key ↔ v = w ∨ v.WrittenExactly ∧ w.WrittenExactly) ∧ (v.IsPlain → w.IsPlain → v.key = w.key) := by
  have hkey := key_eq_iff_of_number? hv hw
  exact ⟨hkey, fun hplain hplain' => hkey.mpr (.inr ⟨hplain.writtenExactly, hplain'.writtenExactly⟩)⟩

/-- the floating-point number 1.5 and the decimal 1.50 -/
theorem keys_of_one_and_a_half :
    let x : Binary64 := .finite false 6755399441055744 (-52) (by decide)
    let d : Decimal := ⟨false, 150, 2, by decide, by decide⟩
    (Value.float x).number? = some (3 / 2) ∧ (Value.decimal d).number? = some (3 / 2) ∧
      (Value.float x).IsPlain ∧ (Value.decimal d).IsPlain ∧ (Value.float x).key = (Value.decimal d).key := by
  intro x d
  have hx : x.toRat? = some (((15 : Int) : ℚ) * 10 ^ (-1 : Int)) := by
    simp only [x, Binary64.toRat?, signed]
    norm_num
  have hx' : (Value.float x).number? = some (3 / 2) := hx.trans (congrArg some (by norm_num))
  have hd : (Value.decimal d).number? = some (3 / 2) := by
    simp only [d, number?, exactNumber?, Decimal.toRat, signed]
    norm_num
  have hfew : Binary64.FewDigits 15 (-1) := by
    refine .inr ⟨by norm_num, ?_⟩
    calc (2 : ℚ) ^ (-1022 : Int) ≤ 2 ^ (0 : Int) := zpow_le_zpow_right₀ (by norm_num) (by norm_num)
      _ ≤ |((15 : Int) : ℚ) * 10 ^ (-1 : Int)| := by norm_num
  have hplain : (Value.float x).IsPlain := ⟨by decide, 15, -1, hx, hfew⟩
  have hplain' : (Value.decimal d).IsPlain := rfl
  exact ⟨hx', hd, hplain, hplain', (keys_of_equal_numbers hx' hd).2 hplain hplain'⟩

/-- zero against the floating-point zero with a minus, and 2^60 against the floating-point number that it is: each time the
numbers are equal and the keys are not -/
theorem equal_numbers_apart :
    let zero := Value.integer 0
    let minusZero := Value.float (.zero true)
    let whole := Value.integer 1152921504606846976
    let rounded := Value.float (.finite false 4503599627370496 8 (by decide))
    (zero.number? = some 0 ∧ minusZero.number? = some 0 ∧ zero.key = "0" ∧ minusZero.key = "-0") ∧
      whole.number? = some (2 ^ 60) ∧ rounded.number? = some (2 ^ 60) ∧
      whole.key = "1152921504606846976" ∧ rounded.key = "1152921504606847000" := by
  intro zero minusZero whole rounded
  have hwhole : (1152921504606846976 : Int64).toInt = 2 ^ 60 := by decide
  refine ⟨⟨congrArg some Int.cast_zero, ?_, by decide +kernel, by decide +kernel⟩, ?_, ?_,
    by decide +kernel, by decide +kernel⟩
  · simp [minusZero, number?, Binary64.zero, Binary64.toRat?, signed]
  · simp only [whole, number?, exactNumber?, hwhole]
    norm_num
  · simp only [rounded, number?, Binary64.toRat?, signed]
    norm_num

/-! ## Exact types -/

/-- two values of one type that has no other notion of equality than its own: texts, truth values, days, times of day and
moments -/
inductive SameType : Value → Value → Prop
  | string (s t : String) : SameType (.string s) (.string t)
  | boolean (a b : Bool) : SameType (.boolean a) (.boolean b)
  | date (d e : Date) : SameType (.date d) (.date e)
  | time (t u : Time) : SameType (.time t) (.time u)
  | dateTime (t u : DateTime) : SameType (.dateTime t) (.dateTime u)
  | dateTimeUtc (t u : DateTime) : SameType (.dateTimeUtc t) (.dateTimeUtc u)

/-- values of one of these types are determined by their keys -/
theorem SameType.key_eq_iff {v w : Value} (h : SameType v w) : v.key = w.key ↔ v = w := by
  refine ⟨fun hkey => ?_, congrArg key⟩
  have htext := key_eq_key_iff.mp hkey
  cases h with
  | string s t => exact congrArg Value.string (String.toList_injective htext)
  | boolean a b =>
    cases a with
    | true =>
      cases b with
      | true => rfl
      | false => exact absurd htext (by decide)
    | false =>
      cases b with
      | true => exact absurd htext (by decide)
      | false => rfl
  | date d e => exact congrArg Value.date (Date.text_injective htext)
  | time t u => exact congrArg Value.time (Time.text_injective htext)
  | dateTime t u => exact congrArg Value.dateTime (DateTime.spacedText_injective htext)
  | dateTimeUtc t u => exact congrArg Value.dateTimeUtc (DateTime.markedText_injective (List.append_cancel_right htext))

/-- **Keys of exact types.** Whole numbers and decimals of any scale and sign have one key exactly if they are the same
number, and values of one and the same of the types of texts, truth values, days, times of day, local moments and moments
in universal time have one key exactly if they are the same value. -/
theorem keys_of_exact_types (v w : Value) :
    (∀ p q : ℚ, v.exactNumber? = some p → w.exactNumber? = some q → (v.key = w.key ↔ p = q)) ∧
      (SameType v w → (v.key = w.key ↔ v = w)) := by
  refine ⟨fun p q hp hq => ?_, SameType.key_eq_iff⟩
  have hv : v.WrittenExactly := writtenExactly_of_exactNumber? hp
  have hw : w.WrittenExactly := writtenExactly_of_exactNumber? hq
  exact hv.key_eq_iff hw (number?_of_exactNumber? hp) (number?_of_exactNumber? hq)

/-- the decimal -1.50 against the whole number -1, and the leap second at the end of 2016 against the second before -/
theorem keys_of_leap_seconds :
    let d : Decimal := ⟨true, 150, 2, by decide, by decide⟩
    let e : Decimal := ⟨true, 1500, 3, by decide, by decide⟩
    let last : Date := ⟨2016, 12, 31, by decide⟩
    let leap : Value := .dateTimeUtc ⟨last, 23, 59, 60, 500000000, by decide⟩
    let before : Value := .dateTimeUtc ⟨last, 23, 59, 59, 500000000, by decide⟩
    (Value.decimal d).key = (Value.decimal e).key ∧ (Value.decimal d).key ≠ (Value.integer (-1)).key ∧
      leap.key ≠ before.key := by
  intro d e last leap before
  have hd : (Value.decimal d).exactNumber? = some (-3 / 2) := by
    simp only [d, exactNumber?, Decimal.toRat, signed]
    norm_num
  have he : (Value.decimal e).exactNumber? = some (-3 / 2) := by
    simp only [e, exactNumber?, Decimal.toRat, signed]
    norm_num
  have hwhole : (-1 : Int64).toInt = -1 := by decide
  have hone : (Value.integer (-1)).exactNumber? = some (-1) := by
    rw [exactNumber?, hwhole]
    norm_num
  obtain ⟨hequal, -⟩ := keys_of_exact_types (.decimal d) (.decimal e)
  obtain ⟨hunequal, -⟩ := keys_of_exact_types (.decimal d) (.integer (-1))
  obtain ⟨-, hmoments⟩ := keys_of_exact_types leap before
  refine ⟨(hequal _ _ hd he).mpr rfl, fun hkey => ?_, fun hkey => ?_⟩
  · exact absurd ((hunequal _ _ hd hone).mp hkey) (by norm_num)
  · exact absurd ((hmoments (.dateTimeUtc _ _)).mp hkey) (by decide)

end Value

end TableGraph
