/-
Decimals are read back from their canonical texts, as the decimal with the fewest digits that denotes the same number.

A decimal is read digit by digit, and a digit that does not fit ends the reading and rounds. No digit of a printed decimal
is such a digit: what is read so far never exceeds the coefficient in the end, and there are no more digits after the point
than the scale says. A run of digits therefore moves the reading on as a whole (`Reading.run_digits`).

Results:
- `Decimal.Reading.run_sizeText`: a coefficient and a scale are read from their text.
- `Decimal.ofText?_canonicalText`: a decimal equal to the printed one is read.
-/
import Mathlib.Data.List.TakeWhile
import TableGraph.Proofs.CanonicalKeys
import TableGraph.Proofs.WholeNumbers

namespace TableGraph.Decimal

/-! ## Digits -/

namespace Reading

/-- a reading moved on by a run of digits -/
def after (r : Reading) (s : List Char) : Reading where
  coefficient := Nat.ofDigitChars 10 s r.coefficient
  scale := if r.point then r.scale + s.length else 0
  point := r.point
  digit := r.digit || !s.isEmpty

/-- a reading that a run of digits can move on: it keeps within its bounds, and no digit before the point counts as one
after it -/
structure Takes (r : Reading) (s : List Char) : Prop where
  digits : ∀ c ∈ s, c.isDigit = true
  lt : Nat.ofDigitChars 10 s r.coefficient < 2 ^ 96
  scale_le : r.point = true → r.scale + s.length ≤ 28
  whole : r.point = false → r.scale = 0

theorem after_nil {r : Reading} (h : r.point = false → r.scale = 0) : r.after [] = r := by
  obtain ⟨coefficient, scale, point, digit⟩ := r
  cases point with
  | false =>
    obtain rfl : scale = 0 := h rfl
    simp [after]
  | true => simp [after]

theorem after_cons (r : Reading) (c : Char) (s : List Char) : r.after (c :: s) = (r.after [c]).after s := by
  obtain ⟨coefficient, scale, point, digit⟩ := r
  cases point with
  | false => simp [after, Nat.ofDigitChars_cons]
  | true => simp [after, Nat.ofDigitChars_cons, Nat.add_assoc, Nat.add_comm 1]

/-- one digit moves a reading on, and the rest of the run can follow -/
theorem Takes.step {r : Reading} {c : Char} {s : List Char} (h : r.Takes (c :: s)) (rest : List Char) :
    r.run (c :: rest) = (r.after [c]).run rest ∧ (r.after [c]).Takes s := by
  obtain ⟨hdigits, hlt, hscale, -⟩ := h
  obtain ⟨hc, hs⟩ := List.forall_mem_cons.mp hdigits
  rw [Nat.ofDigitChars_cons] at hlt
  rw [List.length_cons] at hscale
  constructor
  · -- what is read so far does not exceed the number in the end, so the limit is not met on the way
    have hgrown : 10 * r.coefficient + (c.toNat - '0'.toNat) < Nat.pow 2 96 := (Digits.le_ofDigitChars s _).trans_lt hlt
    have hroom : (r.point && decide (28 ≤ r.scale)) = false := by
      rw [Bool.and_eq_false_imp, decide_eq_false_iff_not]
      intro hpoint
      have hfits := hscale hpoint
      omega
    simp only [run, if_pos hc, hroom, Bool.false_eq_true, if_false, if_pos hgrown]
    simp [after, Nat.ofDigitChars_cons]
  · refine ⟨hs, by simpa [after, Nat.ofDigitChars_cons] using hlt, fun hpoint => ?_, fun hpoint => ?_⟩
    · have hpoint : r.point = true := hpoint
      have hfits := hscale hpoint
      simp only [after, hpoint, if_true, List.length_singleton]
      omega
    · have hpoint : r.point = false := hpoint
      simp [after, hpoint]

/-- **A run of digits** moves a reading on as a whole -/
theorem Takes.run {r : Reading} {s : List Char} (h : r.Takes s) (rest : List Char) :
    r.run (s ++ rest) = (r.after s).run rest := by
  induction s generalizing r with
  | nil => rw [after_nil h.whole, List.nil_append]
  | cons c s ih =>
    obtain ⟨hstep, hrest⟩ := h.step (s ++ rest)
    rw [List.cons_append, hstep, ih hrest, ← after_cons]

/-- a run of digits up to the end gives what has been read -/
theorem Takes.run_end {r : Reading} {s : List Char} (h : r.Takes s) (hne : 0 < s.length) :
    r.run s = some (Nat.ofDigitChars 10 s r.coefficient, if r.point then r.scale + s.length else 0) := by
  have hread := h.run []
  rw [List.append_nil] at hread
  have hdigit : (r.after s).digit = true := by
    rw [after, Bool.or_eq_true, Bool.not_eq_true', List.isEmpty_eq_false_iff, ← List.length_pos_iff]
    exact .inr hne
  rw [hread, Reading.run, if_pos hdigit]
  rfl

/-- the point is read once -/
theorem run_point {r : Reading} (h : r.point = false) (rest : List Char) :
    r.run ('.' :: rest) = ({ r with point := true } : Reading).run rest := by
  have hdigit : ¬('.'.isDigit = true) := by decide
  rw [run, if_neg hdigit, if_pos ⟨rfl, h⟩]

/-- **A coefficient and a scale** are read from their text -/
theorem run_sizeText {coefficient scale : Nat} (hlt : coefficient < 2 ^ 96) (hscale : scale ≤ 28) :
    Reading.run ⟨0, 0, false, false⟩ (sizeText coefficient scale) = some (coefficient, scale) := by
  by_cases hzero : scale = 0
  · subst hzero
    have hvalue : Nat.ofDigitChars 10 (Digits.ofNat coefficient) 0 = coefficient := Digits.value_ofNat coefficient
    have htakes : Takes ⟨0, 0, false, false⟩ (Digits.ofNat coefficient) :=
      ⟨fun _ => Digits.isDigit_of_mem_ofNat, by rwa [hvalue], nofun, fun _ => rfl⟩
    rw [sizeText_zero, htakes.run_end (Digits.length_ofNat_pos coefficient), hvalue]
    rfl
  · -- two runs of digits, which the point divides but which make one number
    obtain ⟨whole, fraction, htext, hdigits, hlength, -⟩ := exists_sizeText_eq coefficient hzero
    have hall : ∀ c ∈ whole ++ fraction, c.isDigit = true := by
      rw [hdigits]
      exact fun _ => Digits.isDigit_of_mem_padded
    have hvalue : Nat.ofDigitChars 10 fraction (Nat.ofDigitChars 10 whole 0) = coefficient := by
      rw [← Nat.ofDigitChars_append, hdigits]
      exact Digits.value_padded _ _
    have hwhole : Takes ⟨0, 0, false, false⟩ whole := by
      refine ⟨fun c hc => hall c (List.mem_append_left _ hc), ?_, nofun, fun _ => rfl⟩
      exact (Digits.le_ofDigitChars fraction _).trans_lt (by rwa [hvalue])
    have hfraction : Takes { after ⟨0, 0, false, false⟩ whole with point := true } fraction := by
      refine ⟨fun c hc => hall c (List.mem_append_right _ hc), hvalue.trans_lt hlt, fun _ => ?_, nofun⟩
      simp [after, hlength, hscale]
    rw [htext, hwhole.run, run_point rfl, hfraction.run_end (by omega), ← hlength, ← hvalue]
    simp [after]

end Reading

/-! ## Canonical texts -/

theorem mem_sizeText {coefficient scale : Nat} {c : Char} (h : c ∈ sizeText coefficient scale) :
    c.isDigit = true ∨ c = '.' := by
  by_cases hzero : scale = 0
  · subst hzero
    exact .inl (Digits.isDigit_of_mem_ofNat h)
  · obtain ⟨whole, fraction, htext, hdigits, -⟩ := exists_sizeText_eq coefficient hzero
    rw [htext, List.mem_append, List.mem_cons] at h
    have hall (hc : c ∈ whole ++ fraction) : c.isDigit = true := Digits.isDigit_of_mem_padded (hdigits ▸ hc)
    rcases h with h | h | h
    · exact .inl (hall (List.mem_append_left _ h))
    · exact .inr h
    · exact .inl (hall (List.mem_append_right _ h))

/-- the characters of a least decimal -/
theorem mem_leastText {e : LeastDecimal} {c : Char} (h : c ∈ e.text) : c.isDigit = true ∨ c = '.' ∨ c = '-' := by
  rw [LeastDecimal.text, List.mem_append] at h
  rcases h with hsign | hsize
  · rw [List.mem_ite_nil_right, List.mem_singleton] at hsign
    exact .inr (.inr hsign.2)
  · exact (mem_sizeText hsize).imp_right .inl

/-- a text with no sign in it is read as a size -/
theorem ofPlainText?_of_unsigned {s : List Char} (hminus : '-' ∉ s) (hplus : '+' ∉ s) :
    ofPlainText? s = (Reading.run ⟨0, 0, false, false⟩ s).bind fun (coefficient, scale) =>
      unsignedZero? false coefficient scale := by
  unfold ofPlainText?
  split
  next negative size heq =>
  split at heq
  · exact absurd List.mem_cons_self hminus
  · exact absurd List.mem_cons_self hplus
  · obtain ⟨rfl, rfl⟩ := Prod.mk.inj heq
    rfl

theorem ofPlainText?_minus (s : List Char) :
    ofPlainText? ('-' :: s) = (Reading.run ⟨0, 0, false, false⟩ s).bind fun (coefficient, scale) =>
      unsignedZero? true coefficient scale := rfl

/-- a size is read with the sign that stands before it -/
theorem ofPlainText?_sizeText {coefficient scale : Nat} (hlt : coefficient < 2 ^ 96) (hscale : scale ≤ 28)
    (negative : Bool) :
    ofPlainText? ((if negative then ['-'] else []) ++ sizeText coefficient scale) =
      unsignedZero? negative coefficient scale := by
  have hread := Reading.run_sizeText hlt hscale
  have hplus : '+' ∉ sizeText coefficient scale := fun h => by simpa using mem_sizeText h
  cases negative with
  | true => rw [if_pos rfl, List.singleton_append, ofPlainText?_minus, hread, Option.bind_some]
  | false =>
    rw [if_neg Bool.false_ne_true, List.nil_append,
      ofPlainText?_of_unsigned (minus_not_mem_sizeText coefficient scale) hplus, hread, Option.bind_some]

/-- a text without the mark of an exponent is read as it is -/
theorem ofText?_of_plain {s : List Char} (h : ∀ c ∈ s, c ≠ 'e' ∧ c ≠ 'E') : ofText? s = ofPlainText? s := by
  have hmantissa : (s.takeWhile fun c => !decide (c = 'e' ∨ c = 'E')) = s := by
    rw [List.takeWhile_eq_self_iff]
    intro c hc
    simp [h c hc]
  simp only [ofText?, hmantissa, List.drop_length]

/-- the sign of a least decimal is not one of zero -/
theorem unsignedZero?_least (e : LeastDecimal) (hlt : e.coefficient < 2 ^ 96) (hscale : e.scale ≤ 28) :
    unsignedZero? e.negative e.coefficient e.scale = some ⟨e.negative, e.coefficient, e.scale, hlt, hscale⟩ := by
  have hsign : (e.negative && e.coefficient != 0) = e.negative := by
    rw [Bool.and_eq_left_iff_imp]
    intro hnegative
    exact bne_iff_ne.mpr fun hzero => Bool.false_ne_true ((e.zero_unsigned hzero).symm.trans hnegative)
  rw [unsignedZero?, hsign]
  exact dif_pos ⟨hlt, hscale⟩

/-- **The text of a least decimal** is read as this decimal, if it is within the bounds of decimals -/
theorem ofText?_text (e : LeastDecimal) (hlt : e.coefficient < 2 ^ 96) (hscale : e.scale ≤ 28) :
    ofText? e.text = some ⟨e.negative, e.coefficient, e.scale, hlt, hscale⟩ := by
  have hplain : ∀ c ∈ e.text, c ≠ 'e' ∧ c ≠ 'E' := by
    intro c hc
    constructor
    · rintro rfl
      exact absurd (mem_leastText hc) (by decide)
    · rintro rfl
      exact absurd (mem_leastText hc) (by decide)
  rw [ofText?_of_plain hplain, LeastDecimal.text, ofPlainText?_sizeText hlt hscale, unsignedZero?_least e hlt hscale]

/-- removing digits of a fraction makes neither part larger -/
theorem coefficient_least_le (d : Decimal) : d.least.coefficient ≤ d.coefficient := by
  have hvalue := stripZeros_value d.coefficient d.scale
  exact (Nat.le_mul_of_pos_right _ (Nat.pow_pos (by decide))).trans_eq hvalue

theorem scale_least_le (d : Decimal) : d.least.scale ≤ d.scale := stripZeros_scale_le d.coefficient d.scale

/-- **A canonical text is read back** as a decimal that denotes the same number -/
theorem ofText?_canonicalText (d : Decimal) : ∃ e, ofText? d.canonicalText = some e ∧ e.toRat = d.toRat := by
  have hlt : d.least.coefficient < 2 ^ 96 := d.coefficient_least_le.trans_lt d.coefficient_lt
  have hscale : d.least.scale ≤ 28 := d.scale_least_le.trans d.scale_le
  rw [canonicalText_eq]
  exact ⟨_, ofText?_text d.least hlt hscale, d.toRat_least⟩

/-- a canonical text has no white space -/
theorem isBlank_of_mem_canonicalText {d : Decimal} {c : Char} (h : c ∈ d.canonicalText) : Text.isBlank c = false := by
  rw [canonicalText_eq] at h
  rcases mem_leastText h with hdigit | rfl | rfl
  · exact Whole.isBlank_of_isDigit hdigit
  · decide
  · decide

end TableGraph.Decimal
