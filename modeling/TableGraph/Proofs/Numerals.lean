/-
Decimal numerals: runs of digits, fields of a fixed width, and signed numbers with a point.

A number has many decimal texts, and a text like `0.50` says more than the number. `LeastDecimal` is a number as data, with
no more digits after the point than it needs and without a sign for zero; its text and the number determine each other.

Results:
- `Digits.length_padded`, `Digits.padded_injective`, `Digits.padded_append_inj`: fields of a fixed width.
- `Digits.ofNat_append_inj`: a number in front of something else.
- `Decimal.sizeText_injective`: a text with a point tells the coefficient and the number of digits after the point.
- `LeastDecimal.toRat_injective`, `LeastDecimal.text_injective`: one number, one text.
-/
import Mathlib.Tactic
import TableGraph.Number.Decimal
import TableGraph.Proofs.ExactValues

namespace TableGraph

/-! ## Digits -/

namespace Digits

theorem ofNat_injective : Function.Injective ofNat := Function.LeftInverse.injective value_ofNat

theorem isDigit_of_mem_ofNat {n : Nat} {c : Char} (h : c ∈ ofNat n) : c.isDigit = true :=
  Nat.isDigit_of_mem_toDigits (by decide) (by decide) h

theorem length_ofNat_pos (n : Nat) : 0 < (ofNat n).length := Nat.length_toDigits_pos

/-- a number of so many digits is below the power of ten -/
theorem lt_pow_length (n : Nat) : n < 10 ^ (ofNat n).length :=
  (Nat.length_toDigits_le_iff (by decide) (length_ofNat_pos n)).mp (Nat.le_refl _)

/-- a positive number is not below the power of ten that its first digit stands for -/
theorem pow_length_le {n : Nat} (hn : 0 < n) : 10 ^ ((ofNat n).length - 1) ≤ n := by
  have hlength := length_ofNat_pos n
  by_contra hlt
  by_cases hone : (ofNat n).length = 1
  · rw [hone] at hlt
    omega
  · have hle : (ofNat n).length ≤ (ofNat n).length - 1 :=
      (Nat.length_toDigits_le_iff (by decide) (by omega)).mpr (by omega)
    omega

/-- ten times a positive number has one more zero -/
theorem ofNat_mul_ten {n : Nat} (hn : 0 < n) : ofNat (n * 10) = ofNat n ++ ['0'] := by
  have happend := Nat.toDigits_append_toDigits (by decide : 1 < 10) hn (by decide : 0 < 10)
  rw [Nat.toDigits_zero, Nat.add_zero, Nat.mul_comm] at happend
  exact happend.symm

theorem ofNat_mul_pow {n : Nat} (hn : 0 < n) (k : Nat) : ofNat (n * 10 ^ k) = ofNat n ++ List.replicate k '0' := by
  induction k with
  | zero => simp
  | succ k ih =>
    have hpos : 0 < n * 10 ^ k := by positivity
    rw [pow_succ, ← mul_assoc, ofNat_mul_ten hpos, ih, List.append_assoc, List.replicate_succ']

theorem isDigit_of_mem_padded {width n : Nat} {c : Char} (h : c ∈ padded width n) : c.isDigit = true := by
  rcases List.mem_append.mp h with h | h
  · rw [List.eq_of_mem_replicate h]
    decide
  · exact isDigit_of_mem_ofNat h

/-- a run of digits has no other characters -/
theorem not_mem_of_isDigit {s : List Char} {c : Char} (h : ∀ d ∈ s, d.isDigit = true) (hc : c.isDigit = false) : c ∉ s := by
  intro hmem
  exact Bool.false_ne_true (hc.symm.trans (h c hmem))

/-- a field starts with a digit -/
theorem padded_ne_cons {c : Char} (hc : c.isDigit = false) (width n : Nat) (s : List Char) : padded width n ≠ c :: s := by
  intro h
  have hmem : c ∈ padded width n := h ▸ List.mem_cons_self
  exact not_mem_of_isDigit (fun _ => isDigit_of_mem_padded) hc hmem

/-- leading zeros do not count -/
theorem value_padded (width n : Nat) : value (padded width n) = n := by
  have hzeros (k : Nat) (s : List Char) : value (List.replicate k '0' ++ s) = value s := by
    induction k with
    | zero => rfl
    | succ k ih => exact ih
  rw [padded, hzeros, value_ofNat]

/-- **Fields tell their numbers**, whatever their widths -/
theorem padded_injective {width width' n m : Nat} (h : padded width n = padded width' m) : n = m := by
  rw [← value_padded width n, h, value_padded]

theorem length_padded_eq_max (width n : Nat) : (padded width n).length = max width (ofNat n).length := by
  rw [padded, List.length_append, List.length_replicate]
  omega

/-- **Fields have their width** if the number fits -/
theorem length_padded {width n : Nat} (hwidth : 0 < width) (h : n < 10 ^ width) : (padded width n).length = width := by
  have hle : (ofNat n).length ≤ width := (Nat.length_toDigits_le_iff (by decide) hwidth).mpr h
  rw [length_padded_eq_max]
  omega

/-- no digit comes next -/
def Ended (rest : List Char) : Prop := ∀ c ∈ rest.head?, c.isDigit = false

theorem ended_nil : Ended [] := nofun

theorem ended_cons {c : Char} (h : c.isDigit = false) (rest : List Char) : Ended (c :: rest) := by
  rintro d ⟨⟩
  exact h

/-- a run of digits ends where no digit comes next -/
theorem span_digits {s rest : List Char} (hdigits : ∀ c ∈ s, c.isDigit = true) (hrest : Ended rest) :
    (s ++ rest).takeWhile Char.isDigit = s ∧ (s ++ rest).dropWhile Char.isDigit = rest := by
  rw [List.takeWhile_append_of_pos hdigits, List.dropWhile_append_of_pos hdigits]
  cases rest with
  | nil => simp
  | cons c rest =>
    have hc : c.isDigit = false := hrest c rfl
    simp [hc]

/-- **Numbers can be read off** the front of a text that goes on with something else than a digit -/
theorem ofNat_append_inj {n m : Nat} {s t : List Char} (hs : Ended s) (ht : Ended t) (h : ofNat n ++ s = ofNat m ++ t) :
    n = m ∧ s = t := by
  obtain ⟨hn, hrest⟩ := span_digits (fun _ => isDigit_of_mem_ofNat) hs (s := ofNat n)
  obtain ⟨hm, hrest'⟩ := span_digits (fun _ => isDigit_of_mem_ofNat) ht (s := ofNat m)
  exact ⟨ofNat_injective (by rw [← hn, h, hm]), by rw [← hrest, h, hrest']⟩

/-- **Fields can be read off** the front of a text -/
theorem padded_append_inj {width n m : Nat} {s t : List Char} (hwidth : 0 < width) (hn : n < 10 ^ width)
    (hm : m < 10 ^ width) (h : padded width n ++ s = padded width m ++ t) : n = m ∧ s = t := by
  have hlength : (padded width n).length = (padded width m).length := by
    rw [length_padded hwidth hn, length_padded hwidth hm]
  obtain ⟨hfield, hrest⟩ := List.append_inj h hlength
  exact ⟨padded_injective hfield, hrest⟩

end Digits

/-! ## Numbers with a point -/

namespace Decimal

theorem sizeText_zero (coefficient : Nat) : sizeText coefficient 0 = Digits.ofNat coefficient := rfl

/-- a fraction is written as a point between digits, of which so many as the scale says come after the point -/
theorem exists_sizeText_eq (coefficient : Nat) {scale : Nat} (hscale : scale ≠ 0) :
    ∃ whole fraction, sizeText coefficient scale = whole ++ '.' :: fraction ∧
      whole ++ fraction = Digits.padded (scale + 1) coefficient ∧ fraction.length = scale ∧
      '.' ∉ whole ∧ '.' ∉ fraction := by
  have hlength := Digits.length_padded_eq_max (scale + 1) coefficient
  have hpoint : '.' ∉ Digits.padded (scale + 1) coefficient :=
    Digits.not_mem_of_isDigit (fun _ => Digits.isDigit_of_mem_padded) (by decide)
  refine ⟨_, _, if_neg hscale, List.take_append_drop _ _, ?_, ?_, ?_⟩
  · rw [List.length_drop]
    omega
  · exact fun h => hpoint (List.mem_of_mem_take h)
  · exact fun h => hpoint (List.mem_of_mem_drop h)

/-- a whole number has no point, a fraction has one -/
theorem sizeText_ne_sizeText_zero {c c' s : Nat} (hs : s ≠ 0) : sizeText c s ≠ sizeText c' 0 := by
  intro h
  obtain ⟨whole, fraction, htext, -⟩ := exists_sizeText_eq c hs
  have hpoint : '.' ∈ Digits.ofNat c' := by
    rw [← sizeText_zero, ← h, htext]
    exact List.mem_append_right whole List.mem_cons_self
  exact Digits.not_mem_of_isDigit (fun _ => Digits.isDigit_of_mem_ofNat) (by decide) hpoint

/-- **A text tells its parts**: the coefficient and the number of digits after the point -/
theorem sizeText_injective {c c' s s' : Nat} (h : sizeText c s = sizeText c' s') : c = c' ∧ s = s' := by
  by_cases hs : s = 0
  · by_cases hs' : s' = 0
    · subst hs hs'
      exact ⟨Digits.ofNat_injective h, rfl⟩
    · subst hs
      exact absurd h.symm (sizeText_ne_sizeText_zero hs')
  · by_cases hs' : s' = 0
    · subst hs'
      exact absurd h (sizeText_ne_sizeText_zero hs)
    · obtain ⟨whole, fraction, htext, hdigits, hlength, hwhole, hfraction⟩ := exists_sizeText_eq c hs
      obtain ⟨whole', fraction', htext', hdigits', hlength', -⟩ := exists_sizeText_eq c' hs'
      rw [htext, htext', List.append_cons_inj_of_notMem hwhole hfraction] at h
      obtain ⟨rfl, -, rfl⟩ := h
      exact ⟨Digits.padded_injective (hdigits.symm.trans hdigits'), hlength.symm.trans hlength'⟩

/-- the text of a size has no minus -/
theorem minus_not_mem_sizeText (coefficient scale : Nat) : '-' ∉ sizeText coefficient scale := by
  by_cases hscale : scale = 0
  · rw [hscale]
    exact Digits.not_mem_of_isDigit (fun _ => Digits.isDigit_of_mem_ofNat) (by decide)
  · obtain ⟨whole, fraction, htext, hdigits, -⟩ := exists_sizeText_eq coefficient hscale
    have hnone : '-' ∉ whole ++ fraction := by
      rw [hdigits]
      exact Digits.not_mem_of_isDigit (fun _ => Digits.isDigit_of_mem_padded) (by decide)
    rw [List.mem_append, not_or] at hnone
    rw [htext, List.mem_append, List.mem_cons, not_or, not_or]
    exact ⟨hnone.1, by decide, hnone.2⟩

end Decimal

/-! ## Least decimals -/

/-- a decimal number with no more digits after the point than it needs, where zero has no sign -/
@[ext]
structure LeastDecimal where
  negative : Bool
  coefficient : Nat
  scale : Nat
  least : scale = 0 ∨ coefficient % 10 ≠ 0
  zero_unsigned : coefficient = 0 → negative = false

namespace LeastDecimal

/-- the number -/
def toRat (d : LeastDecimal) : ℚ := signed d.negative (d.coefficient / 10 ^ d.scale)

/-- its text -/
def text (d : LeastDecimal) : List Char :=
  (if d.negative then ['-'] else []) ++ Decimal.sizeText d.coefficient d.scale

/-- equal fractions without needless digits have the same number of digits after the point -/
theorem scale_le_of_size_eq {c c' s s' : Nat} (hleast : s' = 0 ∨ c' % 10 ≠ 0)
    (h : (c : ℚ) / 10 ^ s = c' / 10 ^ s') : s' ≤ s := by
  by_contra hlt
  obtain ⟨k, rfl⟩ : ∃ k, s' = s + k + 1 := ⟨s' - s - 1, by omega⟩
  have hten : c' = c * 10 ^ k * 10 := by
    rw [div_eq_div_iff (by positivity) (by positivity), pow_succ, pow_add] at h
    have hpow : (10 : ℚ) ^ s ≠ 0 := by positivity
    have hcancel : (c' : ℚ) = c * 10 ^ k * 10 := mul_right_cancel₀ hpow (by linarith)
    exact_mod_cast hcancel
  rcases hleast with hzero | hmod
  · omega
  · exact hmod (by rw [hten]; exact Nat.mul_mod_left _ _)

theorem size_eq_iff {d e : LeastDecimal} :
    (d.coefficient : ℚ) / 10 ^ d.scale = e.coefficient / 10 ^ e.scale ↔
      d.coefficient = e.coefficient ∧ d.scale = e.scale := by
  constructor
  · intro h
    have hscale : d.scale = e.scale :=
      le_antisymm (scale_le_of_size_eq d.least h.symm) (scale_le_of_size_eq e.least h)
    rw [hscale, div_left_inj' (by positivity)] at h
    exact ⟨by exact_mod_cast h, hscale⟩
  · rintro ⟨hcoefficient, hscale⟩
    rw [hcoefficient, hscale]

/-- **One number, one decimal** -/
theorem toRat_injective : Function.Injective toRat := by
  intro d e h
  obtain ⟨hsize, hsign⟩ := signed_inj (by positivity) (by positivity) h
  obtain ⟨hcoefficient, hscale⟩ := size_eq_iff.mp hsize
  have hnegative : d.negative = e.negative := by
    rcases hsign with hzero | hnegative
    · have hd : d.coefficient = 0 := by
        rw [div_eq_zero_iff, Nat.cast_eq_zero] at hzero
        exact hzero.resolve_right (by positivity)
      rw [d.zero_unsigned hd, e.zero_unsigned (hcoefficient ▸ hd)]
    · exact hnegative
  exact LeastDecimal.ext hnegative hcoefficient hscale

/-- **One text, one decimal** -/
theorem text_injective : Function.Injective text := by
  intro d e h
  have hminus (d : LeastDecimal) : '-' ∈ d.text ↔ d.negative = true := by
    have hsize := Decimal.minus_not_mem_sizeText d.coefficient d.scale
    unfold text
    cases d.negative <;> simp [hsize]
  have hnegative : d.negative = e.negative := by
    rw [Bool.eq_iff_iff, ← hminus, ← hminus, h]
  rw [text, text, hnegative, List.append_cancel_left_eq] at h
  obtain ⟨hcoefficient, hscale⟩ := Decimal.sizeText_injective h
  exact LeastDecimal.ext hnegative hcoefficient hscale

/-- the least decimal of parts that may say too much: the sign is left out at zero -/
def ofLeast (negative : Bool) (coefficient scale : Nat) (least : scale = 0 ∨ coefficient % 10 ≠ 0) : LeastDecimal where
  negative := negative && coefficient != 0
  coefficient := coefficient
  scale := scale
  least := least
  zero_unsigned := by
    rintro rfl
    simp

theorem toRat_ofLeast (negative : Bool) (coefficient scale : Nat) (least : scale = 0 ∨ coefficient % 10 ≠ 0) :
    (ofLeast negative coefficient scale least).toRat = signed negative (coefficient / 10 ^ scale) := by
  change signed (negative && coefficient != 0) (coefficient / 10 ^ scale) = _
  by_cases hzero : coefficient = 0
  · simp [hzero, signed]
  · rw [bne_iff_ne.mpr hzero, Bool.and_true]

end LeastDecimal

end TableGraph
