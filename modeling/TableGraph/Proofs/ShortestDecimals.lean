/-
The search for the shortest decimal of a floating-point number ends at the number itself, if that is a short decimal.

In general the shortest decimal that reads back is another number: it is only nearer to the floating-point number than to
the next ones. But let the number be a whole number of units of some power of ten, and let floating-point numbers lie there
no further apart than such a unit. Then a decimal with fewer digits is a unit away at least, which is not near enough, and
so the search, which tries fewer digits first, finds nothing before the number.

Whatever the number is, the search ends after seventeen digits, at a decimal in the interval of the number.

Results:
- `Binary64.eq_of_inside_coarse`: no other point of a coarse grid is near enough.
- `Binary64.onGrid?_eq_some`: what the search accepts on any grid is the number.
- `Binary64.shortest_eq`: the search ends, and with the digits of the number.
- `Binary64.exists_shortest_eq`: the search ends for every number, at a decimal in its interval.
-/
import Mathlib.Tactic
import TableGraph.Number.Binary64.Shortest
import TableGraph.Proofs.Numerals

namespace TableGraph

namespace Binary64

/-! ## Fractions -/

/-- the exponent of the first digit tells between which powers of ten a fraction lies -/
theorem leadingExponent_spec {num den : Nat} (hnum : 0 < num) (hden : 0 < den) :
    (10 : ℚ) ^ leadingExponent num den ≤ num / den ∧ (num : ℚ) / den < 10 ^ (leadingExponent num den + 1) := by
  have hposition : (0 : ℚ) < den := by exact_mod_cast hden
  unfold leadingExponent
  split
  · next hle =>
    -- the digits of the whole part
    have hpos : 0 < num / den := Nat.div_pos hle hden
    have hlow := Digits.pow_length_le hpos
    have hhigh := Digits.lt_pow_length (num / den)
    have hlength := Digits.length_ofNat_pos (num / den)
    generalize (Digits.ofNat (num / den)).length = k at hlow hhigh hlength
    obtain ⟨k, rfl⟩ : ∃ j, k = j + 1 := ⟨k - 1, by omega⟩
    rw [Nat.add_sub_cancel] at hlow
    rw [Nat.cast_add_one, add_sub_cancel_right, zpow_natCast, ← Nat.cast_add_one, zpow_natCast]
    constructor
    · rw [le_div_iff₀ hposition]
      exact_mod_cast (Nat.le_div_iff_mul_le hden).mp hlow
    · rw [div_lt_iff₀ hposition]
      exact_mod_cast (Nat.div_lt_iff_lt_mul hden).mp hhigh
  · next hlt =>
    -- the zeros after the point, which are the digits of the inverse fraction
    have hpos : 0 < (den - 1) / num := Nat.div_pos (by omega) hnum
    have hlow := Digits.pow_length_le hpos
    have hhigh := Digits.lt_pow_length ((den - 1) / num)
    have hlength := Digits.length_ofNat_pos ((den - 1) / num)
    generalize (Digits.ofNat ((den - 1) / num)).length = k at hlow hhigh hlength
    obtain ⟨k, rfl⟩ : ∃ j, k = j + 1 := ⟨k - 1, by omega⟩
    rw [Nat.add_sub_cancel, Nat.le_div_iff_mul_le hnum] at hlow
    rw [Nat.div_lt_iff_lt_mul hnum] at hhigh
    have hexponent : -((k + 1 : Nat) : Int) + 1 = -(k : Int) := by push_cast; ring
    rw [hexponent, zpow_neg, zpow_natCast, zpow_neg, zpow_natCast]
    constructor
    · have hle : den ≤ 10 ^ (k + 1) * num := by omega
      rw [le_div_iff₀ hposition, inv_mul_le_iff₀ (by positivity)]
      exact_mod_cast hle
    · have hlt : 10 ^ k * num < den := by omega
      rw [div_lt_iff₀ hposition, lt_inv_mul_iff₀ (by positivity)]
      exact_mod_cast hlt

theorem timesPowerOfTen_pos {num den : Nat} (hnum : 0 < num) (hden : 0 < den) (k : Int) :
    0 < (timesPowerOfTen num den k).1 ∧ 0 < (timesPowerOfTen num den k).2 := by
  have hpower (n : Nat) : 0 < Nat.pow 10 n := Nat.pow_pos (by decide)
  cases k with
  | ofNat n => exact ⟨Nat.mul_pos hnum (hpower n), hden⟩
  | negSucc n => exact ⟨hnum, Nat.mul_pos hden (hpower (n + 1))⟩

theorem timesPowerOfTen_eq (num den : Nat) (k : Int) :
    ((timesPowerOfTen num den k).1 : ℚ) / (timesPowerOfTen num den k).2 = num / den * 10 ^ k := by
  cases k with
  | ofNat n => simp [timesPowerOfTen, mul_div_right_comm]
  | negSucc n => simp [timesPowerOfTen, zpow_negSucc, div_eq_mul_inv, mul_assoc, mul_comm]

/-! ## The rounding interval -/

/-- the interval holds a size, given in quarters of the unit -/
def RoundingInterval.Holds (range : RoundingInterval) (quarters : ℚ) : Prop :=
  if range.closed = true then (range.low : ℚ) ≤ quarters ∧ quarters ≤ range.high
  else (range.low : ℚ) < quarters ∧ quarters < range.high

theorem contains_iff_holds {range : RoundingInterval} {num den : Nat} (hden : 0 < den) :
    range.contains num den = true ↔ range.Holds (num / den) := by
  have hposition : (0 : ℚ) < den := by exact_mod_cast hden
  unfold RoundingInterval.contains RoundingInterval.Holds
  split
  · rw [decide_eq_true_iff, le_div_iff₀ hposition, div_le_iff₀ hposition]
    exact_mod_cast Iff.rfl
  · rw [decide_eq_true_iff, lt_div_iff₀ hposition, div_lt_iff₀ hposition]
    exact_mod_cast Iff.rfl

/-- a number lies in its interval -/
theorem contains_self {significand n : Nat} (exponent : Int) (hpos : 0 < significand) (hn : 0 < n) :
    (roundingInterval significand exponent).contains (4 * significand * n) n = true := by
  have hlow : (roundingInterval significand exponent).low < 4 * significand := by
    unfold roundingInterval
    split <;> simp only <;> omega
  have hhigh : 4 * significand < (roundingInterval significand exponent).high := by
    simp [roundingInterval]
  have hlow' := Nat.mul_lt_mul_of_pos_right hlow hn
  have hhigh' := Nat.mul_lt_mul_of_pos_right hhigh hn
  unfold RoundingInterval.contains
  split
  · exact decide_eq_true ⟨hlow'.le, hhigh'.le⟩
  · exact decide_eq_true ⟨hlow', hhigh'⟩

/-- what lies in the interval is half a unit away at most, that is two quarters -/
theorem near_of_contains {significand num den : Nat} {exponent : Int}
    (h : (roundingInterval significand exponent).contains num den = true) :
    4 * significand * den ≤ num + 2 * den ∧ num ≤ 4 * significand * den + 2 * den := by
  have hlow : 4 * significand ≤ (roundingInterval significand exponent).low + 2 := by
    unfold roundingInterval
    split <;> simp only <;> omega
  have hlow' := Nat.mul_le_mul_right den hlow
  have hhigh : (roundingInterval significand exponent).high * den = 4 * significand * den + 2 * den := Nat.add_mul _ _ _
  rw [Nat.add_mul] at hlow'
  unfold RoundingInterval.contains at h
  split at h
  · have h := of_decide_eq_true h
    omega
  · have h := of_decide_eq_true h
    omega

/-! ## Grids -/

/-- a size is a whole number of units of a power of ten, and is not finer than its binary unit -/
structure ShortDecimal (significand : Nat) (exponent : Int) (coefficient : Nat) (unit : Int) : Prop where
  size_eq : (significand : ℚ) * 2 ^ exponent = coefficient * 10 ^ unit
  spacing_le : (2 : ℚ) ^ exponent ≤ 10 ^ unit

/-- the fraction of a size, in units of a power of ten -/
def inUnits (significand : Nat) (exponent k : Int) : Nat × Nat :=
  timesPowerOfTen (sizeRatio significand exponent).1 (sizeRatio significand exponent).2 k

theorem inUnits_eq (significand : Nat) (exponent k : Int) :
    ((inUnits significand exponent k).1 : ℚ) / (inUnits significand exponent k).2 =
      significand * 2 ^ exponent * 10 ^ k := by
  rw [inUnits, timesPowerOfTen_eq, sizeRatio_eq]

theorem sizeRatio_num_pos {significand : Nat} (exponent : Int) (hpos : 0 < significand) :
    0 < (sizeRatio significand exponent).1 := by
  cases exponent with
  | ofNat k => exact Nat.mul_pos hpos (Nat.pow_pos (by decide))
  | negSucc k => exact hpos

theorem inUnits_pos {significand : Nat} (exponent k : Int) (hpos : 0 < significand) :
    0 < (inUnits significand exponent k).1 ∧ 0 < (inUnits significand exponent k).2 :=
  timesPowerOfTen_pos (sizeRatio_num_pos exponent hpos) (sizeRatio_den_pos significand exponent) k

/-- whether a point of a grid lies in the interval of a number -/
def inside (significand : Nat) (exponent k : Int) (point : Nat) : Bool :=
  (roundingInterval significand exponent).contains
    (4 * significand * (point * (inUnits significand exponent k).2)) (inUnits significand exponent k).1

/-- a point of a grid lies in the interval as the decimal that it is -/
theorem inside_iff_holds {significand point : Nat} {exponent k : Int} (hpos : 0 < significand) :
    inside significand exponent k point = true ↔
      (roundingInterval significand exponent).Holds (4 * (point * 10 ^ (-k) / 2 ^ exponent)) := by
  obtain ⟨hn, hd⟩ := inUnits_pos exponent k hpos
  have hvalue := inUnits_eq significand exponent k
  rw [inside, contains_iff_holds hn]
  generalize (inUnits significand exponent k).1 = n at hn hvalue ⊢
  generalize (inUnits significand exponent k).2 = d at hd hvalue ⊢
  have hd : (d : ℚ) ≠ 0 := by exact_mod_cast hd.ne'
  have hfraction : ((4 * significand * (point * d) : Nat) : ℚ) / n = 4 * (point * 10 ^ (-k) / 2 ^ exponent) := by
    have hn : (n : ℚ) = significand * 2 ^ exponent * 10 ^ k * d := by rwa [div_eq_iff hd] at hvalue
    rw [hn, zpow_neg]
    push_cast
    field_simp
  rw [hfraction]

theorem near_of_inside {significand point : Nat} {exponent k : Int} (hpos : 0 < significand)
    (h : inside significand exponent k point = true) :
    4 * (significand * (2 ^ exponent * 10 ^ k) : ℚ) ≤ 4 * point + 2 * (2 ^ exponent * 10 ^ k) ∧
      (4 * point : ℚ) ≤ 4 * (significand * (2 ^ exponent * 10 ^ k)) + 2 * (2 ^ exponent * 10 ^ k) := by
  obtain ⟨-, hd⟩ := inUnits_pos exponent k hpos
  have hvalue := inUnits_eq significand exponent k
  have hnear := near_of_contains h
  generalize (inUnits significand exponent k).1 = n at hvalue hnear
  generalize (inUnits significand exponent k).2 = d at hd hvalue hnear
  -- both sides are multiples of `2 * significand * d`
  have hfactor : (0 : ℚ) < 2 * significand * d := by positivity
  have hn : (n : ℚ) = significand * (2 ^ exponent * 10 ^ k) * d := by
    rw [div_eq_iff (by positivity)] at hvalue
    rw [hvalue]
    ring
  have hlow : (4 * significand * n : ℚ) ≤ 4 * significand * (point * d) + 2 * n := by exact_mod_cast hnear.1
  have hhigh : (4 * significand * (point * d) : ℚ) ≤ 4 * significand * n + 2 * n := by exact_mod_cast hnear.2
  rw [hn] at hlow hhigh
  generalize (2 : ℚ) ^ exponent * 10 ^ k = w at hlow hhigh ⊢
  constructor
  · have h : 2 * significand * d * (2 * (significand * w)) ≤ 2 * significand * d * (2 * point + w) := by linarith
    linarith [le_of_mul_le_mul_left h hfactor]
  · have h : 2 * significand * d * (2 * point) ≤ 2 * significand * d * (2 * (significand * w) + w) := by linarith
    linarith [le_of_mul_le_mul_left h hfactor]

section Grid

variable {significand coefficient : Nat} {exponent unit : Int} (hpos : 0 < significand)
  (hshort : ShortDecimal significand exponent coefficient unit)
include hpos hshort

/-- **On a coarse grid** a point that is near enough is the number: else it would be a unit away -/
theorem eq_of_inside_coarse {k : Int} {t point : Nat} (hcoarse : unit + k + t = 0)
    (h : inside significand exponent k point = true) : point * 10 ^ t = coefficient := by
  obtain ⟨hlow, hhigh⟩ := near_of_inside hpos h
  have hscale : (0 : ℚ) < 10 ^ t := by positivity
  have hnumber : significand * (2 ^ exponent * 10 ^ k) * 10 ^ t = (coefficient : ℚ) := by
    rw [← mul_assoc, hshort.size_eq, mul_assoc, mul_assoc, ← zpow_natCast (10 : ℚ) t, ← zpow_add₀ (by norm_num),
      ← zpow_add₀ (by norm_num), ← add_assoc, hcoarse, zpow_zero, mul_one]
  have hunit : (2 : ℚ) ^ exponent * 10 ^ k * 10 ^ t ≤ 1 := by
    have hinverse : (10 : ℚ) ^ k * 10 ^ t = (10 ^ unit)⁻¹ := by
      rw [← zpow_natCast (10 : ℚ) t, ← zpow_add₀ (by norm_num), ← zpow_neg]
      congr 1
      omega
    rw [mul_assoc, hinverse, mul_inv_le_iff₀ (by positivity), one_mul]
    exact hshort.spacing_le
  have hlow' := mul_le_mul_of_nonneg_right hlow hscale.le
  have hhigh' := mul_le_mul_of_nonneg_right hhigh hscale.le
  have hle : (4 * coefficient : ℚ) ≤ 4 * (point * 10 ^ t) + 2 := by linarith
  have hge : (4 * (point * 10 ^ t) : ℚ) ≤ 4 * coefficient + 2 := by linarith
  have hle' : 4 * coefficient ≤ 4 * (point * 10 ^ t) + 2 := by exact_mod_cast hle
  have hge' : 4 * (point * 10 ^ t) ≤ 4 * coefficient + 2 := by exact_mod_cast hge
  omega

/-- on a fine grid the number is a point, and in units of the grid it is a whole number -/
theorem inUnits_fine {k : Int} {t : Nat} (hfine : unit + k = t) :
    (inUnits significand exponent k).1 = coefficient * 10 ^ t * (inUnits significand exponent k).2 := by
  obtain ⟨-, hd⟩ := inUnits_pos exponent k hpos
  have hvalue := inUnits_eq significand exponent k
  rw [hshort.size_eq, mul_assoc, ← zpow_add₀ (by norm_num), hfine, zpow_natCast, div_eq_iff (by positivity)] at hvalue
  exact_mod_cast hvalue

end Grid

/-- the point that the search accepts on a grid, by whether the two neighbours of the number are near enough -/
theorem onGrid?_eq (round : Nat → Nat → Nat) (significand : Nat) (exponent leading : Int) (count : Nat) {k : Int}
    (hk : k = count - 1 - leading) :
    onGrid? round significand exponent leading count =
      match inside significand exponent k ((inUnits significand exponent k).1 / (inUnits significand exponent k).2),
        inside significand exponent k ((inUnits significand exponent k).1 / (inUnits significand exponent k).2 + 1) with
      | true, true => some (round (inUnits significand exponent k).1 (inUnits significand exponent k).2)
      | true, false => some ((inUnits significand exponent k).1 / (inUnits significand exponent k).2)
      | false, true => some ((inUnits significand exponent k).1 / (inUnits significand exponent k).2 + 1)
      | false, false => none := by
  subst hk
  rfl

section Search

variable {significand coefficient : Nat} {exponent unit : Int} (hpos : 0 < significand)
  (hshort : ShortDecimal significand exponent coefficient unit) {round : Nat → Nat → Nat}
  (hround : ∀ (n : Nat) {d : Nat}, 0 < d → round (n * d) d = n)
include hpos hshort

/-- **On a coarse grid** the search accepts the number only -/
theorem onGrid?_coarse (leading : Int) {count t point : Nat} (hcoarse : unit + (count - 1 - leading) + t = 0)
    (h : onGrid? round significand exponent leading count = some point) : point * 10 ^ t = coefficient := by
  rw [onGrid?_eq round significand exponent leading count rfl] at h
  split at h
  · next hbelow habove =>
    -- the two neighbours cannot both be the number
    have heq := (eq_of_inside_coarse hpos hshort hcoarse hbelow).trans
      (eq_of_inside_coarse hpos hshort hcoarse habove).symm
    have hpower : 0 < 10 ^ t := by positivity
    exact absurd (Nat.eq_of_mul_eq_mul_right hpower heq) (Nat.succ_ne_self _).symm
  · next hbelow _ =>
    rw [← Option.some.inj h]
    exact eq_of_inside_coarse hpos hshort hcoarse hbelow
  · next _ habove =>
    rw [← Option.some.inj h]
    exact eq_of_inside_coarse hpos hshort hcoarse habove
  · exact nomatch h

include hround in
/-- **On a fine grid** the search accepts the number -/
theorem onGrid?_fine (leading : Int) {count t : Nat} (hfine : unit + (count - 1 - leading) = t) :
    onGrid? round significand exponent leading count = some (coefficient * 10 ^ t) := by
  obtain ⟨k, hk⟩ : ∃ k : Int, k = count - 1 - leading := ⟨_, rfl⟩
  rw [← hk] at hfine
  obtain ⟨hn, hd⟩ := inUnits_pos exponent k hpos
  have hfraction := inUnits_fine hpos hshort hfine
  have hdiv : (inUnits significand exponent k).1 / (inUnits significand exponent k).2 = coefficient * 10 ^ t := by
    rw [hfraction, Nat.mul_div_cancel _ hd]
  have hinside : inside significand exponent k (coefficient * 10 ^ t) = true := by
    rw [inside, ← hfraction]
    exact contains_self exponent hpos hn
  rw [onGrid?_eq round significand exponent leading count hk, hdiv, hinside, hfraction, hround _ hd]
  cases inside significand exponent k (coefficient * 10 ^ t + 1) <;> rfl

include hround in
/-- **On any grid** the search accepts no other number -/
theorem onGrid?_eq_some {leading : Int} {count point : Nat}
    (h : onGrid? round significand exponent leading count = some point) :
    (point : ℚ) * 10 ^ (leading - count + 1) = significand * 2 ^ exponent := by
  rw [hshort.size_eq]
  by_cases hcoarse : unit + (count - 1 - leading) ≤ 0
  · obtain ⟨t, ht⟩ := Int.eq_ofNat_of_zero_le (Int.neg_nonneg_of_nonpos hcoarse)
    have hpoint := onGrid?_coarse hpos hshort leading (by omega : unit + (count - 1 - leading) + t = 0) h
    have hunit : leading - count + 1 = t + unit := by omega
    rw [← hpoint, hunit, zpow_add₀ (by norm_num), zpow_natCast]
    push_cast
    ring
  · obtain ⟨t, ht⟩ := Int.eq_ofNat_of_zero_le (le_of_not_ge hcoarse)
    have hpoint := onGrid?_fine hpos hshort hround leading ht
    rw [h, Option.some.injEq] at hpoint
    have hunit : unit = t + (leading - count + 1) := by omega
    generalize leading - (count : Int) + 1 = place at hunit ⊢
    rw [hpoint, hunit, zpow_add₀ (by norm_num), zpow_natCast]
    push_cast
    ring

/-- the first digit stands among the first seventeen places above the unit -/
theorem leading_bounds (hsignificand : significand < 2 ^ 53) {leading : Int}
    (hlow : (10 : ℚ) ^ leading ≤ significand * 2 ^ exponent)
    (hhigh : significand * 2 ^ exponent < (10 : ℚ) ^ (leading + 1)) : unit ≤ leading ∧ leading ≤ unit + 16 := by
  have hunit : (0 : ℚ) < 10 ^ unit := by positivity
  have hcoefficient : 1 ≤ coefficient := by
    by_contra hzero
    have hnone : coefficient = 0 := by omega
    have hsize := hshort.size_eq
    rw [hnone, Nat.cast_zero, zero_mul] at hsize
    have hpositive : (0 : ℚ) < significand * 2 ^ exponent := by positivity
    exact hpositive.ne' hsize
  have hsmall : (coefficient : ℚ) < 2 ^ 53 := by
    have hlt : (significand : ℚ) < 2 ^ 53 := by exact_mod_cast hsignificand
    have hle : (coefficient : ℚ) * 10 ^ unit < 2 ^ 53 * 10 ^ unit := by
      calc (coefficient : ℚ) * 10 ^ unit
          = significand * 2 ^ exponent := hshort.size_eq.symm
        _ < 2 ^ 53 * 2 ^ exponent := mul_lt_mul_of_pos_right hlt (by positivity)
        _ ≤ 2 ^ 53 * 10 ^ unit := mul_le_mul_of_nonneg_left hshort.spacing_le (by positivity)
    exact lt_of_mul_lt_mul_right hle hunit.le
  rw [hshort.size_eq] at hlow hhigh
  constructor
  · have hlt : (10 : ℚ) ^ unit < 10 ^ (leading + 1) := by
      calc (10 : ℚ) ^ unit
          ≤ coefficient * 10 ^ unit := le_mul_of_one_le_left hunit.le (by exact_mod_cast hcoefficient)
        _ < 10 ^ (leading + 1) := hhigh
    have := (zpow_lt_zpow_iff_right₀ (by norm_num)).mp hlt
    omega
  · have hlt : (10 : ℚ) ^ leading < 10 ^ (unit + 17) := by
      calc (10 : ℚ) ^ leading
          ≤ coefficient * 10 ^ unit := hlow
        _ < 10 ^ 17 * 10 ^ unit := mul_lt_mul_of_pos_right (hsmall.trans (by norm_num)) hunit
        _ = 10 ^ (unit + 17) := by rw [zpow_add₀ (by norm_num), mul_comm]; norm_num
    have := (zpow_lt_zpow_iff_right₀ (by norm_num)).mp hlt
    omega

include hround in
/-- **The search ends** at the number -/
theorem exists_grid {leading : Int} (hlow : unit ≤ leading) (hhigh : leading ≤ unit + 16) :
    ∃ count point, ((List.range 17).findSome? fun k =>
        (onGrid? round significand exponent leading (k + 1)).map fun point => (k + 1, point)) = some (count, point) ∧
      (point : ℚ) * 10 ^ (leading - count + 1) = significand * 2 ^ exponent := by
  cases hfound : (List.range 17).findSome? fun k =>
      (onGrid? round significand exponent leading (k + 1)).map fun point => (k + 1, point) with
  | none =>
    -- on the grid of its own unit the number is found
    obtain ⟨k, hk⟩ := Int.eq_ofNat_of_zero_le (Int.sub_nonneg_of_le hlow)
    have hnone := List.findSome?_eq_none_iff.mp hfound k (List.mem_range.mpr (by omega))
    have hgrid := onGrid?_fine hpos hshort hround leading
      (by push_cast; omega : unit + ((k + 1 : Nat) - 1 - leading) = (0 : Nat))
    rw [hgrid] at hnone
    exact nomatch hnone
  | some found =>
    obtain ⟨k, -, hk⟩ := List.exists_of_findSome?_eq_some hfound
    obtain ⟨point, hpoint, rfl⟩ := Option.map_eq_some_iff.mp hk
    exact ⟨_, _, rfl, onGrid?_eq_some hpos hshort hround hpoint⟩

end Search

/-! ## Digits -/

theorem dropTrailingZeros_append (s : List Char) (z : Nat) :
    dropTrailingZeros (s ++ List.replicate z '0') = dropTrailingZeros s := by
  unfold dropTrailingZeros
  induction z with
  | zero => simp
  | succ z ih =>
    rw [List.replicate_succ', ← List.append_assoc, List.reverse_append]
    exact ih

/-- the last digit of a number -/
theorem exists_ofNat_eq (n : Nat) : ∃ s, Digits.ofNat n = s ++ [Nat.digitChar (n % 10)] := by
  rw [Digits.ofNat, Nat.toDigits_eq_if (by decide)]
  split
  · next hlt => exact ⟨[], by rw [Nat.mod_eq_of_lt hlt]; rfl⟩
  · exact ⟨_, rfl⟩

theorem dropTrailingZeros_ofNat {n : Nat} (h : n % 10 ≠ 0) : dropTrailingZeros (Digits.ofNat n) = Digits.ofNat n := by
  obtain ⟨s, hs⟩ := exists_ofNat_eq n
  have hlast : (Nat.digitChar (n % 10) == '0') = false := by simpa using h
  rw [hs, dropTrailingZeros, List.reverse_append, List.reverse_singleton, List.singleton_append,
    List.dropWhile_cons_of_neg (by simp [hlast]), List.reverse_cons, List.reverse_reverse]

/-- a positive number is one that does not end in a zero, with zeros behind it; these are dropped -/
theorem exists_dropTrailingZeros_eq {point : Nat} (h : point ≠ 0) :
    ∃ z c, c % 10 ≠ 0 ∧ point = 10 ^ z * c ∧ Digits.ofNat point = Digits.ofNat c ++ List.replicate z '0' ∧
      dropTrailingZeros (Digits.ofNat point) = Digits.ofNat c := by
  obtain ⟨z, c, hc, rfl⟩ := Nat.exists_eq_pow_mul_and_not_dvd h 10 (by decide)
  have hc : c % 10 ≠ 0 := fun hmod => hc (Nat.dvd_of_mod_eq_zero hmod)
  have hdigits : Digits.ofNat (10 ^ z * c) = Digits.ofNat c ++ List.replicate z '0' := by
    rw [mul_comm, Digits.ofNat_mul_pow (Nat.pos_of_ne_zero fun hzero => hc (by rw [hzero]))]
  refine ⟨z, c, hc, rfl, hdigits, ?_⟩
  rw [hdigits, dropTrailingZeros_append, dropTrailingZeros_ofNat hc]

/-- zeros that are dropped leave the number that the digits stand for as it is -/
theorem dropped_value (c z : Nat) (leading count : Int) :
    (c : ℚ) * 10 ^ (leading + (((Digits.ofNat c).length + z : Nat) - count) - (Digits.ofNat c).length + 1) =
      ((10 ^ z * c : Nat) : ℚ) * 10 ^ (leading - count + 1) := by
  have hplace : leading + (((Digits.ofNat c).length + z : Nat) - count) - (Digits.ofNat c).length + 1 =
      z + (leading - count + 1) := by
    push_cast
    ring
  rw [hplace, zpow_add₀ (by norm_num), zpow_natCast]
  push_cast
  ring

/-- **The digits in which the search ends** are those of the number, without zeros at their end -/
theorem shortest_eq {significand coefficient : Nat} {exponent unit : Int} (hpos : 0 < significand)
    (hsignificand : significand < 2 ^ 53) (hshort : ShortDecimal significand exponent coefficient unit)
    {round : Nat → Nat → Nat} (hround : ∀ (n : Nat) {d : Nat}, 0 < d → round (n * d) d = n) :
    ∃ c leading, c % 10 ≠ 0 ∧ shortest round significand exponent = ⟨Digits.ofNat c, leading⟩ ∧
      (c : ℚ) * 10 ^ (leading - (Digits.ofNat c).length + 1) = significand * 2 ^ exponent := by
  have hspec := leadingExponent_spec (sizeRatio_num_pos exponent hpos) (sizeRatio_den_pos significand exponent)
  unfold shortest
  simp only
  generalize leadingExponent (sizeRatio significand exponent).1 (sizeRatio significand exponent).2 = leading at hspec ⊢
  rw [sizeRatio_eq] at hspec
  obtain ⟨hlow, hhigh⟩ := leading_bounds hpos hshort hsignificand hspec.1 hspec.2
  obtain ⟨count, point, hgrid, hvalue⟩ := exists_grid hpos hshort hround hlow hhigh
  have hpoint : point ≠ 0 := by
    rintro rfl
    have hpositive : (0 : ℚ) < significand * 2 ^ exponent := by positivity
    rw [Nat.cast_zero, zero_mul] at hvalue
    exact hpositive.ne hvalue
  obtain ⟨z, c, hc, rfl, hdigits, hdropped⟩ := exists_dropTrailingZeros_eq hpoint
  rw [hgrid]
  refine ⟨c, leading + ((Digits.ofNat (10 ^ z * c)).length - count), hc, ?_, ?_⟩
  · simp only
    rw [hdropped]
  · rw [← hvalue, hdigits, List.length_append, List.length_replicate, dropped_value]

/-! ## Every number

Of any number the search finds digits, though perhaps not its own: on the grid of seventeen digits the points lie nearer to
each other than the ends of the interval, so that the point nearest to the number is near enough. -/

section Nearest

variable {significand point : Nat} {exponent k : Int}

/-- a point is near enough if it is half a unit of its grid away at most, and the number has more than 2^53 such units -/
theorem inside_of_nearest (hsignificand : significand < 2 ^ 53)
    (hfine : 2 ^ 53 * (inUnits significand exponent k).2 < (inUnits significand exponent k).1)
    (hlow : 2 * point * (inUnits significand exponent k).2 ≤
      2 * (inUnits significand exponent k).1 + (inUnits significand exponent k).2)
    (hhigh : 2 * (inUnits significand exponent k).1 ≤
      2 * point * (inUnits significand exponent k).2 + (inUnits significand exponent k).2) (hpos : 0 < significand) :
    inside significand exponent k point = true := by
  unfold inside
  generalize (inUnits significand exponent k).1 = n at hfine hlow hhigh ⊢
  generalize (inUnits significand exponent k).2 = d at hfine hlow hhigh ⊢
  have hbelow : 2 * (significand * n) ≤ 2 * (significand * (point * d)) + significand * d := by
    calc 2 * (significand * n)
        = significand * (2 * n) := by ring
      _ ≤ significand * (2 * point * d + d) := Nat.mul_le_mul_left significand hhigh
      _ = 2 * (significand * (point * d)) + significand * d := by ring
  have habove : 2 * (significand * (point * d)) ≤ 2 * (significand * n) + significand * d := by
    calc 2 * (significand * (point * d))
        = significand * (2 * point * d) := by ring
      _ ≤ significand * (2 * n + d) := Nat.mul_le_mul_left significand hlow
      _ = 2 * (significand * n) + significand * d := by ring
  have hunit : significand * d < n := (Nat.mul_le_mul_right d hsignificand.le).trans_lt hfine
  have hlower : (roundingInterval significand exponent).low * n < 4 * significand * (point * d) := by
    have hgap {gap : Nat} (hle : gap ≤ 4 * significand) :
        (4 * significand - gap) * n + gap * n = 4 * (significand * n) := by
      rw [← Nat.add_mul, Nat.sub_add_cancel hle, Nat.mul_assoc]
    rw [Nat.mul_assoc]
    unfold roundingInterval
    split
    · next hpower =>
      -- the interval is narrower below a power of two, and the grid is finer there too
      have hdouble : 2 * (significand * d) < n := by
        rw [hpower.1, ← Nat.mul_assoc]
        exact hfine
      have hlow := hgap (by omega : 1 ≤ 4 * significand)
      simp only
      omega
    · have hlow := hgap (by omega : 2 ≤ 4 * significand)
      simp only
      omega
  have hupper : 4 * significand * (point * d) < (roundingInterval significand exponent).high * n := by
    have hhigh : (roundingInterval significand exponent).high * n = 4 * (significand * n) + 2 * n := by
      rw [roundingInterval, Nat.add_mul, Nat.mul_assoc]
    rw [hhigh, Nat.mul_assoc]
    omega
  unfold RoundingInterval.contains
  split
  · exact decide_eq_true ⟨hlower.le, hupper.le⟩
  · exact decide_eq_true ⟨hlower, hupper⟩

/-- where the first digit stands is known, and so are the digits before the point in finer units -/
theorem pow_le_inUnits (hpos : 0 < significand) {leading : Int} (hlow : (10 : ℚ) ^ leading ≤ significand * 2 ^ exponent)
    (places : Nat) (hk : k = places - leading) :
    10 ^ places * (inUnits significand exponent k).2 ≤ (inUnits significand exponent k).1 := by
  obtain ⟨-, hd⟩ := inUnits_pos exponent k hpos
  have hsize : (10 : ℚ) ^ places ≤ significand * 2 ^ exponent * 10 ^ k := by
    have hsplit : (10 : ℚ) ^ places = 10 ^ leading * 10 ^ k := by
      rw [← zpow_natCast, ← zpow_add₀ (by norm_num), hk, add_sub_cancel]
    rw [hsplit]
    exact mul_le_mul_of_nonneg_right hlow (by positivity)
  rw [← inUnits_eq, le_div_iff₀ (by exact_mod_cast hd)] at hsize
  exact_mod_cast hsize

end Nearest

section Search

variable (round : Nat → Nat → Nat) {significand : Nat} {exponent leading : Int}

/-- what the search accepts is one of the two neighbours of the number, if the rounding gives one of them -/
theorem onGrid?_inside (hround : ∀ n d, round n d = n / d ∨ round n d = n / d + 1)
    {count point : Nat} {k : Int} (hk : k = count - 1 - leading)
    (h : onGrid? round significand exponent leading count = some point) :
    inside significand exponent k point = true ∧
      (inUnits significand exponent k).1 / (inUnits significand exponent k).2 ≤ point := by
  rw [onGrid?_eq round significand exponent leading count hk] at h
  split at h
  · next hbelow habove =>
    rw [← Option.some.inj h]
    rcases hround (inUnits significand exponent k).1 (inUnits significand exponent k).2 with heq | heq
    · rw [heq]
      exact ⟨hbelow, le_rfl⟩
    · rw [heq]
      exact ⟨habove, Nat.le_succ _⟩
  · next hbelow _ =>
    rw [← Option.some.inj h]
    exact ⟨hbelow, le_rfl⟩
  · next _ habove =>
    rw [← Option.some.inj h]
    exact ⟨habove, Nat.le_succ _⟩
  · exact nomatch h

variable (hpos : 0 < significand) (hlow : (10 : ℚ) ^ leading ≤ significand * 2 ^ exponent)
include hpos hlow

/-- the search accepts no zero, for the number is not below the unit of any of the grids -/
theorem onGrid?_ne_zero (hround : ∀ n d, round n d = n / d ∨ round n d = n / d + 1)
    {count point : Nat} (hcount : 0 < count) (h : onGrid? round significand exponent leading count = some point) :
    point ≠ 0 := by
  obtain ⟨places, rfl⟩ : ∃ places, count = places + 1 := ⟨count - 1, by omega⟩
  obtain ⟨k, hk⟩ : ∃ k : Int, k = (places + 1 : Nat) - 1 - leading := ⟨_, rfl⟩
  obtain ⟨-, hd⟩ := inUnits_pos exponent k hpos
  have hone : (inUnits significand exponent k).2 ≤ (inUnits significand exponent k).1 :=
    (Nat.le_mul_of_pos_left _ (by positivity)).trans (pow_le_inUnits hpos hlow places (by omega))
  have hbelow := Nat.div_pos hone hd
  have hle := (onGrid?_inside round hround hk h).2
  omega

/-- **On the grid of seventeen digits** the search accepts a point -/
theorem onGrid?_seventeen (hsignificand : significand < 2 ^ 53) :
    ∃ point, onGrid? round significand exponent leading 17 = some point := by
  obtain ⟨k, hk⟩ : ∃ k : Int, k = (17 : Nat) - 1 - leading := ⟨_, rfl⟩
  obtain ⟨-, hd⟩ := inUnits_pos exponent k hpos
  have hfine : 2 ^ 53 * (inUnits significand exponent k).2 < (inUnits significand exponent k).1 :=
    (Nat.mul_lt_mul_of_pos_right (by norm_num) hd).trans_le (pow_le_inUnits hpos hlow 16 (by omega))
  -- the nearest point is one of the two that are tested
  have hnearest := inside_of_nearest hsignificand hfine (Rounding.nearest_bound hd).1 (Rounding.nearest_bound hd).2 hpos
  rw [onGrid?_eq round significand exponent leading _ hk]
  unfold Rounding.nearestUp at hnearest
  split at hnearest
  · rw [hnearest]
    cases inside significand exponent k ((inUnits significand exponent k).1 / (inUnits significand exponent k).2 + 1) <;>
      exact ⟨_, rfl⟩
  · rw [hnearest]
    cases inside significand exponent k ((inUnits significand exponent k).1 / (inUnits significand exponent k).2) <;>
      exact ⟨_, rfl⟩

end Search

/-- **The search ends** for every number, with digits of which neither all nor the last one is zero, at a decimal in the
interval of the number -/
theorem exists_shortest_eq {significand : Nat} (exponent : Int) (hpos : 0 < significand)
    (hsignificand : significand < 2 ^ 53) {round : Nat → Nat → Nat}
    (hround : ∀ n d, round n d = n / d ∨ round n d = n / d + 1) :
    ∃ c leading, c % 10 ≠ 0 ∧ shortest round significand exponent = ⟨Digits.ofNat c, leading⟩ ∧
      (roundingInterval significand exponent).Holds
        (4 * (c * 10 ^ (leading - (Digits.ofNat c).length + 1) / 2 ^ exponent)) := by
  have hspec := leadingExponent_spec (sizeRatio_num_pos exponent hpos) (sizeRatio_den_pos significand exponent)
  unfold shortest
  simp only
  generalize leadingExponent (sizeRatio significand exponent).1 (sizeRatio significand exponent).2 = leading at hspec ⊢
  rw [sizeRatio_eq] at hspec
  obtain ⟨last, hlast⟩ := onGrid?_seventeen round hpos hspec.1 hsignificand
  cases hfound : (List.range 17).findSome? fun k =>
      (onGrid? round significand exponent leading (k + 1)).map fun point => (k + 1, point) with
  | none =>
    have hnone := List.findSome?_eq_none_iff.mp hfound 16 (List.mem_range.mpr (by decide))
    rw [hlast] at hnone
    exact nomatch hnone
  | some found =>
    obtain ⟨k, -, hk⟩ := List.exists_of_findSome?_eq_some hfound
    obtain ⟨point, hpoint, rfl⟩ := Option.map_eq_some_iff.mp hk
    have hinside := (onGrid?_inside round hround rfl hpoint).1
    have hplace : leading - (k + 1 : Nat) + 1 = -(((k + 1 : Nat) : Int) - 1 - leading) := by omega
    rw [inside_iff_holds hpos, ← hplace] at hinside
    obtain ⟨z, c, hc, rfl, hdigits, hdropped⟩ :=
      exists_dropTrailingZeros_eq (onGrid?_ne_zero round hpos hspec.1 hround (Nat.succ_pos k) hpoint)
    refine ⟨c, leading + ((Digits.ofNat (10 ^ z * c)).length - (k + 1 : Nat)), hc, by simp only [hdropped], ?_⟩
    rwa [hdigits, List.length_append, List.length_replicate, dropped_value]

end Binary64

end TableGraph
