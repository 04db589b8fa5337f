/-
Floating-point numbers are read from the decimals in their intervals.

A fraction is read in two steps. The unit in which its size has 53 binary digits, but no finer one than the format has, is
found from the binary logarithms of its two parts, and there is only one such unit. In this unit the size is rounded. For a
size in the interval of a number the unit is that of the number, and the rounding gives its significand; but below a power
of two the unit is half of it, and then the rounding carries.

Results:
- `Binary64.isUnit_unitExponent`, `Binary64.IsUnit.unique`: the unit of a size.
- `Binary64.ofRatio_of_holds`: a number is read from every fraction in its interval.
- `Binary64.ofScientific_of_holds`: so it is from every decimal there.
-/
import Mathlib.Tactic
import TableGraph.Number.Binary64.Text
import TableGraph.Proofs.ShortestDecimals

namespace TableGraph

namespace Binary64

/-! ## Units -/

theorem overPowerOfTwo_pos (num : Nat) {den : Nat} (hden : 0 < den) (k : Int) : 0 < (overPowerOfTwo num den k).2 := by
  cases k with
  | ofNat k => exact Nat.mul_pos hden (Nat.pow_pos (by decide))
  | negSucc k => exact hden

theorem overPowerOfTwo_eq (num den : Nat) (k : Int) :
    ((overPowerOfTwo num den k).1 : ℚ) / (overPowerOfTwo num den k).2 = num / den / 2 ^ k := by
  cases k with
  | ofNat k => simp [overPowerOfTwo, div_div]
  | negSucc k => simp [overPowerOfTwo, zpow_negSucc, mul_div_right_comm]

/-- the binary logarithms of its two parts tell the size of a fraction -/
theorem log2_bounds {num den : Nat} (hnum : 0 < num) (hden : 0 < den) :
    (2 : ℚ) ^ ((num.log2 : Int) - den.log2 - 1) < num / den ∧ (num : ℚ) / den < 2 ^ ((num.log2 : Int) - den.log2 + 1) := by
  have hposition : (0 : ℚ) < den := by exact_mod_cast hden
  have hnumLow : (2 : ℚ) ^ num.log2 ≤ num := by exact_mod_cast Nat.log2_self_le hnum.ne'
  have hnumHigh : (num : ℚ) < 2 ^ (num.log2 + 1) := by exact_mod_cast Nat.lt_log2_self
  have hdenLow : (2 : ℚ) ^ den.log2 ≤ den := by exact_mod_cast Nat.log2_self_le hden.ne'
  have hdenHigh : (den : ℚ) < 2 ^ (den.log2 + 1) := by exact_mod_cast Nat.lt_log2_self
  have hpower (k : Int) (n : Nat) : (2 : ℚ) ^ k * 2 ^ n = 2 ^ (k + n) := by rw [zpow_add₀ (by norm_num), zpow_natCast]
  constructor
  · rw [lt_div_iff₀ hposition]
    calc (2 : ℚ) ^ ((num.log2 : Int) - den.log2 - 1) * den
        < 2 ^ ((num.log2 : Int) - den.log2 - 1) * 2 ^ (den.log2 + 1) := mul_lt_mul_of_pos_left hdenHigh (by positivity)
      _ = 2 ^ num.log2 := by
        rw [hpower, ← zpow_natCast]
        congr 1
        omega
      _ ≤ num := hnumLow
  · rw [div_lt_iff₀ hposition]
    calc (num : ℚ)
        < 2 ^ (num.log2 + 1) := hnumHigh
      _ = 2 ^ ((num.log2 : Int) - den.log2 + 1) * 2 ^ den.log2 := by
        rw [hpower, ← zpow_natCast]
        congr 1
        omega
      _ ≤ 2 ^ ((num.log2 : Int) - den.log2 + 1) * den := mul_le_mul_of_nonneg_left hdenLow (by positivity)

/-- the exponent of the unit in which a size has 53 binary digits, or the least exponent -/
structure IsUnit (size : ℚ) (exponent : Int) : Prop where
  lt : size < 2 ^ (exponent + 53)
  le : (2 : ℚ) ^ (exponent + 52) ≤ size ∨ exponent = -1074
  least : -1074 ≤ exponent

theorem isUnit_unitExponent {num den : Nat} (hnum : 0 < num) (hden : 0 < den) :
    IsUnit (num / den) (unitExponent num den) := by
  obtain ⟨hlow, hhigh⟩ := log2_bounds hnum hden
  unfold unitExponent
  simp only
  obtain ⟨low, hlog⟩ : ∃ low : Int, low = (num.log2 : Int) - den.log2 - 53 := ⟨_, rfl⟩
  have hpos := overPowerOfTwo_pos num hden low
  have hvalue := overPowerOfTwo_eq num den low
  rw [← hlog]
  have hfirst : (num.log2 : Int) - den.log2 - 1 = low + 52 := by omega
  have hlast : (num.log2 : Int) - den.log2 + 1 = low + 1 + 53 := by omega
  rw [hfirst] at hlow
  rw [hlast] at hhigh
  have htest : Nat.pow 2 53 * (overPowerOfTwo num den low).2 ≤ (overPowerOfTwo num den low).1 ↔
      (2 : ℚ) ^ (low + 53) ≤ num / den := by
    have hsplit : (2 : ℚ) ^ (low + 53) = 2 ^ 53 * 2 ^ low := by
      rw [add_comm, zpow_add₀ (by norm_num)]
      rfl
    rw [hsplit, ← le_div_iff₀ (by positivity), ← hvalue, le_div_iff₀ (by exact_mod_cast hpos), Nat.pow_eq]
    exact_mod_cast Iff.rfl
  -- one more binary digit, or not
  obtain ⟨unit, hunit, hdigits⟩ : ∃ unit : Int, (if Nat.pow 2 53 * (overPowerOfTwo num den low).2 ≤
      (overPowerOfTwo num den low).1 then low + 1 else low) = unit ∧
      (2 : ℚ) ^ (unit + 52) ≤ num / den ∧ (num : ℚ) / den < 2 ^ (unit + 53) := by
    by_cases hmore : (2 : ℚ) ^ (low + 53) ≤ num / den
    · exact ⟨low + 1, if_pos (htest.mpr hmore), by rwa [add_assoc], hhigh⟩
    · exact ⟨low, if_neg (mt htest.mp hmore), hlow.le, not_le.mp hmore⟩
  rw [hunit]
  rcases le_total unit (-1074) with hle | hle
  · rw [max_eq_right hle]
    exact ⟨hdigits.2.trans_le (zpow_le_zpow_right₀ (by norm_num) (by omega)), .inr rfl, le_rfl⟩
  · rw [max_eq_left hle]
    exact ⟨hdigits.2, .inl hdigits.1, hle⟩

/-- a size has one unit -/
theorem IsUnit.unique {size : ℚ} {e e' : Int} (h : IsUnit size e) (h' : IsUnit size e') : e = e' := by
  have hle {e e' : Int} (h : IsUnit size e) (h' : IsUnit size e') : e ≤ e' := by
    rcases h.le with hfull | hleast
    · have hlt : (2 : ℚ) ^ (e + 52) < 2 ^ (e' + 53) := hfull.trans_lt h'.lt
      rw [zpow_lt_zpow_iff_right₀ (by norm_num)] at hlt
      omega
    · exact hleast ▸ h'.least
  exact le_antisymm (hle h h') (hle h' h)

/-! ## Rounding -/

/-- a whole number is nearest to a number of units; of two nearest ones it is the even one -/
structure IsNearest (n : Nat) (units : ℚ) : Prop where
  le : (n : ℚ) ≤ units + 1 / 2
  ge : units ≤ n + 1 / 2
  even : (n : ℚ) = units + 1 / 2 ∨ units = n + 1 / 2 → n % 2 = 0

theorem nearestEven_of_isNearest {num den n : Nat} (hden : 0 < den) (h : IsNearest n (num / den)) :
    Rounding.nearestEven num den = n := by
  have hposition : (0 : ℚ) < den := by exact_mod_cast hden
  obtain ⟨units, hunits⟩ : ∃ units : ℚ, units = (num : ℚ) / den := ⟨_, rfl⟩
  have hnum : (num : ℚ) = units * den := by
    rw [hunits]
    field_simp
  rw [← hunits] at h
  -- the conditions, multiplied by twice the denominator
  have hle := mul_le_mul_of_nonneg_right h.le hposition.le
  have hge := mul_le_mul_of_nonneg_right h.ge hposition.le
  have hcancel {a b : ℚ} (heq : a * den = b * den) : a = b := mul_right_cancel₀ hposition.ne' heq
  apply Rounding.nearestEven_eq hden
  · have hlow : (2 * n * den : ℚ) ≤ 2 * num + den := by linarith
    exact_mod_cast hlow
  · have hhigh : (2 * num : ℚ) ≤ 2 * n * den + den := by linarith
    exact_mod_cast hhigh
  · intro htie
    apply h.even
    rcases htie with htie | htie
    · have htie : (2 * n * den : ℚ) = 2 * num + den := by exact_mod_cast htie
      exact .inl (hcancel (by linarith))
    · have htie : (2 * num : ℚ) = 2 * n * den + den := by exact_mod_cast htie
      exact .inr (hcancel (by linarith))

/-- rounding in the unit of a size gives the significand, perhaps with a carry -/
theorem ofRatio_of_isUnit {negative : Bool} {num den significand rounded : Nat} {unit exponent : Int}
    (canonical : Canonical significand exponent) (hnum : 0 < num) (hden : 0 < den) (hunit : IsUnit (num / den) unit)
    (hnearest : IsNearest rounded (num / den / 2 ^ unit))
    (hcarry : (if rounded = Nat.pow 2 53 then (Nat.pow 2 52, unit + 1) else (rounded, unit)) = (significand, exponent)) :
    ofRatio negative num den = .finite negative significand exponent canonical := by
  have hexponent : unitExponent num den = unit := (isUnit_unitExponent hnum hden).unique hunit
  rw [← overPowerOfTwo_eq] at hnearest
  have hrounded := nearestEven_of_isNearest (overPowerOfTwo_pos num hden unit) hnearest
  unfold ofRatio
  rw [if_neg hnum.ne']
  simp only [hexponent, hrounded, hcarry]
  rw [dif_pos canonical]

/-! ## Intervals -/

namespace RoundingInterval.Holds

variable {significand : Nat} {exponent : Int} {units : ℚ} (hpos : 0 < significand)
include hpos

/-- the lower end of an interval is half a unit below the number, or a quarter of one below a power of two -/
theorem exists_gap (exponent : Int) :
    ∃ gap : Nat, ((roundingInterval significand exponent).low : ℚ) = 4 * significand - gap ∧ gap ≤ 2 ∧
      (significand = 2 ^ 52 → -1074 < exponent → gap = 1) := by
  unfold roundingInterval
  simp only [Nat.pow_eq]
  split
  · refine ⟨1, ?_, by decide, fun _ _ => rfl⟩
    rw [Nat.cast_sub (by omega)]
    push_cast
    ring
  · next hother =>
    refine ⟨2, ?_, le_rfl, fun hpower hexponent => absurd ⟨hpower, hexponent⟩ hother⟩
    rw [Nat.cast_sub (by omega)]
    push_cast
    ring

variable (h : (roundingInterval significand exponent).Holds (4 * units))
include h

/-- the number is nearest to what its interval holds, and below a power of two it is nearer than elsewhere -/
theorem isNearest :
    IsNearest significand units ∧ (significand = 2 ^ 52 → -1074 < exponent → (significand : ℚ) ≤ units + 1 / 4) := by
  obtain ⟨gap, hlow, hgap, hpower⟩ := exists_gap hpos exponent
  have hgap : (gap : ℚ) ≤ 2 := by exact_mod_cast hgap
  have hhigh : ((roundingInterval significand exponent).high : ℚ) = 4 * significand + 2 := by
    rw [roundingInterval]
    push_cast
    ring
  have hweak : (4 * significand - gap : ℚ) ≤ 4 * units ∧ 4 * units ≤ 4 * significand + 2 := by
    unfold Holds at h
    rw [hlow, hhigh] at h
    split at h
    · exact h
    · exact ⟨h.1.le, h.2.le⟩
  refine ⟨⟨by linarith, by linarith, ?_⟩, ?_⟩
  · -- the ends belong to the interval only if the number is even
    intro htie
    by_contra hodd
    have hopen : ¬(roundingInterval significand exponent).closed = true := by rwa [roundingInterval, decide_eq_true_iff]
    rw [Holds, if_neg hopen, hlow, hhigh] at h
    rcases htie with htie | htie
    · linarith [h.1]
    · linarith [h.2]
  · intro hsignificand hexponent
    have hone : (gap : ℚ) = 1 := by exact_mod_cast hpower hsignificand hexponent
    linarith

end RoundingInterval.Holds

/-- twice as many units as come close to a power of two are nearest to its double -/
theorem isNearest_double {units : ℚ} (hbelow : units < 2 ^ 52) (hnear : (2 : ℚ) ^ 52 ≤ units + 1 / 4) :
    IsNearest (2 ^ 53) (2 * units) where
  le := by
    push_cast
    linarith
  ge := by
    push_cast
    linarith
  even := fun _ => by norm_num

/-- **A number is read from what its interval holds** -/
theorem ofRatio_of_holds {negative : Bool} {num den significand : Nat} {exponent : Int}
    (canonical : Canonical significand exponent) (hpos : 0 < significand) (hnum : 0 < num) (hden : 0 < den)
    (h : (roundingInterval significand exponent).Holds (4 * (num / den / 2 ^ exponent))) :
    ofRatio negative num den = .finite negative significand exponent canonical := by
  obtain ⟨hnearest, hpower⟩ := h.isNearest hpos
  have hsmall : significand < 2 ^ 53 := canonical.1
  have hleast : -1074 ≤ exponent := canonical.2.1
  have hscale : (0 : ℚ) < 2 ^ exponent := by positivity
  have hsize (k : Nat) (unit : Int) (hunit : unit = exponent + k) :
      (num : ℚ) / den < 2 ^ unit ↔ (num : ℚ) / den / 2 ^ exponent < 2 ^ k := by
    rw [hunit, div_lt_iff₀ hscale, add_comm, zpow_add₀ (by norm_num), zpow_natCast]
  generalize hunits : (num : ℚ) / den / 2 ^ exponent = units at hnearest hpower hsize
  by_cases hown : (2 : ℚ) ^ (exponent + 52) ≤ num / den ∨ exponent = -1074
  · -- the number has the unit of the size
    have hlt : (significand : ℚ) + 1 ≤ 2 ^ 53 := by exact_mod_cast hsmall
    have hunit : IsUnit (num / den) exponent := by
      refine ⟨?_, hown, hleast⟩
      rw [hsize 53 (exponent + 53) rfl]
      linarith [hnearest.ge]
    rw [← hunits] at hnearest
    exact ofRatio_of_isUnit canonical hnum hden hunit hnearest (if_neg hsmall.ne)
  · -- the size lies below a power of two, where the unit is half of it
    obtain ⟨hbelow, hexponent⟩ := not_or.mp hown
    rw [not_le, hsize 52 (exponent + 52) rfl] at hbelow
    obtain rfl : significand = 2 ^ 52 := by
      have hle : 2 ^ 52 ≤ significand := canonical.2.2.2.resolve_right hexponent
      by_contra hne
      have hlarge : (2 : ℚ) ^ 52 + 1 ≤ significand := by exact_mod_cast (by omega : 2 ^ 52 + 1 ≤ significand)
      linarith [hnearest.le]
    have hnear := hpower rfl (by omega)
    push_cast at hnear
    have hunit : IsUnit (num / den) (exponent - 1) := by
      refine ⟨?_, .inl ?_, by omega⟩
      · rw [hsize 52 (exponent - 1 + 53) (by omega)]
        exact hbelow
      · rw [← not_lt, hsize 51 (exponent - 1 + 52) (by omega), not_lt]
        linarith
    have hdouble : (num : ℚ) / den / 2 ^ (exponent - 1) = 2 * units := by
      rw [← hunits, zpow_sub_one₀ (by norm_num)]
      field_simp
    have hcarry : (if 2 ^ 53 = Nat.pow 2 53 then (Nat.pow 2 52, exponent - 1 + 1) else (2 ^ 53, exponent - 1)) =
        (2 ^ 52, exponent) := by
      rw [if_pos Nat.pow_eq.symm, sub_add_cancel, Nat.pow_eq]
    exact ofRatio_of_isUnit canonical hnum hden hunit (hdouble ▸ isNearest_double hbelow hnear) hcarry

/-! ## Decimals -/

/-- what an interval holds is neither too large nor too small to be read digit by digit -/
theorem holds_bounds {significand : Nat} {exponent : Int} {size : ℚ} (canonical : Canonical significand exponent)
    (hpos : 0 < significand) (h : (roundingInterval significand exponent).Holds (4 * (size / 2 ^ exponent))) :
    (2 : ℚ) ^ (-1075 : Int) ≤ size ∧ size ≤ 2 ^ (1024 : Int) := by
  obtain ⟨⟨hlow, hhigh, -⟩, -⟩ := h.isNearest hpos
  have hscale : (0 : ℚ) < 2 ^ exponent := by positivity
  have hone : (1 : ℚ) ≤ significand := by exact_mod_cast hpos
  have hsmall : (significand : ℚ) + 1 ≤ 2 ^ 53 := by exact_mod_cast canonical.1
  have hhalf : (1 : ℚ) / 2 ≤ size / 2 ^ exponent := by linarith
  have hfull : size / 2 ^ exponent ≤ (2 : ℚ) ^ 53 := by linarith
  rw [le_div_iff₀ hscale] at hhalf
  rw [div_le_iff₀ hscale] at hfull
  constructor
  · calc (2 : ℚ) ^ (-1075 : Int)
        = 1 / 2 * 2 ^ (-1074 : Int) := by
          rw [show (-1075 : Int) = -1074 - 1 from rfl, zpow_sub_one₀ (by norm_num)]
          ring
      _ ≤ 1 / 2 * 2 ^ exponent :=
        mul_le_mul_of_nonneg_left (zpow_le_zpow_right₀ (by norm_num) canonical.2.1) (by norm_num)
      _ ≤ size := hhalf
  · calc size
        ≤ 2 ^ 53 * 2 ^ exponent := hfull
      _ ≤ 2 ^ 53 * 2 ^ (971 : Int) :=
        mul_le_mul_of_nonneg_left (zpow_le_zpow_right₀ (by norm_num) canonical.2.2.1) (by norm_num)
      _ = 2 ^ (1024 : Int) := by
        rw [← zpow_natCast, ← zpow_add₀ (by norm_num)]
        rfl

/-- the limits for exponents leave room enough -/
theorem two_zpow_lt : (2 : ℚ) ^ (1075 : Int) < 10 ^ (400 : Int) := by
  calc (2 : ℚ) ^ (1075 : Int)
      ≤ 2 ^ ((3 : Int) * (400 : Nat)) := zpow_le_zpow_right₀ (by norm_num) (by decide)
    _ = (2 ^ (3 : Int)) ^ 400 := by rw [zpow_mul, zpow_natCast]
    _ < 10 ^ 400 := pow_lt_pow_left₀ (by norm_num) (by positivity) (by decide)
    _ = 10 ^ (400 : Int) := (zpow_natCast 10 400).symm

/-- **A number is read from decimals in its interval** -/
theorem ofScientific_of_holds {negative : Bool} {coefficient significand : Nat} {exponent place : Int}
    (canonical : Canonical significand exponent) (hpos : 0 < significand) (hcoefficient : 0 < coefficient)
    (h : (roundingInterval significand exponent).Holds (4 * (coefficient * 10 ^ place / 2 ^ exponent))) :
    ofScientific negative coefficient place = .finite negative significand exponent canonical := by
  obtain ⟨hsmall, hlarge⟩ := holds_bounds canonical hpos h
  have hlength := Digits.length_ofNat_pos coefficient
  have hfirst : (10 : ℚ) ^ ((Digits.ofNat coefficient).length - 1 : Nat) ≤ coefficient := by
    exact_mod_cast Digits.pow_length_le hcoefficient
  have hall : (coefficient : ℚ) < 10 ^ (Digits.ofNat coefficient).length := by
    exact_mod_cast Digits.lt_pow_length coefficient
  obtain ⟨magnitude, hmagnitude⟩ : ∃ magnitude : Int, magnitude = place + (Digits.ofNat coefficient).length := ⟨_, rfl⟩
  have hunit : (0 : ℚ) < 10 ^ place := by positivity
  have hmin : ¬magnitude < -400 := by
    intro hlt
    have hbelow : (2 : ℚ) ^ (-1075 : Int) < 10 ^ (-400 : Int) := by
      calc (2 : ℚ) ^ (-1075 : Int)
          ≤ coefficient * 10 ^ place := hsmall
        _ < 10 ^ (Digits.ofNat coefficient).length * 10 ^ place := mul_lt_mul_of_pos_right hall hunit
        _ = 10 ^ magnitude := by rw [hmagnitude, zpow_add₀ (by norm_num), zpow_natCast, mul_comm]
        _ ≤ 10 ^ (-400 : Int) := zpow_le_zpow_right₀ (by norm_num) (by omega)
    rw [zpow_neg, zpow_neg, inv_lt_inv₀ (by positivity) (by positivity)] at hbelow
    exact hbelow.not_gt two_zpow_lt
  have hmax : ¬400 < magnitude := by
    intro hlt
    have habove : (10 : ℚ) ^ (400 : Int) ≤ 2 ^ (1024 : Int) := by
      calc (10 : ℚ) ^ (400 : Int)
          ≤ 10 ^ (magnitude - 1) := zpow_le_zpow_right₀ (by norm_num) (by omega)
        _ = 10 ^ ((Digits.ofNat coefficient).length - 1) * 10 ^ place := by
          have hsplit : magnitude - 1 = ((Digits.ofNat coefficient).length - 1 : Nat) + place := by omega
          rw [hsplit, zpow_add₀ (by norm_num), zpow_natCast]
        _ ≤ coefficient * 10 ^ place := mul_le_mul_of_nonneg_right hfirst hunit.le
        _ ≤ 2 ^ (1024 : Int) := hlarge
    exact (habove.trans (zpow_le_zpow_right₀ (by norm_num) (by decide))).not_gt two_zpow_lt
  unfold ofScientific
  simp only [← hmagnitude]
  rw [if_neg (not_or.mpr ⟨hcoefficient.ne', hmin⟩), if_neg hmax]
  cases place with
  | ofNat k =>
    apply ofRatio_of_holds canonical hpos (Nat.mul_pos hcoefficient (Nat.pow_pos (by decide))) Nat.one_pos
    simpa using h
  | negSucc k =>
    apply ofRatio_of_holds canonical hpos hcoefficient (Nat.pow_pos (by decide))
    simpa [zpow_negSucc, div_eq_mul_inv] using h

end Binary64
end TableGraph
