/-
The rational numbers that floating-point numbers and decimals are, and the whole numbers among them.

Both formats hold a number as a fraction of natural numbers with a sign, and both find out by a division whether it is
whole. What the division says of the fraction is said once (`quotient?_eq_some_iff`).

Results:
- `Binary64.toInt?_eq_some_iff`, `Decimal.toInt?_eq_some_iff`: a number is read as a whole number if it is one, and then
  as this one.
-/
import Mathlib.Tactic
import TableGraph.Number.Decimal

namespace TableGraph

/-- a size with a sign -/
def signed (negative : Bool) (size : ℚ) : ℚ := if negative then -size else size

/-- the quotient of two natural numbers with a sign, if there is no remainder -/
def quotient? (negative : Bool) (num den : Nat) : Option Int :=
  if num % den = 0 then
    let size : Int := (num / den : Nat)
    some (if negative then -size else size)
  else none

theorem abs_signed (negative : Bool) {size : ℚ} (hsize : 0 ≤ size) : |signed negative size| = size := by
  rw [signed]
  split
  · rw [abs_neg, abs_of_nonneg hsize]
  · rw [abs_of_nonneg hsize]

/-- a size whose signed number is whole is whole itself -/
theorem eq_natAbs_of_signed {negative : Bool} {size : ℚ} {n : Int} (hsize : 0 ≤ size) (h : signed negative size = n) :
    size = n.natAbs := by
  rw [Nat.cast_natAbs, Int.cast_abs, ← h, abs_signed negative hsize]

/-- sizes of one signed number are the same, and so are the signs unless it is zero -/
theorem signed_inj {b b' : Bool} {a a' : ℚ} (ha : 0 ≤ a) (ha' : 0 ≤ a') (h : signed b a = signed b' a') :
    a = a' ∧ (a = 0 ∨ b = b') := by
  cases b <;> cases b' <;> simp only [signed, Bool.false_eq_true, if_true, if_false] at h
  · exact ⟨h, .inr rfl⟩
  · exact ⟨by linarith, .inl (by linarith)⟩
  · exact ⟨by linarith, .inl (by linarith)⟩
  · exact ⟨neg_injective h, .inr rfl⟩

/-- a quotient without remainder is the number that the fraction is -/
theorem quotient?_eq_some_iff {negative : Bool} {num den : Nat} {n : Int} (hden : 0 < den) :
    quotient? negative num den = some n ↔ signed negative (num / den) = n := by
  have hpos : (den : ℚ) ≠ 0 := by exact_mod_cast hden.ne'
  have hwhole (k : Nat) : signed negative k = ((if negative then -(k : Int) else k : Int) : ℚ) := by
    cases negative <;> simp [signed]
  unfold quotient?
  constructor
  · intro h
    split at h
    · next hmod =>
      obtain ⟨k, rfl⟩ := Nat.dvd_of_mod_eq_zero hmod
      rw [Nat.mul_div_cancel_left k hden] at h
      rw [Nat.cast_mul, mul_div_cancel_left₀ _ hpos, hwhole, Option.some.inj h]
    · exact nomatch h
  · intro h
    have hsize := eq_natAbs_of_signed (by positivity) h
    have hnum : num = den * n.natAbs := by
      rw [div_eq_iff hpos, mul_comm] at hsize
      exact_mod_cast hsize
    subst hnum
    rw [Nat.cast_mul, mul_div_cancel_left₀ _ hpos, hwhole] at h
    rw [if_pos (Nat.mul_mod_right _ _), Nat.mul_div_cancel_left _ hden]
    exact congrArg some (by exact_mod_cast h)

/-! ## Floating-point numbers -/

namespace Binary64

/-- the rational number that a number is, if it is finite -/
def toRat? : Binary64 → Option ℚ
  | .finite negative significand exponent _ => some (signed negative (significand * 2 ^ exponent))
  | _ => none

theorem sizeRatio_den_pos (significand : Nat) (exponent : Int) : 0 < (sizeRatio significand exponent).2 := by
  cases exponent with
  | ofNat k => exact Nat.one_pos
  | negSucc k => exact Nat.pow_pos (by decide)

/-- the fraction of a size is the significand times the power of two -/
theorem sizeRatio_eq (significand : Nat) (exponent : Int) :
    ((sizeRatio significand exponent).1 : ℚ) / (sizeRatio significand exponent).2 = significand * 2 ^ exponent := by
  cases exponent with
  | ofNat k => simp [sizeRatio]
  | negSucc k => simp [sizeRatio, zpow_negSucc, div_eq_mul_inv]

/-- **Whole floating-point numbers** are read as the whole number that they are, and no others are read -/
theorem toInt?_eq_some_iff {x : Binary64} {n : Int} : x.toInt? = some n ↔ x.toRat? = some (n : ℚ) := by
  cases x with
  | undefined => exact ⟨nofun, nofun⟩
  | infinite => exact ⟨nofun, nofun⟩
  | finite negative significand exponent canonical =>
    have hread : (finite negative significand exponent canonical).toInt? =
        quotient? negative (sizeRatio significand exponent).1 (sizeRatio significand exponent).2 := rfl
    rw [hread, quotient?_eq_some_iff (sizeRatio_den_pos significand exponent), sizeRatio_eq, toRat?, Option.some.injEq]

end Binary64

/-! ## Decimals -/

namespace Decimal

/-- the rational number that a decimal denotes -/
def toRat (d : Decimal) : ℚ := signed d.negative (d.coefficient / 10 ^ d.scale)

/-- **Whole decimals** are read as the whole number that they denote, and no others are read -/
theorem toInt?_eq_some_iff {d : Decimal} {n : Int} : d.toInt? = some n ↔ d.toRat = n := by
  have hread : d.toInt? = quotient? d.negative d.coefficient (10 ^ d.scale) := rfl
  rw [hread, quotient?_eq_some_iff (Nat.pow_pos (by decide)), toRat, Nat.cast_pow, Nat.cast_ofNat]

end Decimal

end TableGraph
