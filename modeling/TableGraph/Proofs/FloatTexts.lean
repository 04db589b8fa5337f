/-
Floating-point numbers in text: those that are decimals of few digits are written as these decimals.

Results:
- `Binary64.pointed_eq`: digits with a point are the text of a decimal.
- `Binary64.text_eq_leastDecimal`: the text of a short decimal is the text of the decimal that the number is.
- `Binary64.exists_leastDecimal`: whole numbers below 2^53 and decimals of at most fifteen digits are short decimals.
- `Binary64.eq_of_toRat?`: floating-point numbers are determined by the number that they are, but for the sign of zero.
-/
import Mathlib.Tactic
import TableGraph.Number.Binary64.Text
import TableGraph.Proofs.ShortestDecimals

namespace TableGraph

theorem Rounding.nearestUp_mul {den : Nat} (n : Nat) (h : 0 < den) : nearestUp (n * den) den = n := by
  rw [nearestUp, Nat.mul_mod_left, Nat.mul_div_cancel n h, if_pos (by omega)]

/-- the roundings give one of the two neighbours of a quotient -/
theorem Rounding.nearestUp_eq_or (num den : Nat) :
    nearestUp num den = num / den ∨ nearestUp num den = num / den + 1 := by
  unfold nearestUp
  split_ifs <;> simp

theorem Rounding.nearestEven_eq_or (num den : Nat) :
    nearestEven num den = num / den ∨ nearestEven num den = num / den + 1 := by
  have hparity := Nat.mod_two_eq_zero_or_one (num / den)
  simp only [nearestEven]
  split_ifs <;> omega

namespace Binary64

/-! ## Texts -/

/-- below one all digits stand after the point -/
theorem pointed_below_one (c k : Nat) :
    pointed false ⟨Digits.ofNat c, .negSucc k⟩ = Decimal.sizeText c (k + (Digits.ofNat c).length) := by
  have hlength := Digits.length_ofNat_pos c
  have hzeros : k + (Digits.ofNat c).length + 1 - (Digits.ofNat c).length = k + 1 := by omega
  have hplace : (Digits.padded (k + (Digits.ofNat c).length + 1) c).length - (k + (Digits.ofNat c).length) = 1 := by
    rw [Digits.length_padded_eq_max]
    omega
  rw [Decimal.sizeText, if_neg (by omega)]
  simp only [hplace]
  rw [Digits.padded, hzeros, List.replicate_succ]
  rfl

/-- a whole number has zeros after its digits -/
theorem pointed_whole {c k : Nat} (hc : 0 < c) (hle : (Digits.ofNat c).length ≤ k + 1) :
    pointed false ⟨Digits.ofNat c, .ofNat k⟩ = Decimal.sizeText (c * 10 ^ (k + 1 - (Digits.ofNat c).length)) 0 := by
  rw [Decimal.sizeText_zero, Digits.ofNat_mul_pow hc]
  simp [pointed, List.drop_eq_nil_of_le hle, List.take_of_length_le hle]

/-- else the point stands between the digits -/
theorem pointed_between {c k rest : Nat} (hlength : (Digits.ofNat c).length = k + 1 + (rest + 1)) :
    pointed false ⟨Digits.ofNat c, .ofNat k⟩ = Decimal.sizeText c (rest + 1) := by
  have hpadded : Digits.padded (rest + 1 + 1) c = Digits.ofNat c := by
    have hzeros : rest + 1 + 1 - (Digits.ofNat c).length = 0 := by omega
    rw [Digits.padded, hzeros, List.replicate_zero, List.nil_append]
  have hplace : (Digits.ofNat c).length - (rest + 1) = k + 1 := by omega
  have hzeros : k + 1 - (Digits.ofNat c).length = 0 := by omega
  rw [Decimal.sizeText, if_neg (by omega)]
  simp only [hpadded, hplace, pointed, hzeros, List.replicate_zero, List.append_nil]
  split
  · next hnil =>
    have := congrArg List.length hnil
    rw [List.length_drop, List.length_nil] at this
    omega
  · rfl

/-- **Digits with a point** are the text of a decimal, with no needless digit -/
theorem pointed_eq {c : Nat} (hc : c % 10 ≠ 0) (leading : Int) :
    ∃ coefficient scale, (scale = 0 ∨ coefficient % 10 ≠ 0) ∧
      pointed false ⟨Digits.ofNat c, leading⟩ = Decimal.sizeText coefficient scale ∧
      (coefficient : ℚ) / 10 ^ scale = c * 10 ^ (leading - (Digits.ofNat c).length + 1) := by
  have hfraction {scale : Nat} {place : Int} (hplace : place = -scale) : (c : ℚ) / 10 ^ scale = c * 10 ^ place := by
    rw [hplace, zpow_neg, zpow_natCast, div_eq_mul_inv]
  cases leading with
  | negSucc k => exact ⟨c, _, .inr hc, pointed_below_one c k, hfraction (by omega)⟩
  | ofNat k =>
    rw [Int.ofNat_eq_natCast]
    by_cases hle : (Digits.ofNat c).length ≤ k + 1
    · have hpos : 0 < c := Nat.pos_of_ne_zero fun hzero => hc (by rw [hzero])
      refine ⟨_, 0, .inl rfl, pointed_whole hpos hle, ?_⟩
      have hexponent : (k : Int) - (Digits.ofNat c).length + 1 = (k + 1 - (Digits.ofNat c).length : Nat) := by omega
      rw [hexponent, zpow_natCast]
      push_cast
      ring
    · obtain ⟨rest, hrest⟩ : ∃ rest, (Digits.ofNat c).length = k + 1 + (rest + 1) :=
        ⟨(Digits.ofNat c).length - (k + 1) - 1, by omega⟩
      exact ⟨c, rest + 1, .inr hc, pointed_between hrest, hfraction (by omega)⟩

/-- **The text of a short decimal** is the text of the decimal that the number is -/
theorem text_eq_leastDecimal {negative : Bool} {significand coefficient : Nat} {exponent unit : Int}
    (canonical : Canonical significand exponent) (hpos : 0 < significand)
    (hshort : ShortDecimal significand exponent coefficient unit) :
    ∃ d : LeastDecimal, text .plain (.finite negative significand exponent canonical) = d.text ∧
      d.toRat = signed negative (significand * 2 ^ exponent) := by
  obtain ⟨c, leading, hc, hform, hvalue⟩ := shortest_eq hpos canonical.1 hshort fun n _ hd => Rounding.nearestUp_mul n hd
  obtain ⟨coefficient, scale, hleast, htext, hsize⟩ := pointed_eq hc leading
  have hcoefficient : coefficient ≠ 0 := by
    rintro rfl
    have hpositive : (0 : ℚ) < significand * 2 ^ exponent := by positivity
    rw [hvalue, Nat.cast_zero, zero_div] at hsize
    exact hpositive.ne hsize
  refine ⟨.ofLeast negative coefficient scale hleast, ?_, ?_⟩
  · have hsign : (LeastDecimal.ofLeast negative coefficient scale hleast).negative = negative := by
      simp [LeastDecimal.ofLeast, hcoefficient]
    rw [LeastDecimal.text, hsign, text, if_neg hpos.ne']
    simp only [Layout.plain, if_true]
    rw [hform, htext]
    rfl
  · rw [LeastDecimal.toRat_ofLeast, hsize, hvalue]

/-! ## Numbers -/

/-- a canonical form has the greatest exponent that its size allows -/
theorem exponent_le_of_size_eq {s s' : Nat} {e e' : Int} (h : Canonical s e) (h' : Canonical s' e')
    (hsize : (s : ℚ) * 2 ^ e = s' * 2 ^ e') : e' ≤ e := by
  by_contra hlt
  obtain ⟨k, rfl⟩ : ∃ k : Nat, e' = k + 1 + e := ⟨(e' - e - 1).toNat, by omega⟩
  have hfull : 2 ^ 52 ≤ s' := by
    rcases h'.2.2.2 with hfull | hleast
    · exact hfull
    · have := h.2.1
      omega
  have hdouble : s = s' * 2 ^ k * 2 := by
    have hunit : (2 : ℚ) ^ e ≠ 0 := by positivity
    rw [zpow_add₀ (by norm_num), zpow_add₀ (by norm_num), zpow_natCast, zpow_one, ← mul_assoc] at hsize
    have hcancel := mul_right_cancel₀ hunit hsize
    have hcancel : (s : ℚ) = s' * 2 ^ k * 2 := by rw [hcancel, mul_assoc]
    exact_mod_cast hcancel
  have hlarge : s' * 1 ≤ s' * 2 ^ k := Nat.mul_le_mul_left s' Nat.one_le_two_pow
  have hsmall : s < 2 ^ 53 := h.1
  omega

/-- canonical forms of one size are the same -/
theorem canonical_unique {s s' : Nat} {e e' : Int} (h : Canonical s e) (h' : Canonical s' e')
    (hsize : (s : ℚ) * 2 ^ e = s' * 2 ^ e') : s = s' ∧ e = e' := by
  have hexponent : e = e' := le_antisymm (exponent_le_of_size_eq h' h hsize.symm) (exponent_le_of_size_eq h h' hsize)
  subst hexponent
  exact ⟨by exact_mod_cast mul_right_cancel₀ (by positivity) hsize, rfl⟩

/-- **Numbers are determined by what they are**, but for the sign of zero -/
theorem eq_of_toRat? {x y : Binary64} {q : ℚ} (hx : x.toRat? = some q) (hy : y.toRat? = some q) :
    x = y ∨ ∃ negative, x = zero negative ∧ y = zero !negative := by
  cases x with
  | undefined => exact nomatch hx
  | infinite => exact nomatch hx
  | finite negative s e h =>
    cases y with
    | undefined => exact nomatch hy
    | infinite => exact nomatch hy
    | finite negative' s' e' h' =>
      have hsigned := (Option.some.inj hx).trans (Option.some.inj hy).symm
      obtain ⟨hsize, hsign⟩ := signed_inj (by positivity) (by positivity) hsigned
      obtain ⟨rfl, rfl⟩ := canonical_unique h h' hsize
      by_cases hnegative : negative = negative'
      · subst hnegative
        exact .inl rfl
      · -- zeros of both signs
        have hzero := hsign.resolve_right hnegative
        have hs : s = 0 := by
          rw [mul_eq_zero, Nat.cast_eq_zero] at hzero
          exact hzero.resolve_right (by positivity)
        subst hs
        have he : e = -1074 := h.2.2.2.resolve_left (by decide)
        subst he
        obtain rfl : negative' = !negative := Bool.eq_not.mpr (Ne.symm hnegative)
        exact .inr ⟨negative, rfl, rfl⟩

/-! ## Few digits -/

/-- whole numbers below 2^53 -/
theorem shortDecimal_of_whole {significand n : Nat} {exponent : Int} (canonical : Canonical significand exponent)
    (hsize : (significand : ℚ) * 2 ^ exponent = n) (hn : n < 2 ^ 53) : ShortDecimal significand exponent n 0 where
  size_eq := by rw [hsize, zpow_zero, mul_one]
  spacing_le := by
    rw [zpow_zero]
    apply zpow_le_one_of_nonpos₀ (by norm_num)
    by_contra hpositive
    have hfull : 2 ^ 52 ≤ significand := by
      rcases canonical.2.2.2 with hfull | hleast
      · exact hfull
      · omega
    have hlarge : (2 : ℚ) ^ 52 * 2 ≤ n := by
      calc (2 : ℚ) ^ 52 * 2
          ≤ significand * 2 ^ (1 : Int) := by
            rw [zpow_one]
            exact mul_le_mul_of_nonneg_right (by exact_mod_cast hfull) (by norm_num)
        _ ≤ significand * 2 ^ exponent :=
            mul_le_mul_of_nonneg_left (zpow_le_zpow_right₀ (by norm_num) (by omega)) (by positivity)
        _ = n := hsize
    have hlarge : 2 ^ 52 * 2 ≤ n := by exact_mod_cast hlarge
    omega

/-- decimals of at most fifteen digits, if they are not too small for a significand of full length -/
theorem shortDecimal_of_few_digits {significand coefficient : Nat} {exponent unit : Int}
    (canonical : Canonical significand exponent) (hsize : (significand : ℚ) * 2 ^ exponent = coefficient * 10 ^ unit)
    (hcoefficient : coefficient < 10 ^ 15) (hnormal : (2 : ℚ) ^ (-1022 : Int) ≤ significand * 2 ^ exponent) :
    ShortDecimal significand exponent coefficient unit where
  size_eq := hsize
  spacing_le := by
    have hfull : (2 : ℚ) ^ 52 ≤ significand := by
      rcases canonical.2.2.2 with hfull | rfl
      · exact_mod_cast hfull
      · have hsplit : (2 : ℚ) ^ (-1022 : Int) = 2 ^ 52 * 2 ^ (-1074 : Int) := by
          rw [← zpow_natCast, ← zpow_add₀ (by norm_num)]
          norm_num
        rw [hsplit] at hnormal
        exact le_of_mul_le_mul_right hnormal (by positivity)
    have hunit : (0 : ℚ) < 10 ^ unit := by positivity
    have hle : (2 : ℚ) ^ 52 * 2 ^ exponent ≤ 2 ^ 52 * 10 ^ unit := by
      calc (2 : ℚ) ^ 52 * 2 ^ exponent
          ≤ significand * 2 ^ exponent := mul_le_mul_of_nonneg_right hfull (by positivity)
        _ = coefficient * 10 ^ unit := hsize
        _ ≤ 10 ^ 15 * 10 ^ unit := mul_le_mul_of_nonneg_right (by exact_mod_cast hcoefficient.le) hunit.le
        _ ≤ 2 ^ 52 * 10 ^ unit := mul_le_mul_of_nonneg_right (by norm_num) hunit.le
    exact le_of_mul_le_mul_left hle (by positivity)

/-- a number of few digits: a whole number below 2^53, or at most fifteen digits and not below the least normal number -/
def FewDigits (m s : Int) : Prop := s = 0 ∧ |m| < 2 ^ 53 ∨ |m| < 10 ^ 15 ∧ (2 : ℚ) ^ (-1022 : Int) ≤ |(m : ℚ) * 10 ^ s|

theorem text_zero (negative : Bool) : text .plain (zero negative) = (if negative then ['-'] else []) ++ ['0'] := by
  simp [text, zero, Layout.plain]

/-- **Numbers of few digits** are written as the decimals that they are, but for zero with a sign -/
theorem exists_leastDecimal {x : Binary64} {m s : Int} (hx : x.toRat? = some ((m : ℚ) * 10 ^ s)) (hzero : x ≠ zero true)
    (hfew : FewDigits m s) : ∃ d : LeastDecimal, text .plain x = d.text ∧ d.toRat = (m : ℚ) * 10 ^ s := by
  have habs := Int.abs_eq_natAbs m
  cases x with
  | undefined => exact nomatch hx
  | infinite => exact nomatch hx
  | finite negative significand exponent canonical =>
    have hsigned := Option.some.inj hx
    by_cases hsignificand : significand = 0
    · subst hsignificand
      obtain rfl : exponent = -1074 := canonical.2.2.2.resolve_left (by decide)
      cases negative with
      | true => exact absurd rfl hzero
      | false =>
        refine ⟨.ofLeast false 0 0 (.inl rfl), text_zero false, ?_⟩
        rw [← hsigned, LeastDecimal.toRat_ofLeast]
        simp
    · have hsize : (significand : ℚ) * 2 ^ exponent = m.natAbs * 10 ^ s := by
        rw [← abs_signed negative (by positivity : (0 : ℚ) ≤ significand * 2 ^ exponent), hsigned, abs_mul,
          abs_of_pos (by positivity : (0 : ℚ) < 10 ^ s), Nat.cast_natAbs, Int.cast_abs]
      have hshort : ShortDecimal significand exponent m.natAbs s := by
        rcases hfew with ⟨rfl, hm⟩ | ⟨hm, hnormal⟩
        · exact shortDecimal_of_whole canonical (by rw [hsize, zpow_zero, mul_one]) (by omega)
        · rw [← hsigned, abs_signed negative (by positivity)] at hnormal
          exact shortDecimal_of_few_digits canonical hsize (by omega) hnormal
      obtain ⟨d, htext, hvalue⟩ := text_eq_leastDecimal canonical (Nat.pos_of_ne_zero hsignificand) hshort
      exact ⟨d, htext, hvalue.trans hsigned⟩

end Binary64

end TableGraph
