/-
Rounding a quotient of natural numbers to a natural number.

`nearestEven_eq` and `nearest_bound` say what the two roundings do: the result is within half a unit, and the even number
is the one that is half a unit away.
-/

namespace TableGraph.Rounding

/-- the nearest whole number to `num / den`, a half going to the even neighbour -/
def nearestEven (num den : Nat) : Nat :=
  let quotient := num / den
  let twice := 2 * (num % den)
  if twice < den then quotient
  else if den < twice then quotient + 1
  else quotient + quotient % 2

/-- the nearest whole number to `num / den`, a half going up -/
def nearestUp (num den : Nat) : Nat :=
  if 2 * (num % den) < den then num / den else num / den + 1

/-- a number is the result if it is nearer than half a unit, or half a unit away and even -/
theorem nearestEven_eq {num den n : Nat} (hden : 0 < den) (hlow : 2 * n * den ≤ 2 * num + den)
    (hhigh : 2 * num ≤ 2 * n * den + den)
    (htie : 2 * n * den = 2 * num + den ∨ 2 * num = 2 * n * den + den → n % 2 = 0) : nearestEven num den = n := by
  have hdiv := Nat.div_add_mod num den
  have hmod := Nat.mod_lt num hden
  unfold nearestEven
  simp only
  generalize num / den = quotient at hdiv ⊢
  generalize num % den = rest at hdiv hmod ⊢
  -- the quotient is the number or the one below it
  have hcases : n = quotient ∨ n = quotient + 1 := by
    rw [Nat.mul_assoc] at hlow hhigh
    rcases Nat.lt_or_ge n quotient with hlt | hge
    · have hmul : (n + 1) * den ≤ quotient * den := Nat.mul_le_mul_right den hlt
      rw [Nat.add_mul, Nat.mul_comm quotient] at hmul
      omega
    · rcases Nat.lt_or_ge (quotient + 1) n with hgt | hle
      · have hmul : (quotient + 1 + 1) * den ≤ n * den := Nat.mul_le_mul_right den hgt
        rw [Nat.add_mul, Nat.add_mul, Nat.mul_comm quotient] at hmul
        omega
      · omega
  have hquotient : 2 * quotient * den = 2 * (den * quotient) := by rw [Nat.mul_assoc, Nat.mul_comm quotient]
  rcases hcases with rfl | rfl
  · rw [hquotient] at hhigh htie
    split
    · rfl
    · split <;> omega
  · have hnext : 2 * (quotient + 1) * den = 2 * (den * quotient) + 2 * den := by
      rw [Nat.mul_add, Nat.add_mul, hquotient, Nat.mul_one]
    rw [hnext] at hlow htie
    split
    · omega
    · split <;> omega

theorem nearest_bound {num den : Nat} (h : 0 < den) :
    2 * nearestUp num den * den ≤ 2 * num + den ∧ 2 * num ≤ 2 * nearestUp num den * den + den := by
  have hdiv := Nat.div_add_mod num den
  have hmod := Nat.mod_lt num h
  unfold nearestUp
  generalize num / den = q at hdiv ⊢
  generalize num % den = r at hdiv hmod ⊢
  have hq : 2 * (q + 1) * den = 2 * q * den + 2 * den := by rw [Nat.mul_add, Nat.add_mul]
  have hc : 2 * q * den = 2 * (den * q) := by rw [Nat.mul_assoc, Nat.mul_comm q den]
  split <;> constructor <;> omega

end TableGraph.Rounding
