/-
Binary floating-point numbers of 64 bits, as exact data: a finite number is a sign, a significand below 2^53 and the
exponent of its unit, in the one canonical form per number. Zero has two signs. There is one undefined value.

Every operation is the exact result on fractions of natural numbers followed by one rounding (`ofRatio`), to the
nearest number and on a tie to the even significand. Powers are written by their full names, as in `Whole`.
-/
import TableGraph.Number.Rounding

namespace TableGraph

namespace Binary64

/-- the significand has its full 53 bits unless the exponent is the least one -/
def Canonical (significand : Nat) (exponent : Int) : Prop :=
  significand < Nat.pow 2 53 ∧ -1074 ≤ exponent ∧ exponent ≤ 971 ∧ (Nat.pow 2 52 ≤ significand ∨ exponent = -1074)

instance (significand : Nat) (exponent : Int) : Decidable (Canonical significand exponent) :=
  inferInstanceAs (Decidable (_ ∧ _ ∧ _ ∧ _))

end Binary64

/-- a floating-point number of 64 bits -/
inductive Binary64 where
  | undefined
  | infinite (negative : Bool)
  | finite (negative : Bool) (significand : Nat) (exponent : Int)
      (canonical : Binary64.Canonical significand exponent)
  deriving DecidableEq, Repr

namespace Binary64

/-- zero with a sign -/
def zero (negative : Bool) : Binary64 := .finite negative 0 (-1074) (by decide)

/-- the fraction `num / den` divided by a power of two, again as a fraction -/
def overPowerOfTwo (num den : Nat) : Int → Nat × Nat
  | .ofNat k => (num, den * Nat.pow 2 k)
  | .negSucc k => (num * Nat.pow 2 (k + 1), den)

/-- the exponent of the unit in which the positive fraction `num / den` has a significand of 53 bits, or the least
exponent if that is larger -/
def unitExponent (num den : Nat) : Int :=
  let low : Int := (num.log2 : Int) - (den.log2 : Int) - 53
  let (n, d) := overPowerOfTwo num den low
  max (if Nat.pow 2 53 * d ≤ n then low + 1 else low) (-1074)

/-- the number nearest to `num / den`, a tie going to the even significand; too large a number becomes infinite -/
def ofRatio (negative : Bool) (num den : Nat) : Binary64 :=
  if num = 0 then zero negative
  else
    let exponent := unitExponent num den
    let (n, d) := overPowerOfTwo num den exponent
    let rounded := Rounding.nearestEven n d
    let (significand, exponent) := if rounded = Nat.pow 2 53 then (Nat.pow 2 52, exponent + 1) else (rounded, exponent)
    if h : Canonical significand exponent then .finite negative significand exponent h else .infinite negative

/-- the number nearest to a whole number -/
def ofInt (n : Int) : Binary64 := ofRatio (n < 0) n.natAbs 1

/-- the size of a finite number as a fraction -/
def sizeRatio (significand : Nat) : Int → Nat × Nat
  | .ofNat k => (significand * Nat.pow 2 k, 1)
  | .negSucc k => (significand, Nat.pow 2 (k + 1))

/-- the whole number that a number is, if it is one -/
def toInt? : Binary64 → Option Int
  | .finite negative significand exponent _ =>
    let (num, den) := sizeRatio significand exponent
    if num % den = 0 then
      let size : Int := (num / den : Nat)
      some (if negative then -size else size)
    else none
  | _ => none

/-- whether a number is neither infinite nor undefined -/
def isFinite : Binary64 → Bool
  | .finite .. => true
  | _ => false

/-! ## Arithmetic on sizes

A size is a number without sign, given as a fraction. These are the operations of the format on sizes that are not
infinite. -/

/-- a size that is a number of the format -/
def roundSize (ratio : Nat × Nat) : Nat × Nat :=
  match ofRatio false ratio.1 ratio.2 with
  | .finite _ significand exponent _ => sizeRatio significand exponent
  | _ => ratio

/-- the sum of two sizes, rounded -/
def addSizes (a b : Nat × Nat) : Nat × Nat := roundSize (a.1 * b.2 + b.1 * a.2, a.2 * b.2)

/-- the product of two sizes, rounded -/
def mulSizes (a b : Nat × Nat) : Nat × Nat := roundSize (a.1 * b.1, a.2 * b.2)

/-- the quotient of two sizes, rounded -/
def divSizes (a b : Nat × Nat) : Nat × Nat := roundSize (a.1 * b.2, a.2 * b.1)

/-- the power of a size by repeated squaring, each step rounded: `found` times `base` to the power given in binary,
least digit first -/
def powSizesFrom (found base : Nat × Nat) : List Bool → Nat × Nat
  | [] => found
  | bit :: rest =>
    let found := if bit then mulSizes found base else found
    if rest.isEmpty then found else powSizesFrom found (mulSizes base base) rest

/-- the binary digits of a number below 32, least first, without leading zeros -/
def binaryDigits (n : Nat) : List Bool :=
  ((List.range (n.log2 + 1)).map fun k => decide (n / Nat.pow 2 k % 2 = 1))

/-- the power of a size by repeated squaring, each step rounded -/
def powSizes (base : Nat × Nat) (n : Nat) : Nat × Nat := powSizesFrom (1, 1) base (binaryDigits n)

end Binary64

end TableGraph
