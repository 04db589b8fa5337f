/-
The shortest decimal number that reads back as a given floating-point number, and of those the nearest. A number may lie in
the middle between two of them; how it is rounded then is left to the format.

The reals that round to a number form an interval around it, with its ends if the significand is even. For one digit,
two digits and so on up to seventeen, the two neighbours of the number on the grid of decimals of that many digits are
tested; the first grid with a neighbour inside the interval gives the answer.
-/
import TableGraph.Number.Binary64
import TableGraph.Number.Digits

namespace TableGraph.Binary64

/-- a positive decimal number: digits, most significant first, and the exponent of the first digit -/
structure DecimalForm where
  digits : List Char
  leading : Int
  deriving DecidableEq, Repr

/-- the interval of reals that round to `significand` units of two to the power `exponent`, in quarters of that unit -/
structure RoundingInterval where
  low : Nat
  high : Nat
  closed : Bool
  deriving DecidableEq, Repr

/-- a power of two is nearer to the number below it than to the one above it -/
def roundingInterval (significand : Nat) (exponent : Int) : RoundingInterval where
  low := if significand = Nat.pow 2 52 ∧ -1074 < exponent then 4 * significand - 1 else 4 * significand - 2
  high := 4 * significand + 2
  closed := significand % 2 = 0

/-- whether `num / den` quarters lie in the interval -/
def RoundingInterval.contains (range : RoundingInterval) (num den : Nat) : Bool :=
  if range.closed then decide (range.low * den ≤ num ∧ num ≤ range.high * den)
  else decide (range.low * den < num ∧ num < range.high * den)

/-- the exponent of the first decimal digit of the positive fraction `num / den` -/
def leadingExponent (num den : Nat) : Int :=
  if den ≤ num then ((Digits.ofNat (num / den)).length : Int) - 1
  else -((Digits.ofNat ((den - 1) / num)).length : Int)

/-- a fraction multiplied by a power of ten -/
def timesPowerOfTen (num den : Nat) : Int → Nat × Nat
  | .ofNat k => (num * Nat.pow 10 k, den)
  | .negSucc k => (num, den * Nat.pow 10 (k + 1))

/-- the decimal of `count` digits nearest to `significand` units that rounds back to them, if one does, as a whole
number of units of ten to the power `leading - count + 1`; `round` rounds a fraction to the nearest whole number -/
def onGrid? (round : Nat → Nat → Nat) (significand : Nat) (exponent leading : Int) (count : Nat) : Option Nat :=
  let range := roundingInterval significand exponent
  let (num, den) := sizeRatio significand exponent
  let (n, d) := timesPowerOfTen num den ((count : Int) - 1 - leading)
  let below := n / d
  -- a grid point `p` is `p * d / n` of the number, which is `4 * significand` quarters
  let inside := fun point : Nat => range.contains (4 * significand * (point * d)) n
  match inside below, inside (below + 1) with
  | true, true => some (round n d)
  | true, false => some below
  | false, true => some (below + 1)
  | false, false => none

/-- removes the zeros at the end of a run of digits -/
def dropTrailingZeros (digits : List Char) : List Char := (digits.reverse.dropWhile (· == '0')).reverse

/-- the shortest decimal that reads back as `significand` units of two to the power `exponent`, `significand > 0` -/
def shortest (round : Nat → Nat → Nat) (significand : Nat) (exponent : Int) : DecimalForm :=
  let (num, den) := sizeRatio significand exponent
  let leading := leadingExponent num den
  let grid? := (List.range 17).findSome? fun k =>
    (onGrid? round significand exponent leading (k + 1)).map fun point => (k + 1, point)
  match grid? with
  | some (count, point) =>
    let digits := Digits.ofNat point
    { digits := dropTrailingZeros digits, leading := leading + ((digits.length : Int) - count) }
  | none => { digits := [], leading }

end TableGraph.Binary64
