/-
Conversions between decimals and floating-point numbers.

To a decimal: the power of two of the number is turned into powers of five and ten, within a coefficient of 96 bits; a
fraction is then cut to the precision a floating-point number has. To a floating-point number: whole part and fraction
are converted apart, added, and the sum is put back on the grid of the decimal's scale.
-/
import TableGraph.Number.Decimal

namespace TableGraph.Decimal

/-- a coefficient of at most 96 bits and a power of ten -/
structure Scaled where
  coefficient : Nat
  exponent : Int
  deriving DecidableEq, Repr

namespace Scaled

/-- halves the power of two `count` times: an even coefficient is halved, an odd one takes a factor five and the power
of ten falls, and if there is no room for the five a bit is lost -/
def absorbHalves (x : Scaled) : (count : Nat) → Scaled
  | 0 => x
  | count + 1 =>
    let step : Scaled :=
      if x.coefficient % 2 = 0 then ⟨x.coefficient / 2, x.exponent + 1⟩
      else if x.coefficient * 5 < Nat.pow 2 96 then ⟨x.coefficient * 5, x.exponent⟩
      else ⟨x.coefficient / 2, x.exponent + 1⟩
    absorbHalves step count

/-- doubles `count` times: by doubling the coefficient while there is room, else by a fifth and a power of ten -/
def absorbDoubles (x : Scaled) : (count : Nat) → Scaled
  | 0 => x
  | count + 1 =>
    let step : Scaled :=
      if x.coefficient < Nat.pow 2 95 then ⟨x.coefficient * 2, x.exponent - 1⟩ else ⟨x.coefficient / 5, x.exponent⟩
    absorbDoubles step count

/-- a coefficient times a power of two, as nearly as 96 bits allow -/
def ofPowerOfTwo (coefficient : Nat) : (exponent : Int) → Scaled
  | .ofNat k => absorbDoubles ⟨coefficient, .ofNat k⟩ k
  | .negSucc k => absorbHalves ⟨coefficient, .negSucc k⟩ (k + 1)

/-- multiplies `count` powers of ten into the coefficient, if there is room -/
def absorbTens? (coefficient : Nat) : (count : Nat) → Option Nat
  | 0 => some coefficient
  | count + 1 => if coefficient * 10 < Nat.pow 2 96 then absorbTens? (coefficient * 10) count else none

/-- drops `count` digits, each rounded half up into the next; nothing is left once the digits run out -/
def dropDigits (coefficient : Nat) : (count : Nat) → Nat
  | 0 => coefficient
  | count + 1 => if coefficient / 10 = 0 then 0 else dropDigits (Rounding.nearestUp coefficient 10) count

/-- drops digits after the point until the coefficient is below 2^52 -/
def limitPrecision (coefficient : Nat) : (scale : Nat) → Nat × Nat
  | 0 => (coefficient, 0)
  | scale + 1 =>
    if Nat.pow 2 52 ≤ coefficient then limitPrecision (Rounding.nearestUp coefficient 10) scale
    else (coefficient, scale + 1)

/-- the coefficient and scale of a decimal for this number, if it is not too large -/
def parts? (x : Scaled) : Option (Nat × Nat) :=
  match x.exponent with
  | .ofNat k => (absorbTens? x.coefficient k).map fun coefficient => (coefficient, 0)
  | .negSucc k =>
    let scale := k + 1
    let (coefficient, scale) :=
      if 28 < scale then
        let kept := dropDigits x.coefficient (scale - 28)
        (kept, if kept = 0 then 0 else 28)
      else (x.coefficient, scale)
    let (coefficient, scale) := limitPrecision coefficient scale
    some (stripZeros coefficient scale)

end Scaled

/-- the decimal nearest to a finite number, to about fifteen digits if it has a fraction -/
def ofBinary64? : Binary64 → Option Decimal
  | .finite negative significand exponent _ =>
    if significand = 0 then ofParts? negative 0 0
    else
      (Scaled.ofPowerOfTwo significand exponent).parts?.bind fun (coefficient, scale) =>
        ofParts? negative coefficient scale
  | _ => none

/-- the floating-point number near a decimal: whole part and fraction are rounded apart and added, and the sum is
rounded to a whole number of units of the last place -/
def toBinary64 (d : Decimal) : Binary64 :=
  let unit := Nat.pow 10 d.scale
  let whole := Binary64.roundSize (d.coefficient / unit, 1)
  let fraction := Binary64.divSizes (Binary64.roundSize (d.coefficient % unit, 1)) (Binary64.roundSize (unit, 1))
  let (num, den) :=
    if fraction.1 = 0 then whole
    else
      let grid := Binary64.powSizes (10, 1) d.scale
      let (num, den) := Binary64.mulSizes (Binary64.addSizes whole fraction) grid
      Binary64.divSizes (Rounding.nearestUp num den, 1) grid
  Binary64.ofRatio (d.negative && num != 0) num den

end TableGraph.Decimal
