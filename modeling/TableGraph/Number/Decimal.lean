/-
Exact decimal numbers: a sign, a coefficient below 2^96 and a scale of at most 28 digits after the point. The scale is
part of the value (`1.50` and `1.5` differ as data) but not of the number it denotes; `canonicalText` forgets it.

`stripZeros_scale_le` and `stripZeros_value` say that forgetting the scale keeps the number.
-/
import TableGraph.Number.Binary64
import TableGraph.Number.Whole

namespace TableGraph

/-- a decimal number with a fixed number of digits after the point -/
structure Decimal where
  negative : Bool
  coefficient : Nat
  scale : Nat
  coefficient_lt : coefficient < Nat.pow 2 96
  scale_le : scale ≤ 28
  deriving DecidableEq, Repr

namespace Decimal

/-- the decimal of these parts, if they are within bounds -/
def ofParts? (negative : Bool) (coefficient scale : Nat) : Option Decimal :=
  if h : coefficient < Nat.pow 2 96 ∧ scale ≤ 28 then some ⟨negative, coefficient, scale, h.1, h.2⟩ else none

/-- the decimal of these parts, where zero has no sign -/
def unsignedZero? (negative : Bool) (coefficient scale : Nat) : Option Decimal :=
  ofParts? (negative && coefficient != 0) coefficient scale

/-- a whole number of 64 bits as a decimal -/
def ofInt64 (n : Int64) : Decimal where
  negative := n < 0
  coefficient := n.toInt.natAbs
  scale := 0
  coefficient_lt := by
    have hlow := n.le_toInt
    have hhigh := n.toInt_lt
    rw [Nat.pow_eq]
    omega
  scale_le := by omega

/-! ## Text -/

/-- a coefficient with its last `scale` digits after a point -/
def sizeText (coefficient scale : Nat) : List Char :=
  if scale = 0 then Digits.ofNat coefficient
  else
    let digits := Digits.padded (scale + 1) coefficient
    digits.take (digits.length - scale) ++ '.' :: digits.drop (digits.length - scale)

/-- the digits with the scale as it is -/
def text (d : Decimal) : List Char :=
  (if d.negative then ['-'] else []) ++ sizeText d.coefficient d.scale

/-- removes the zeros at the end of the digits after the point -/
def stripZeros (coefficient : Nat) : (scale : Nat) → Nat × Nat
  | 0 => (coefficient, 0)
  | scale + 1 => if coefficient % 10 = 0 then stripZeros (coefficient / 10) scale else (coefficient, scale + 1)

/-- the one text of all decimals that denote the same number: no zeros at the end of the fraction, and zero unsigned -/
def canonicalText (d : Decimal) : List Char :=
  let (coefficient, scale) := stripZeros d.coefficient d.scale
  (if d.negative && coefficient != 0 then ['-'] else []) ++ sizeText coefficient scale

theorem stripZeros_scale_le (coefficient scale : Nat) : (stripZeros coefficient scale).2 ≤ scale := by
  induction scale generalizing coefficient with
  | zero => simp [stripZeros]
  | succ scale ih =>
    unfold stripZeros
    split
    · exact Nat.le_succ_of_le (ih _)
    · exact Nat.le_refl _

theorem stripZeros_value (coefficient scale : Nat) :
    (stripZeros coefficient scale).1 * Nat.pow 10 (scale - (stripZeros coefficient scale).2) = coefficient := by
  induction scale generalizing coefficient with
  | zero => simp [stripZeros]
  | succ scale ih =>
    unfold stripZeros
    split
    · next h =>
      have hle := stripZeros_scale_le (coefficient / 10) scale
      have hpower (n : Nat) : Nat.pow 10 (n + 1) = Nat.pow 10 n * 10 := rfl
      rw [Nat.succ_sub hle, hpower, ← Nat.mul_assoc, ih]
      omega
    · simp

/-- the whole number that a decimal denotes, if its fraction is zero -/
def toInt? (d : Decimal) : Option Int :=
  if d.coefficient % Nat.pow 10 d.scale = 0 then
    let size : Int := (d.coefficient / Nat.pow 10 d.scale : Nat)
    some (if d.negative then -size else size)
  else none

/-! ## Reading

A decimal is read digit by digit. A digit that no longer fits after the point, or that would be the twenty-ninth there,
decides the rounding and ends the reading; one that does not fit before the point is a fault. -/

/-- what has been read so far: the digits, how many of them are after the point, and whether there was a point or a
digit at all -/
structure Reading where
  coefficient : Nat
  scale : Nat
  point : Bool
  digit : Bool

/-- ends a reading at the digit `next`, which is dropped: from five on, the last digit kept is raised -/
def Reading.roundAt (r : Reading) (next : Char) : Option (Nat × Nat) :=
  let up? :=
    if next.isDigit then some (decide ('5' ≤ next))
    else if next = '_' ∨ next = '.' then some false
    else none
  up?.bind fun up =>
    if up then
      if r.coefficient + 1 < Nat.pow 2 96 then some (r.coefficient + 1, r.scale)
      else if r.scale = 0 then none
      else some ((r.coefficient + 5) / 10, r.scale - 1)
    else some (r.coefficient, r.scale)

/-- reads the characters after the sign; underscores may stand anywhere after the first digit -/
def Reading.run (r : Reading) : List Char → Option (Nat × Nat)
  | [] => if r.digit then some (r.coefficient, r.scale) else none
  | c :: rest =>
    if c.isDigit then
      if r.point && 28 ≤ r.scale then r.roundAt c
      else
        let grown := 10 * r.coefficient + (c.toNat - '0'.toNat)
        if grown < Nat.pow 2 96 then
          Reading.run { r with coefficient := grown, scale := if r.point then r.scale + 1 else 0, digit := true } rest
        else if r.point then r.roundAt c
        else none
    else if c = '.' ∧ r.point = false then Reading.run { r with point := true } rest
    else if c = '_' ∧ r.digit then Reading.run r rest
    else if 28 ≤ r.scale then r.roundAt c
    else none

/-- reads a decimal without exponent: an optional sign, digits and an optional point -/
def ofPlainText? (s : List Char) : Option Decimal :=
  let (negative, size) :=
    match s with
    | '-' :: rest => (true, rest)
    | '+' :: rest => (false, rest)
    | s => (false, s)
  (Reading.run ⟨0, 0, false, false⟩ size).bind fun (coefficient, scale) => unsignedZero? negative coefficient scale

/-- moves the point `places` to the left -/
def shiftLeft? (d : Decimal) (places : Nat) : Option Decimal :=
  unsignedZero? d.negative d.coefficient (d.scale + places)

/-- moves the point `places` to the right, appending zeros where there are no digits left -/
def shiftRight? (d : Decimal) (places : Nat) : Option Decimal :=
  if places ≤ d.scale then unsignedZero? d.negative d.coefficient (d.scale - places)
  else if 28 < places then none
  else unsignedZero? d.negative (d.coefficient * Nat.pow 10 (places - d.scale)) 0

/-- reads a decimal with an optional exponent -/
def ofText? (s : List Char) : Option Decimal :=
  let isMark := fun c : Char => c = 'e' ∨ c = 'E'
  let mantissa := s.takeWhile fun c => !decide (isMark c)
  match s.drop mantissa.length with
  | [] => ofPlainText? mantissa
  | _ :: '-' :: exponent =>
    match Whole.unsignedIn 10 Whole.maxWord32 exponent with
    | .ok places => (ofPlainText? mantissa).bind fun d => d.shiftLeft? places
    | .error _ => none
  | _ :: exponent =>
    match Whole.unsignedIn 10 Whole.maxWord32 exponent with
    | .ok places => (ofPlainText? mantissa).bind fun d => d.shiftRight? places
    | .error _ => none

end Decimal

end TableGraph
