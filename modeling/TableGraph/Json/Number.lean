/-
The numbers that JSON literals denote. A whole number of 64 bits is exact. Any other literal is read in two steps: its
first digits, as many as 64 bits hold, are rounded to a floating-point number, and that is scaled by a power of ten,
which rounds again.
-/
import TableGraph.Number.Binary64.Text
import TableGraph.Number.Whole

namespace TableGraph.Json

/-- the parts of a number literal -/
structure NumberParts where
  negative : Bool
  whole : List Char
  fraction : List Char
  exponent : Int

/-- the largest power of ten in one scaling step -/
def maxScale : Nat := 308

/-- a power of ten as a size of the floating-point format -/
def tenPower (n : Nat) : Nat × Nat := Binary64.roundSize (Nat.pow 10 n, 1)

/-- a size divided by a power of ten, in as many steps as that takes; the last step is left to the caller -/
def scaledDown (size : Nat × Nat) (n : Nat) : (Nat × Nat) × Nat :=
  if n ≤ maxScale then (size, n)
  else if size.1 = 0 then (size, 0)
  else scaledDown (Binary64.divSizes size (tenPower maxScale)) (n - maxScale)
termination_by n
decreasing_by simp only [maxScale] at *; omega

/-- a size times a power of ten as a floating-point number, if it is not too large -/
def scaled? (negative : Bool) (size : Nat × Nat) (exponent : Int) : Option Binary64 :=
  let result? :=
    match exponent with
    | .ofNat n =>
      if n ≤ maxScale then some (Binary64.ofRatio negative (size.1 * (tenPower n).1) (size.2 * (tenPower n).2))
      else if size.1 = 0 then some (Binary64.zero negative)
      else none
    | .negSucc k =>
      let (size, n) := scaledDown size (k + 1)
      some (Binary64.ofRatio negative (size.1 * (tenPower n).2) (size.2 * (tenPower n).1))
  result?.filter (·.isFinite)

/-- takes digits into a number as long as it has 64 bits; the number and the digits left over -/
def keepDigits (found : Nat) : List Char → Nat × List Char
  | [] => (found, [])
  | c :: rest =>
    let grown := 10 * found + (c.toNat - '0'.toNat)
    if grown ≤ Whole.maxWord64 then keepDigits grown rest else (found, c :: rest)

namespace NumberParts

/-- the parts of a literal -/
def ofLiteral (literal : List Char) : NumberParts :=
  let (negative, s) :=
    match literal with
    | '-' :: rest => (true, rest)
    | s => (false, s)
  let afterWhole := s.dropWhile Char.isDigit
  let (fraction, afterFraction) :=
    match afterWhole with
    | '.' :: rest => (rest.takeWhile Char.isDigit, rest.dropWhile Char.isDigit)
    | rest => ([], rest)
  ⟨negative, s.takeWhile Char.isDigit, fraction, (Binary64.exponentOfText? (afterFraction.drop 1)).getD 0⟩

/-- the floating-point number of a literal, if it is not too large -/
def toBinary64? (parts : NumberParts) : Option Binary64 :=
  let (kept, left) := keepDigits 0 parts.whole
  let (significand, unread) := keepDigits kept parts.fraction
  let places : Int := (left.length : Int) - ((parts.fraction.length - unread.length : Nat) : Int)
  scaled? parts.negative (Binary64.roundSize (significand, 1)) (places + parts.exponent)

end NumberParts

end TableGraph.Json
