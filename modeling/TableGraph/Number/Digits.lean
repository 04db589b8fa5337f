/-
Decimal digits: writing a natural number, reading a run of digits, and fixed-width fields padded with zeros.

`value_ofNat` says that a written number reads back.
-/

namespace TableGraph.Digits

/-- the decimal digits of a number, most significant first and without leading zeros -/
def ofNat (n : Nat) : List Char := Nat.toDigits 10 n

/-- the number that a run of decimal digits denotes -/
def value (s : List Char) : Nat := Nat.ofDigitChars 10 s 0

/-- the digits of a number with leading zeros up to a width -/
def padded (width n : Nat) : List Char := List.replicate (width - (ofNat n).length) '0' ++ ofNat n

/-- the number of digits a text begins with, counting no further than a limit -/
def prefixLength : (limit : Nat) → List Char → Nat
  | 0, _ => 0
  | _, [] => 0
  | limit + 1, c :: rest => if c.isDigit then prefixLength limit rest + 1 else 0

/-- reads at least `least` and at most `most` digits; the number and what follows it -/
def take? (least most : Nat) (s : List Char) : Option (Nat × List Char) :=
  let count := prefixLength most s
  if least ≤ count then some (value (s.take count), s.drop count) else none

/-- the value of a character as a digit of a base up to 36, letters of either size counting from ten -/
def digitIn? (base : Nat) (c : Char) : Option Nat :=
  let code := c.toNat
  let digit :=
    if '0'.toNat ≤ code ∧ code ≤ '9'.toNat then some (code - '0'.toNat)
    else if 'a'.toNat ≤ code ∧ code ≤ 'z'.toNat then some (code - 'a'.toNat + 10)
    else if 'A'.toNat ≤ code ∧ code ≤ 'Z'.toNat then some (code - 'A'.toNat + 10)
    else none
  digit.filter (· < base)

/-- the small hexadecimal digits of a number, at least `width` of them -/
def hexPadded (width n : Nat) : List Char :=
  let digits := Nat.toDigits 16 n
  List.replicate (width - digits.length) '0' ++ digits

theorem value_ofNat (n : Nat) : value (ofNat n) = n := by
  simp [value, ofNat]

end TableGraph.Digits
