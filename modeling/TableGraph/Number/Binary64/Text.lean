/-
Floating-point numbers in text. A layout says which numbers are written without an exponent, and how; the digits are
always the shortest that read back. Reading accepts decimal and scientific notation and the names of the values that
are not numbers, in any case.
-/
import TableGraph.Number.Binary64.Shortest
import TableGraph.Number.Rounding

namespace TableGraph.Binary64

/-- how a format writes a finite number -/
structure Layout where
  /-- whether a number whose first digit has this exponent is written without an exponent -/
  positional : Int → Bool
  /-- whether whole numbers end in `.0` -/
  wholePoint : Bool
  /-- whether a positive exponent has a plus -/
  exponentPlus : Bool
  /-- how a number in the middle between two shortest decimals is rounded -/
  round : Nat → Nat → Nat

namespace Layout

/-- every number is written out, whole numbers without a point -/
def plain : Layout where
  positional := fun _ => true
  wholePoint := false
  exponentPlus := false
  round := Rounding.nearestUp

/-- from 0.0001 up to 10^16 numbers are written out, whole numbers with a point -/
def inspected : Layout where
  positional := fun leading => decide (-4 ≤ leading ∧ leading < 16)
  wholePoint := true
  exponentPlus := false
  round := Rounding.nearestUp

/-- from 0.00001 up to 10^16 numbers are written out; a positive exponent has a plus -/
def json : Layout where
  positional := fun leading => decide (-5 ≤ leading ∧ leading < 16)
  wholePoint := true
  exponentPlus := true
  round := Rounding.nearestEven

/-- from 0.00001 up to 10^16 numbers are written out; a positive exponent has no sign -/
def yaml : Layout where
  positional := fun leading => decide (-5 ≤ leading ∧ leading < 16)
  wholePoint := true
  exponentPlus := false
  round := Rounding.nearestEven

end Layout

/-- digits with a point placed after the digit of exponent zero -/
def pointed (wholePoint : Bool) (form : DecimalForm) : List Char :=
  match form.leading with
  | .negSucc k => '0' :: '.' :: (List.replicate k '0' ++ form.digits)
  | .ofNat k =>
    let whole := form.digits.take (k + 1) ++ List.replicate (k + 1 - form.digits.length) '0'
    match form.digits.drop (k + 1) with
    | [] => if wholePoint then whole ++ ['.', '0'] else whole
    | fraction => whole ++ '.' :: fraction

/-- digits with a point after the first one, and an exponent -/
def scientific (exponentPlus : Bool) (form : DecimalForm) : List Char :=
  let mantissa :=
    match form.digits with
    | [] => []
    | [d] => [d]
    | d :: rest => d :: '.' :: rest
  let exponent :=
    match form.leading with
    | .ofNat k => (if exponentPlus then ['+'] else []) ++ Digits.ofNat k
    | .negSucc k => '-' :: Digits.ofNat (k + 1)
  mantissa ++ 'e' :: exponent

/-- the text of a number in a layout -/
def text (layout : Layout) : Binary64 → List Char
  | .undefined => ['N', 'a', 'N']
  | .infinite negative => (if negative then ['-'] else []) ++ ['i', 'n', 'f']
  | .finite negative significand exponent _ =>
    let size :=
      if significand = 0 then if layout.wholePoint then ['0', '.', '0'] else ['0']
      else
        let form := shortest layout.round significand exponent
        if layout.positional form.leading then pointed layout.wholePoint form
        else scientific layout.exponentPlus form
    (if negative then ['-'] else []) ++ size

/-! ## Reading -/

/-- the number nearest to `coefficient` times ten to the power `exponent`; exponents far out of range are cut short -/
def ofScientific (negative : Bool) (coefficient : Nat) (exponent : Int) : Binary64 :=
  let magnitude := exponent + (Digits.ofNat coefficient).length
  if coefficient = 0 ∨ magnitude < -400 then zero negative
  else if 400 < magnitude then .infinite negative
  else
    match exponent with
    | .ofNat k => ofRatio negative (coefficient * Nat.pow 10 k) 1
    | .negSucc k => ofRatio negative coefficient (Nat.pow 10 (k + 1))

/-- reads a whole text as the digits of an exponent with an optional sign -/
def exponentOfText? (s : List Char) : Option Int :=
  let digits? := fun (s : List Char) => if s.isEmpty || !s.all Char.isDigit then none else some (Digits.value s)
  match s with
  | '+' :: rest => (digits? rest).map Int.ofNat
  | '-' :: rest => (digits? rest).map (- Int.ofNat ·)
  | s => (digits? s).map Int.ofNat

/-- reads digits, an optional point with more digits, and an optional exponent; there is at least one digit before the
exponent -/
def sizeOfText? (negative : Bool) (s : List Char) : Option Binary64 :=
  let whole := s.takeWhile Char.isDigit
  let rest := s.dropWhile Char.isDigit
  let (fraction, rest) :=
    match rest with
    | '.' :: rest => (rest.takeWhile Char.isDigit, rest.dropWhile Char.isDigit)
    | _ => ([], rest)
  let exponent? :=
    match rest with
    | [] => some 0
    | c :: rest => if c = 'e' ∨ c = 'E' then exponentOfText? rest else none
  if whole.isEmpty && fraction.isEmpty then none
  else
    exponent?.map fun exponent =>
      ofScientific negative (Digits.value (whole ++ fraction)) (exponent - fraction.length)

/-- reads a number: an optional sign, then a name in any case or digits -/
def ofText? (s : List Char) : Option Binary64 :=
  let (negative, size) :=
    match s with
    | '-' :: rest => (true, rest)
    | '+' :: rest => (false, rest)
    | s => (false, s)
  let name := String.ofList (size.map Char.toLower)
  if name = "nan" then some .undefined
  else if name = "inf" ∨ name = "infinity" then some (.infinite negative)
  else sizeOfText? negative size

end TableGraph.Binary64
