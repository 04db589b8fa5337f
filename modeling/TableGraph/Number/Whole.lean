/-
Whole numbers in text: an optional sign and decimal digits, with a limit. What is wrong with a text is found at its
first offending character, so a number that is too large is reported even when junk follows it.

Powers are written by their full names here and elsewhere: the notation stands for the power of a monoid where one is
known, and for that of the core library where none is.
-/
import TableGraph.Number.Digits

namespace TableGraph

/-- why a text is not a whole number within its limits -/
inductive WholeError where
  | empty
  | invalidDigit
  | tooLarge
  | tooSmall
  deriving DecidableEq, Repr

/-- the wording of a fault -/
def WholeError.message : WholeError → String
  | .empty => "cannot parse integer from empty string"
  | .invalidDigit => "invalid digit found in string"
  | .tooLarge => "number too large to fit in target type"
  | .tooSmall => "number too small to fit in target type"

namespace Whole

/-- the largest numbers of the word sizes that occur -/
def maxWord32 : Nat := Nat.pow 2 32 - 1
def maxWord64 : Nat := Nat.pow 2 64 - 1

/-- continues a number with further digits of a base, up to a limit -/
def digits (base limit : Nat) (overflow : WholeError) (found : Nat) : List Char → Except WholeError Nat
  | [] => .ok found
  | c :: rest =>
    match Digits.digitIn? base c with
    | none => .error .invalidDigit
    | some digit =>
      if base * found + digit ≤ limit then digits base limit overflow (base * found + digit) rest
      else .error overflow

/-- reads the digits after a sign; a sign alone is no number -/
def afterSign (base limit : Nat) (overflow : WholeError) (s : List Char) : Except WholeError Nat :=
  if s.isEmpty then .error .invalidDigit else digits base limit overflow 0 s

/-- reads a number without sign or with a plus -/
def unsignedIn (base limit : Nat) : List Char → Except WholeError Nat
  | [] => .error .empty
  | '+' :: rest => afterSign base limit .tooLarge rest
  | s => afterSign base limit .tooLarge s

/-- reads a number with an optional sign, between `-least` and `most` -/
def signedIn (base least most : Nat) : List Char → Except WholeError Int
  | [] => .error .empty
  | '+' :: rest => (afterSign base most .tooLarge rest).map Int.ofNat
  | '-' :: rest => (afterSign base least .tooSmall rest).map (- Int.ofNat ·)
  | s => (afterSign base most .tooLarge s).map Int.ofNat

/-- reads a decimal number up to a limit -/
def unsigned (limit : Nat) (s : String) : Except WholeError Nat := unsignedIn 10 limit s.toList

/-- reads a decimal number that fits a signed word of 64 bits -/
def int64? (s : List Char) : Option Int64 :=
  match signedIn 10 (Nat.pow 2 63) (Nat.pow 2 63 - 1) s with
  | .ok n => some (Int64.ofInt n)
  | .error _ => none

/-- the digits of a signed number, with a minus if it is negative -/
def text (n : Int) : List Char :=
  if n < 0 then '-' :: Digits.ofNat n.natAbs else Digits.ofNat n.natAbs

end Whole

end TableGraph
