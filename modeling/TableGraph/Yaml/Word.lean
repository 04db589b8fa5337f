/-
What the word of a plain scalar stands for: nothing, a truth value, a number or itself.

A whole number may have a sign and may be hexadecimal, octal or binary; a decimal one with needless zeros is no number. A
number with a point or an exponent must be finite, but there are words for the infinities and the undefined value.
-/
import TableGraph.Number.Binary64.Text
import TableGraph.Number.Whole
import TableGraph.Yaml.Basic

namespace TableGraph.Yaml

/-- the words for nothing, besides the empty one -/
def nullWords : List String := ["null", "Null", "NULL", "~"]

/-- the truth value that a word stands for -/
def boolOfWord? (word : String) : Option Bool :=
  if ["true", "True", "TRUE"].contains word then some true
  else if ["false", "False", "FALSE"].contains word then some false
  else none

/-- a text without its sign -/
def withoutSign : List Char → List Char
  | '+' :: rest => rest
  | '-' :: rest => rest
  | s => s

/-- whether a text is digits with a needless zero in front -/
def hasNeedlessZero (s : List Char) : Bool :=
  let digits := withoutSign s
  1 < digits.length && digits.head? == some '0' && digits.all Char.isDigit

/-- the number that one or more digits of a base denote -/
def natIn? (base : Nat) (s : List Char) : Option Nat :=
  if s.isEmpty then none
  else (s.mapM (Digits.digitIn? base)).map fun digits => digits.foldl (fun found digit => base * found + digit) 0

/-- the number of a text without sign -/
def magnitude? (s : List Char) : Option Nat :=
  match s with
  | '0' :: 'x' :: digits => natIn? 16 digits
  | '0' :: 'o' :: digits => natIn? 8 digits
  | '0' :: 'b' :: digits => natIn? 2 digits
  | digits => if hasNeedlessZero digits then none else natIn? 10 digits

/-- the whole number that a text denotes -/
def integer? : List Char → Option Int
  | '+' :: rest => (magnitude? rest).map Int.ofNat
  | '-' :: rest => (magnitude? rest).map fun n => -Int.ofNat n
  | s => (magnitude? s).map Int.ofNat

/-- whether a whole number fits a word of this many bits, signed if it is negative -/
def fitsWord (bits : Nat) (n : Int) : Bool := -Int.pow 2 (bits - 1) ≤ n && n < Int.pow 2 bits

/-- the words for the infinities and the undefined value -/
def floatWords : List (Binary64 × List String) := [
  (.infinite false, [".inf", ".Inf", ".INF", "+.inf", "+.Inf", "+.INF"]),
  (.infinite true, ["-.inf", "-.Inf", "-.INF"]),
  (.undefined, [".nan", ".NaN", ".NAN"])]

/-- the finite number of a text; only one sign may stand in front -/
def finite? (s : List Char) : Option Binary64 :=
  let body := match s with
    | '+' :: rest => if rest.head?.any (fun c => c == '+' || c == '-') then none else some rest
    | s => some s
  (body.bind Binary64.ofText?).filter Binary64.isFinite

/-- the floating-point number that a text denotes -/
def float? (s : List Char) : Option Binary64 :=
  match floatWords.find? fun entry => entry.2.contains (String.ofList s) with
  | some (x, _) => some x
  | none => finite? s

/-- what a word stands for. A whole number that fits a word of 64 bits is one; a larger one that still fits 128 bits is
refused. -/
def ofWord? (word : String) : Option Yaml :=
  let s := word.toList
  let number := fun (_ : Unit) =>
    if hasNeedlessZero s then Yaml.string word else ((float? s).map Yaml.float).getD (.string word)
  if s.isEmpty || nullWords.contains word then some .null
  else
    match boolOfWord? word with
    | some b => some (.bool b)
    | none =>
      match integer? s with
      | some n => if fitsWord 64 n then some (.integer n) else if fitsWord 128 n then none else some (number ())
      | none => some (number ())

end TableGraph.Yaml
