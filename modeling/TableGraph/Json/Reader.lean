/-
Reading the text of a JSON document. Literals of numbers are kept as written, names may repeat, and the order of fields
is kept.

The readers take a bound on the number of steps; `ofText?` gives them the length of the text, of which every step uses
at least one character.
-/
import TableGraph.Json.Basic

namespace TableGraph.Json

/-- drops the white space that JSON allows -/
def skipSpace (s : List Char) : List Char :=
  s.dropWhile fun c => c == ' ' || c == '\t' || c == '\n' || c == '\r'

/-- reads four hexadecimal digits -/
def codeUnit? : List Char → Option (Nat × List Char)
  | a :: b :: c :: d :: rest =>
    ([a, b, c, d].mapM (Digits.digitIn? 16)).map fun digits =>
      (digits.foldl (fun found digit => 16 * found + digit) 0, rest)
  | _ => none

/-- reads what follows a backslash; a pair of surrogate codes is one character -/
def escape? : List Char → Option (Char × List Char)
  | 'u' :: rest => do
    let (high, rest) ← codeUnit? rest
    if 0xD800 ≤ high ∧ high < 0xDC00 then
      match rest with
      | '\\' :: 'u' :: rest =>
        let (low, rest) ← codeUnit? rest
        if 0xDC00 ≤ low ∧ low < 0xE000 then
          return (Char.ofNat (0x10000 + (high - 0xD800) * 0x400 + (low - 0xDC00)), rest)
        else none
      | _ => none
    else if 0xDC00 ≤ high ∧ high < 0xE000 then none
    else return (Char.ofNat high, rest)
  | 'b' :: rest => some ('\x08', rest)
  | 'f' :: rest => some ('\x0c', rest)
  | 'n' :: rest => some ('\n', rest)
  | 'r' :: rest => some ('\r', rest)
  | 't' :: rest => some ('\t', rest)
  | c :: rest => if c = '"' ∨ c = '\\' ∨ c = '/' then some (c, rest) else none
  | [] => none

/-- reads the rest of a string after its opening quote -/
def stringRest? : (steps : Nat) → List Char → Option (List Char × List Char)
  | 0, _ => none
  | _, [] => none
  | steps + 1, c :: rest =>
    if c = '"' then some ([], rest)
    else if c = '\\' then do
      let (decoded, rest) ← escape? rest
      let (more, rest) ← stringRest? steps rest
      return (decoded :: more, rest)
    else if c.toNat < 32 then none
    else do
      let (more, rest) ← stringRest? steps rest
      return (c :: more, rest)

/-- the length of the number literal that a text begins with, if it begins with one -/
def numberLength? (s : List Char) : Option Nat :=
  let sign := if s.head? == some '-' then 1 else 0
  let digitsAt := fun start => ((s.drop start).takeWhile Char.isDigit).length
  let whole := digitsAt sign
  if whole = 0 ∨ (1 < whole ∧ s[sign]? = some '0') then none
  else
    let afterWhole := sign + whole
    let fraction := if s[afterWhole]? = some '.' then digitsAt (afterWhole + 1) else 0
    if s[afterWhole]? = some '.' ∧ fraction = 0 then none
    else
      let afterFraction := if fraction = 0 then afterWhole else afterWhole + 1 + fraction
      if s[afterFraction]? = some 'e' ∨ s[afterFraction]? = some 'E' then
        let signed := s[afterFraction + 1]? = some '+' ∨ s[afterFraction + 1]? = some '-'
        let start := if signed then afterFraction + 2 else afterFraction + 1
        let exponent := digitsAt start
        if exponent = 0 then none else some (start + exponent)
      else some afterFraction

/-- reads a word that stands for a value -/
def word? (word : List Char) (value : Json) (s : List Char) : Option (Json × List Char) :=
  if word.isPrefixOf s then some (value, s.drop word.length) else none

mutual

/-- reads a value, after white space -/
def value? : (steps : Nat) → List Char → Option (Json × List Char)
  | 0, _ => none
  | steps + 1, s =>
    match skipSpace s with
    | '"' :: rest => (stringRest? steps rest).map fun (text, rest) => (.string (String.ofList text), rest)
    | '[' :: rest =>
      match skipSpace rest with
      | ']' :: rest => some (.array [], rest)
      | rest => (items? steps rest).map fun (items, rest) => (.array items, rest)
    | '\x7b' :: rest =>
      match skipSpace rest with
      | '\x7d' :: rest => some (.object [], rest)
      | rest => (fields? steps rest).map fun (fields, rest) => (.object fields, rest)
    | 'n' :: rest => word? ['u', 'l', 'l'] .null rest
    | 't' :: rest => word? ['r', 'u', 'e'] (.bool true) rest
    | 'f' :: rest => word? ['a', 'l', 's', 'e'] (.bool false) rest
    | s => (numberLength? s).map fun length => (.number (String.ofList (s.take length)), s.drop length)

/-- reads one or more values separated by commas, up to the closing bracket -/
def items? : (steps : Nat) → List Char → Option (List Json × List Char)
  | 0, _ => none
  | steps + 1, s => do
    let (item, rest) ← value? steps s
    match skipSpace rest with
    | ']' :: rest => return ([item], rest)
    | ',' :: rest =>
      let (items, rest) ← items? steps rest
      return (item :: items, rest)
    | _ => none

/-- reads one or more fields separated by commas, up to the closing brace -/
def fields? : (steps : Nat) → List Char → Option (List (String × Json) × List Char)
  | 0, _ => none
  | steps + 1, s => do
    let (name, rest) ←
      match skipSpace s with
      | '"' :: rest => stringRest? steps rest
      | _ => none
    let rest ←
      match skipSpace rest with
      | ':' :: rest => some rest
      | _ => none
    let (value, rest) ← value? steps rest
    let name := String.ofList name
    match skipSpace rest with
    | '\x7d' :: rest => return ([(name, value)], rest)
    | ',' :: rest =>
      let (fields, rest) ← fields? steps rest
      return ((name, value) :: fields, rest)
    | _ => none

end

/-- reads a whole text as one document -/
def ofText? (s : List Char) : Option Json :=
  match value? (s.length + 1) s with
  | some (value, rest) => if (skipSpace rest).isEmpty then some value else none
  | none => none

end TableGraph.Json
