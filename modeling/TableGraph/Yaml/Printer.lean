/-
The text of a value: lists and mappings in block style, empty ones in brackets, one entry a line. An item follows its
dash on the same line; a list that is the value of a key stands below the key without indentation of its own.
-/
import TableGraph.Yaml.Style
import TableGraph.Yaml.Token.Tag

namespace TableGraph.Yaml

/-! ## Scalars -/

/-- the letter of an escape in double quotes, for the characters that have one -/
def escapeLetters : List (Char × Char) := [
  ('\x00', '0'), ('\x07', 'a'), ('\x08', 'b'), ('\t', 't'), ('\n', 'n'), ('\x0b', 'v'), ('\x0c', 'f'), ('\r', 'r'),
  ('\x1b', 'e'), ('"', '"'), ('\\', '\\'), ('\x85', 'N'), ('\xa0', '_'), ('\u2028', 'L'), ('\u2029', 'P')]

/-- the large hexadecimal digits of a number, `width` of them -/
def capitalHex (width n : Nat) : List Char := (Digits.hexPadded width n).map Char.toUpper

/-- the code of a character in an escape -/
def codeEscape (code : Nat) : List Char :=
  if code ≤ 0xFF then 'x' :: capitalHex 2 code
  else if code ≤ 0xFFFF then 'u' :: capitalHex 4 code
  else 'U' :: capitalHex 8 code

/-- a character between double quotes -/
def doubleQuotedChar (c : Char) : List Char :=
  if isPrintable c && !isBreak c && c != '"' && c != '\\' then [c]
  else
    match escapeLetters.lookup c with
    | some letter => ['\\', letter]
    | none => '\\' :: codeEscape c.toNat

/-- a text in double quotes -/
def doubleQuoted (s : List Char) : List Char := '"' :: (s.flatMap doubleQuotedChar ++ ['"'])

/-- the indentation at the start of a line -/
def lineLead (indent : Nat) (lineStart : Bool) : List Char := if lineStart then List.replicate indent ' ' else []

/-- the rest of a text between single quotes; a line after the first is indented -/
def singleQuotedFrom (indent : Nat) (lineStart : Bool) : List Char → List Char
  | [] => lineLead indent lineStart
  | c :: rest =>
    if isBreak c then c :: singleQuotedFrom indent true rest
    else
      let written := if c == '\'' then ['\'', '\''] else [c]
      lineLead indent lineStart ++ written ++ singleQuotedFrom indent false rest

/-- a text in single quotes -/
def singleQuoted (indent : Nat) (s : List Char) : List Char := '\'' :: (singleQuotedFrom indent false s ++ ['\''])

/-- the lines of a block, each indented unless it is empty -/
def blockText (indent : Nat) (lineStart : Bool) : List Char → List Char
  | [] => []
  | c :: rest =>
    if isBreak c then c :: blockText indent true rest
    else lineLead indent lineStart ++ c :: blockText indent false rest

/-- the sign of a block: what its reader is to do with the line ends at the end -/
def chompingSign (s : List Char) : List Char :=
  match s.reverse with
  | [] => ['-']
  | last :: before => if !isBreak last then ['-'] else if before.head?.all isBreak then ['+'] else []

/-- a text as a literal block; a digit tells the indentation if the first line does not -/
def literalBlock (indent : Nat) (s : List Char) : List Char :=
  let digit := if s.head?.any fun c => c == ' ' || isBreak c then ['2'] else []
  '|' :: (digit ++ chompingSign s ++ '\n' :: blockText indent true s)

/-- a text in its style; the lines after the first are indented -/
def textScalar (isKey : Bool) (indent : Nat) (text : String) : List Char :=
  let s := text.toList
  match styleOf isKey text with
  | .plain => s
  | .singleQuoted => singleQuoted indent s
  | .literal => literalBlock indent s
  | _ => doubleQuoted s

/-- a floating-point number -/
def floatScalar : Binary64 → List Char
  | .undefined => ".nan".toList
  | .infinite false => ".inf".toList
  | .infinite true => "-.inf".toList
  | x => Binary64.text .yaml x

/-- a value that is no filled collection -/
def leaf (isKey : Bool) (indent : Nat) : Yaml → List Char
  | .null => "null".toList
  | .bool b => (if b then "true" else "false").toList
  | .integer n => Whole.text n
  | .float x => floatScalar x
  | .string text => textScalar isKey indent text
  | .sequence _ => ['[', ']']
  | .mapping _ => ['\x7b', '\x7d']
  | .tagged _ _ => []

/-! ## Collections -/

/-- a character of a tag, if need be as the codes of its bytes -/
def tagChar (c : Char) : List Char :=
  if isTagChar true c && c != '%' then [c]
  else (String.singleton c).toUTF8.toList.flatMap fun byte => '%' :: capitalHex 2 byte.toNat

/-- a tag before its value -/
def writtenTag (name : String) : List Char := '!' :: name.toList.flatMap tagChar

/-- the bytes of the texts and tags in a key, unless the key is a filled collection or has several lines -/
def keySize? : Yaml → Option Nat
  | .string text => if text.toList.any isLineEnd then none else some text.utf8ByteSize
  | .sequence items => if items.isEmpty then some 0 else none
  | .mapping entries => if entries.isEmpty then some 0 else none
  | .tagged name value => (keySize? value).map (name.utf8ByteSize + 1 + ·)
  | _ => some 0

/-- whether a key can stand before its colon without a mark: it is short and on one line -/
def isSimpleKey (key : Yaml) : Bool := (keySize? key).any (· ≤ 128)

/-- a line end, unless the text before has one, and the indentation of the next line -/
def nextLine (before : List Char) (indent : Nat) : List Char :=
  (if before.getLast?.any isBreak then [] else ['\n']) ++ List.replicate indent ' '

/-- where a value is written: the indentation of its collection, if it stands in one; whether that is a mapping; whether a
space comes first; and whether a collection can begin on the same line -/
structure Place where
  indent : Option Nat
  inMapping : Bool
  spaced : Bool
  sameLine : Bool

namespace Place

/-- the start of a text -/
def root : Place := ⟨none, false, false, true⟩

/-- after the dash of a list item -/
def item (indent : Nat) : Place := ⟨some indent, false, true, true⟩

/-- after the colon of a key -/
def value (indent : Nat) : Place := ⟨some indent, true, true, false⟩

/-- after the mark of a key or of its value on a line of its own -/
def marked (indent : Nat) : Place := ⟨some indent, true, true, true⟩

/-- after a tag -/
def afterTag (place : Place) : Place := { place with spaced := true, sameLine := false }

/-- the space that comes first -/
def lead (place : Place) : List Char := if place.spaced then [' '] else []

/-- the indentation of a text of several lines -/
def textIndent (place : Place) : Nat := ((place.indent.map (· + 2)).getD 2)

/-- the indentation of the entries of a mapping -/
def mappingIndent (place : Place) : Nat := ((place.indent.map (· + 2)).getD 0)

/-- the indentation of the items of a list -/
def listIndent (place : Place) : Nat :=
  if place.inMapping && !place.sameLine then place.indent.getD 0 else place.mappingIndent

/-- what comes before the first entry of a collection -/
def opening (place : Place) (indent : Nat) : List Char :=
  if place.sameLine then place.lead else '\n' :: List.replicate indent ' '

end Place

mutual

/-- the text of a value at a place -/
def node (place : Place) : Yaml → List Char
  | .sequence (item :: rest) =>
    let indent := place.listIndent
    let first := '-' :: node (.item indent) item
    place.opening indent ++ first ++ items indent first rest
  | .mapping (entry :: rest) =>
    let indent := place.mappingIndent
    let first := pair indent entry
    place.opening indent ++ first ++ pairs indent first rest
  | .tagged name value => place.lead ++ writtenTag name ++ node place.afterTag value
  | other => place.lead ++ leaf false place.textIndent other

/-- the items after the first -/
def items (indent : Nat) (before : List Char) : List Yaml → List Char
  | [] => []
  | item :: rest =>
    let written := '-' :: node (.item indent) item
    nextLine before indent ++ written ++ items indent written rest

/-- an entry of a mapping -/
def pair (indent : Nat) : Yaml × Yaml → List Char
  | (key, value) =>
    if isSimpleKey key then simpleKey indent key ++ ':' :: node (.value indent) value
    else
      let written := '?' :: node (.marked indent) key
      written ++ nextLine written indent ++ ':' :: node (.marked indent) value

/-- a key before its colon -/
def simpleKey (indent : Nat) : Yaml → List Char
  | .tagged name value => writtenTag name ++ ' ' :: simpleKey indent value
  | other => leaf true indent other

/-- the entries after the first -/
def pairs (indent : Nat) (before : List Char) : List (Yaml × Yaml) → List Char
  | [] => []
  | entry :: rest =>
    let written := pair indent entry
    nextLine before indent ++ written ++ pairs indent written rest

end

end Yaml

/-- the text of a value, with a line end -/
def Yaml.text (value : Yaml) : String :=
  let written := Yaml.node .root value
  String.ofList (if written.getLast?.any Yaml.isBreak then written else written ++ ['\n'])

end TableGraph
