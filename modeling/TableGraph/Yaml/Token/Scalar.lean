/-
Reading the text of a scalar: plain, between quotes, or as an indented block.

Line ends inside plain and quoted scalars are folded. Readers that go from line to line or from word to word take a bound
on the number of steps, the number of characters left.
-/
import TableGraph.Number.Digits
import TableGraph.Yaml.Cursor

namespace TableGraph.Yaml

/-! ## Plain scalars -/

/-- the characters that end a plain scalar inside brackets -/
def isFlowMark (c : Char) : Bool := c == ',' || c == '[' || c == ']' || c == '\x7b' || c == '\x7d'

/-- whether a colon ends a plain scalar, given what follows it -/
def endsWord : List Char → Bool
  | [] => true
  | c :: _ => isSpace c

/-- a word of a plain scalar; inside brackets a colon just before a mark is refused -/
def plainWord (flow : Bool) : List Char → Option (List Char)
  | [] => some []
  | c :: rest =>
    if isSpace c then some []
    else if flow && c == ':' && rest.head?.any (fun next => isFlowMark next || next == '?') then none
    else if (c == ':' && endsWord rest) || (flow && isFlowMark c) then some []
    else (plainWord flow rest).map (c :: ·)

/-- the rest of a plain scalar: its text, whether a line end comes just before the place reached, and that place. `gap` is
the white space just before, which belongs to the text only if a word follows; lines must reach the column `indent`. -/
def plainRest (flow : Bool) (indent : Nat) : (steps : Nat) → Gap → Cursor → Option (List Char × Bool × Cursor)
  | 0, _, _ => none
  | steps + 1, gap, cur =>
    if cur.atDocumentMark || cur.isAt 0 '#' then some ([], gap.isBroken, cur)
    else do
      let word ← plainWord flow cur.rest
      if word.isEmpty then return ([], gap.isBroken, cur)
      let text := gap.folded ++ word
      let cur := cur.skip word.length
      if !cur.rest.head?.any isSpace then return (text, false, cur)
      let (next, after) := cur.gap
      if next.hasTabBefore indent then none
      else if !flow && after.column < indent then return (text, next.isBroken, after)
      else
        let (more, broken, last) ← plainRest flow indent steps next after
        return (text ++ more, broken, last)

/-- a plain scalar -/
def plainScalar? (flow : Bool) (indent : Nat) (cur : Cursor) : Option (List Char × Bool × Cursor) :=
  plainRest flow indent (cur.rest.length + 1) ⟨[], [], []⟩ cur

/-! ## Quoted scalars -/

/-- the rest of a scalar in single quotes, in which a quote is doubled -/
def singleQuotedRest : (steps : Nat) → Cursor → Option (List Char × Cursor)
  | 0, _ => none
  | steps + 1, cur =>
    if cur.atDocumentMark then none
    else
      match cur.rest with
      | [] => none
      | '\'' :: '\'' :: _ => (singleQuotedRest steps (cur.skip 2)).map fun (more, last) => ('\'' :: more, last)
      | '\'' :: _ => some ([], cur.skip 1)
      | c :: _ =>
        if isSpace c then
          let (gap, after) := cur.gap
          (singleQuotedRest steps after).map fun (more, last) => (gap.folded ++ more, last)
        else (singleQuotedRest steps (cur.skip 1)).map fun (more, last) => (c :: more, last)

/-- the characters that an escape of one letter stands for -/
def namedEscapes : List (Char × Char) := [
  ('0', '\x00'), ('a', '\x07'), ('b', '\x08'), ('t', '\t'), ('\t', '\t'), ('n', '\n'), ('v', '\x0b'), ('f', '\x0c'),
  ('r', '\r'), ('e', '\x1b'), (' ', ' '), ('"', '"'), ('/', '/'), ('\\', '\\'), ('N', '\x85'), ('_', '\xa0'),
  ('L', '\u2028'), ('P', '\u2029')]

/-- how many hexadecimal digits follow the letter of an escape -/
def escapeWidth? (c : Char) : Option Nat :=
  if c == 'x' then some 2 else if c == 'u' then some 4 else if c == 'U' then some 8 else none

/-- the number that hexadecimal digits denote -/
def hexValue? (s : List Char) : Option Nat :=
  (s.mapM (Digits.digitIn? 16)).map fun digits => digits.foldl (fun found digit => 16 * found + digit) 0

/-- the character of a code, unless the code is a surrogate or too large -/
def charOfCode? (code : Nat) : Option Char := if code.isValidChar then some (Char.ofNat code) else none

/-- what follows the backslash of an escape: the character, and how many characters denote it -/
def escape? : List Char → Option (Char × Nat)
  | [] => none
  | c :: rest =>
    match escapeWidth? c with
    | some width =>
      if (rest.take width).length < width then none
      else ((hexValue? (rest.take width)).bind charOfCode?).map fun decoded => (decoded, width + 1)
    | none => (namedEscapes.lookup c).map fun decoded => (decoded, 1)

/-- the rest of a scalar in double quotes, in which a backslash begins an escape; before a line end it removes the line
end and the white space around -/
def doubleQuotedRest : (steps : Nat) → Cursor → Option (List Char × Cursor)
  | 0, _ => none
  | steps + 1, cur =>
    if cur.atDocumentMark then none
    else
      match cur.rest with
      | [] => none
      | '"' :: _ => some ([], cur.skip 1)
      | '\\' :: rest =>
        if rest.head?.any isBreak then
          let (gap, after) := (cur.skip 1).skipBreak.gap
          (doubleQuotedRest steps after).map fun (more, last) => (gap.breaks ++ more, last)
        else do
          let (decoded, width) ← escape? rest
          let (more, last) ← doubleQuotedRest steps (cur.skip (width + 1))
          return (decoded :: more, last)
      | c :: _ =>
        if isSpace c then
          let (gap, after) := cur.gap
          (doubleQuotedRest steps after).map fun (more, last) => (gap.folded ++ more, last)
        else (doubleQuotedRest steps (cur.skip 1)).map fun (more, last) => (c :: more, last)

/-- a scalar in quotes, from its opening quote on -/
def quotedScalar? (single : Bool) (cur : Cursor) : Option (List Char × Cursor) :=
  let steps := cur.rest.length + 1
  if single then singleQuotedRest steps (cur.skip 1) else doubleQuotedRest steps (cur.skip 1)

/-! ## Block scalars -/

/-- what becomes of the line ends at the end of a block -/
inductive Chomping where
  /-- the last line keeps its end -/
  | clip
  /-- no line end is kept -/
  | strip
  /-- every line end is kept -/
  | keep
  deriving DecidableEq, Repr

/-- reads the sign that says what becomes of the line ends at the end -/
def chomping? (cur : Cursor) : Option (Chomping × Cursor) :=
  if cur.isAt 0 '+' then some (.keep, cur.skip 1) else if cur.isAt 0 '-' then some (.strip, cur.skip 1) else none

/-- reads the digit that says how far a block is indented, from one on -/
def indentation? (cur : Cursor) : Option (Nat × Cursor) :=
  match cur.rest with
  | c :: _ => if c.isDigit then some (c.toNat - '0'.toNat, cur.skip 1) else none
  | [] => none

/-- the sign and the digit after the mark of a block, in either order; a zero is refused -/
def blockHeader? (cur : Cursor) : Option (Chomping × Option Nat × Cursor) :=
  let signed := chomping? cur
  let afterSign := (signed.map (·.2)).getD cur
  let digit := indentation? afterSign
  let afterDigit := (digit.map (·.2)).getD afterSign
  let late := if signed.isNone && digit.isSome then chomping? afterDigit else none
  let last := (late.map (·.2)).getD afterDigit
  if digit.any (·.1 == 0) then none
  else some ((((signed <|> late).map (·.1)).getD .clip), digit.map (·.1), last)

/-- the empty lines that come next: their ends, the largest number of spaces seen, and the place reached -/
structure EmptyLines where
  breaks : List Char
  widest : Nat
  cursor : Cursor

/-- goes past empty lines, with no more spaces on each than the indentation, if it is known; a tab in its place is
refused -/
def emptyLines (indent : Option Nat) (line column widest : Nat) : List Char → Option EmptyLines
  | [] => some ⟨[], max widest column, ⟨[], line, column⟩⟩
  | c :: rest =>
    let inside := indent.all (column < ·)
    if inside && c == ' ' then emptyLines indent line (column + 1) widest rest
    else if inside && c == '\t' then none
    else if isBreak c then
      (emptyLines indent (line + 1) 0 (max widest column) rest).map fun found =>
        { found with breaks := c :: found.breaks }
    else some ⟨[], max widest column, ⟨c :: rest, line, column⟩⟩

/-- goes past empty lines -/
def Cursor.emptyLines? (cur : Cursor) (indent : Option Nat) : Option EmptyLines :=
  emptyLines indent cur.line cur.column 0 cur.rest

/-- what the line ends between two lines of a block stand for; a folded block keeps them around lines that begin with a
blank -/
def joinLines (folding : Bool) (lineEnd emptyEnds : List Char) : List Char :=
  if folding && lineEnd == ['\n'] then (if emptyEnds.isEmpty then [' '] else emptyEnds) else lineEnd ++ emptyEnds

/-- what is kept of the line ends at the end of a block -/
def Chomping.kept (chomping : Chomping) (lineEnd emptyEnds : List Char) : List Char :=
  match chomping with
  | .clip => lineEnd
  | .strip => []
  | .keep => lineEnd ++ emptyEnds

/-- the lines of a block from a place on. `lineEnd` is the end of the line before and `emptyEnds` those of the empty lines
after it; `blankBefore` says whether the line before begins with a blank. -/
def blockLines (folding : Bool) (chomping : Chomping) (indent : Nat) :
    (steps : Nat) → (lineEnd emptyEnds : List Char) → (blankBefore : Bool) → Cursor → Option (List Char × Cursor)
  | 0, _, _, _, _ => none
  | steps + 1, lineEnd, emptyEnds, blankBefore, cur =>
    if cur.column != indent || cur.rest.isEmpty then some (chomping.kept lineEnd emptyEnds, cur)
    else do
      let blank := cur.rest.head?.any isBlank
      let joint := joinLines (folding && !blankBefore && !blank) lineEnd emptyEnds
      let text := cur.takeWhile fun c => !isBreak c
      let cur := cur.skip text.length
      let ending := cur.rest.take 1
      let next ← (if cur.atBreak then cur.skipBreak else cur).emptyLines? (some indent)
      let (more, last) ← blockLines folding chomping indent steps ending next.breaks blank next.cursor
      return (joint ++ text ++ more, last)

/-- a block, from its mark on; `parent` is the indentation of the collection it stands in -/
def blockScalar? (folding : Bool) (parent : Option Nat) (cur : Cursor) : Option (List Char × Cursor) := do
  let (chomping, digit, afterHeader) ← blockHeader? (cur.skip 1)
  let body ← afterHeader.skipLineRest?
  let given := digit.map fun n => (parent.getD 0) + n
  let first ← body.emptyLines? given
  let least := max ((parent.map (· + 1)).getD 0) 1
  let indent := given.getD (max first.widest least)
  blockLines folding chomping indent (body.rest.length + 1) [] first.breaks false first.cursor

end TableGraph.Yaml
