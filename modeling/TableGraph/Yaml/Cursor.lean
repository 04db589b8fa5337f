/-
A place in a YAML text: what is still to be read, and at which line and column it begins.
-/
import TableGraph.Yaml.Character

namespace TableGraph.Yaml

/-- what is still to be read, and where it begins -/
structure Cursor where
  rest : List Char
  line : Nat
  column : Nat
  deriving Repr

namespace Cursor

/-- the start of a text -/
def start (s : List Char) : Cursor := ⟨s, 0, 0⟩

/-- the character at a distance -/
def peek (cur : Cursor) (distance : Nat) : Option Char := cur.rest[distance]?

/-- whether a character is at a distance -/
def isAt (cur : Cursor) (distance : Nat) (c : Char) : Bool := cur.peek distance == some c

/-- whether a word ends before a distance: there is a space, a line end or nothing -/
def endsAt (cur : Cursor) (distance : Nat) : Bool :=
  match cur.peek distance with
  | some c => isSpace c
  | none => true

/-- goes past some characters of the line -/
def skip (cur : Cursor) (count : Nat) : Cursor := ⟨cur.rest.drop count, cur.line, cur.column + count⟩

/-- the characters up to one that does not belong -/
def takeWhile (cur : Cursor) (belongs : Char → Bool) : List Char := cur.rest.takeWhile belongs

/-- goes past the characters up to one that does not belong -/
def skipWhile (cur : Cursor) (belongs : Char → Bool) : Cursor := cur.skip (cur.takeWhile belongs).length

/-- goes past a line end -/
def skipBreak (cur : Cursor) : Cursor := ⟨cur.rest.drop 1, cur.line + 1, 0⟩

/-- whether a line end comes next -/
def atBreak (cur : Cursor) : Bool := cur.rest.head?.any isBreak

/-- whether the line has nothing more -/
def atLineEnd (cur : Cursor) : Bool := cur.rest.head?.all isBreak

/-- goes past a comment, if one comes next -/
def skipComment (cur : Cursor) : Cursor := if cur.isAt 0 '#' then cur.skipWhile fun c => !isBreak c else cur

/-- whether a line begins here with three such characters that stand alone -/
def atMark (cur : Cursor) (c : Char) : Bool := cur.column == 0 && cur.rest.take 3 == [c, c, c] && cur.endsAt 3

/-- whether a document begins or ends here -/
def atDocumentMark (cur : Cursor) : Bool := cur.atMark '-' || cur.atMark '.'

/-- blanks and a comment up to the end of the line, and the line end -/
def skipLineRest? (cur : Cursor) : Option Cursor :=
  let cur := (cur.skipWhile isBlank).skipComment
  if !cur.atLineEnd then none else if cur.atBreak then some cur.skipBreak else some cur

end Cursor

/-- white space between words: the blanks before the first line end, the line ends, and the blanks after each of them -/
structure Gap where
  blanks : List Char
  breaks : List Char
  indents : List (List Char)
  deriving Repr

namespace Gap

/-- the white space that a text begins with, and the rest of the text -/
def read : List Char → Gap × List Char
  | [] => (⟨[], [], []⟩, [])
  | c :: rest =>
    if isBlank c then
      let (gap, after) := read rest
      ({ gap with blanks := c :: gap.blanks }, after)
    else if isBreak c then
      let (gap, after) := read rest
      (⟨[], c :: gap.breaks, gap.blanks :: gap.indents⟩, after)
    else (⟨[], [], []⟩, c :: rest)

/-- whether there is a line end -/
def isBroken (gap : Gap) : Bool := !gap.breaks.isEmpty

/-- what line ends stand for inside a text: a single line feed for a space, of several all but the first -/
def foldBreaks : List Char → List Char
  | ['\n'] => [' ']
  | '\n' :: more => more
  | breaks => breaks

/-- what white space stands for inside a text -/
def folded (gap : Gap) : List Char := if gap.isBroken then foldBreaks gap.breaks else gap.blanks

/-- whether a later line has a tab before a column -/
def hasTabBefore (gap : Gap) (column : Nat) : Bool := gap.indents.any fun blanks => (blanks.take column).contains '\t'

end Gap

/-- goes past white space -/
def Cursor.gap (cur : Cursor) : Gap × Cursor :=
  let (gap, rest) := Gap.read cur.rest
  match gap.indents.getLast? with
  | some blanks => (gap, ⟨rest, cur.line + gap.breaks.length, blanks.length⟩)
  | none => (gap, ⟨rest, cur.line, cur.column + gap.blanks.length⟩)

end TableGraph.Yaml
