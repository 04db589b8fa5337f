/-
How a text is written as a scalar: plain if it is read back as the same text, else in quotes, or as a literal block if it
has several lines.
-/
import TableGraph.Yaml.Token
import TableGraph.Yaml.Character
import TableGraph.Yaml.Word

namespace TableGraph.Yaml

/-- the characters that are written as they are: line feed, ASCII and the first plane, but no control characters -/
def printableRanges : List Text.CodeRange := [
  (0xA, 0xA), (0x20, 0x7E), (0xA0, 0xD7FF), (0xE000, 0xFEFE), (0xFF00, 0xFFFD)]

/-- whether a character is written as it is -/
def isPrintable (c : Char) : Bool := Text.CodeRange.covers printableRanges c.toNat

/-- words that some readers take for truth values -/
def truthWords : List String := [
  "y", "Y", "yes", "Yes", "YES", "n", "N", "no", "No", "NO", "true", "True", "TRUE", "false", "False", "FALSE",
  "on", "On", "ON", "off", "Off", "OFF"]

/-- the style asked for: quotes for a word that would be read as another value, a block for several lines -/
def preferredStyle (text : String) : ScalarStyle :=
  if truthWords.contains text then .singleQuoted
  else if text.toList.contains '\n' then .literal
  else
    match ofWord? text with
    | some (.string _) => if hasNeedlessZero text.toList then .singleQuoted else .plain
    | _ => .singleQuoted

/-- whether some character, together with the next one, satisfies a condition -/
def anyPair (holds : Char → Char → Bool) : List Char → Bool
  | a :: b :: rest => holds a b || anyPair holds (b :: rest)
  | _ => false

/-- whether a line begins with a space, except the first one -/
def hasBreakSpace (s : List Char) : Bool := anyPair (fun a b => isBreak a && b == ' ') s

/-- whether a line ends with a space, except the last one -/
def hasSpaceBreak (s : List Char) : Bool := anyPair (fun a b => a == ' ' && isBreak b) s

/-- characters with which no plain scalar begins -/
def openingMarks : List Char := "#,[]\x7b\x7d&*!|>'\"%@\x60".toList

/-- a character that ends a line, whether or not line ends are unified -/
def isLineEnd (c : Char) : Bool := isBreak c || c == '\r' || c == '\x85'

/-- whether what follows a mark makes it one: a blank, a line end or nothing -/
def isFollowedBySpace : List Char → Bool
  | [] => true
  | c :: _ => isBlank c || isLineEnd c

/-- whether the first character would be taken for a mark -/
def opensMark : List Char → Bool
  | [] => false
  | c :: rest => openingMarks.contains c || ((c == '?' || c == ':' || c == '-') && isFollowedBySpace rest)

/-- whether a colon before a space, or a number sign after one, would be taken for a mark -/
def hasInnerMark : List Char → Bool
  | a :: b :: rest =>
    (b == ':' && isFollowedBySpace rest) || (b == '#' && isFollowedBySpace [a]) || hasInnerMark (b :: rest)
  | _ => false

/-- whether a text begins like the mark of a document -/
def beginsLikeDocument (s : List Char) : Bool := s.take 3 == "---".toList || s.take 3 == "...".toList

/-- whether a text may stand without quotes -/
def allowsPlain (s : List Char) : Bool :=
  let outer := fun c => c == ' ' || isBreak c
  !(s.head?.any outer || s.getLast?.any outer || s.any isBreak || s.any (fun c => !isPrintable c) ||
    beginsLikeDocument s || opensMark s || hasInnerMark s)

/-- whether a text may stand between single quotes -/
def allowsSingleQuotes (s : List Char) : Bool :=
  !(hasBreakSpace s || hasSpaceBreak s || s.any fun c => !isPrintable c)

/-- whether a text may stand in a block -/
def allowsBlock (s : List Char) : Bool :=
  !(s.getLast? == some ' ' || hasSpaceBreak s || s.any fun c => !isPrintable c)

/-- the style of a text; a key has one line -/
def styleOf (isKey : Bool) (text : String) : ScalarStyle :=
  let s := text.toList
  let wanted := if isKey && s.any isLineEnd then ScalarStyle.doubleQuoted else preferredStyle text
  let wanted := if wanted == .plain && (!allowsPlain s || s.isEmpty) then ScalarStyle.singleQuoted else wanted
  if wanted == .singleQuoted && !allowsSingleQuotes s then .doubleQuoted
  else if wanted == .literal && (!allowsBlock s || isKey) then .doubleQuoted
  else wanted

end TableGraph.Yaml
