/-
Characters of YAML texts: which may occur, which end a line and which separate words. A text is brought to one kind of
line end first; two line ends of Unicode stay as they are.
-/
import TableGraph.Text.CodeRange

namespace TableGraph.Yaml

/-- a character that ends a line, once line ends are unified -/
def isBreak (c : Char) : Bool := c == '\n' || c == '\u2028' || c == '\u2029'

/-- a space or a tab -/
def isBlank (c : Char) : Bool := c == ' ' || c == '\t'

/-- a character that ends a word -/
def isSpace (c : Char) : Bool := isBlank c || isBreak c

/-- a character of the names of anchors, handles and directives -/
def isNameChar (c : Char) : Bool := c.isAlphanum || c == '_' || c == '-'

/-- the characters that may occur: no control characters but tab and line ends -/
def allowedRanges : List Text.CodeRange := [
  (0x9, 0xA), (0xD, 0xD), (0x20, 0x7E), (0x85, 0x85), (0xA0, 0xD7FF), (0xE000, 0xFFFD), (0x10000, 0x10FFFF)]

/-- whether a character may occur -/
def isAllowed (c : Char) : Bool := Text.CodeRange.covers allowedRanges c.toNat

/-- a mark at the start of a text, or of a line, that says nothing -/
def byteOrderMark : Char := '\ufeff'

/-- makes carriage returns, alone or before a line feed, and next-line characters line feeds -/
def unifyBreaks : List Char → List Char
  | [] => []
  | '\r' :: '\n' :: rest => '\n' :: unifyBreaks rest
  | c :: rest => (if c == '\r' || c == '\x85' then '\n' else c) :: unifyBreaks rest

end TableGraph.Yaml
