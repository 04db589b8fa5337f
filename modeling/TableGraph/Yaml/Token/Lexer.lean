/-
Splitting a YAML text into tokens.

A key without a mark of its own is recognised only at the colon after it. Until then every place where a key may have
begun is remembered, one for each level of brackets; when the colon comes, the token of the key is put there. A key without
a mark lies on one line and has at most 1024 characters.

Outside brackets a token in a column to the right of the indentation may open a collection there; a token to the left
closes the collections that lie to the right of it.
-/
import TableGraph.Yaml.Token.Tag

namespace TableGraph.Yaml

/-- a place where a key may have begun: the number of tokens before it, line and column, and whether it must be a key -/
structure PossibleKey where
  number : Nat
  line : Nat
  column : Nat
  required : Bool
  deriving Repr

/-- whether a key that began there can no longer end here -/
def PossibleKey.isStale (key : PossibleKey) (cur : Cursor) : Bool :=
  key.line < cur.line || key.column + 1024 < cur.column

/-- what has been read of a text -/
structure Lexer where
  cursor : Cursor
  /-- the tokens found so far, the last one first -/
  tokens : List Token
  count : Nat
  /-- the columns of the open block collections, the innermost first -/
  indents : List Nat
  key : Option PossibleKey
  /-- the possible keys outside the innermost brackets, outside the next ones, and so on -/
  outerKeys : List (Option PossibleKey)
  /-- whether a key without a mark may begin here -/
  keyAllowed : Bool
  deriving Repr

namespace Lexer

/-- nothing has been read -/
def start (s : List Char) : Lexer where
  cursor := Cursor.start s
  tokens := []
  count := 0
  indents := []
  key := none
  outerKeys := []
  keyAllowed := true

/-- whether the place is inside brackets -/
def flow (lx : Lexer) : Bool := !lx.outerKeys.isEmpty

/-- adds a token -/
def emit (lx : Lexer) (token : Token) : Lexer := { lx with tokens := token :: lx.tokens, count := lx.count + 1 }

/-- puts a token before those from a number on -/
def insertAt (lx : Lexer) (number : Nat) (token : Token) : Lexer :=
  let later := lx.count - number
  { lx with tokens := lx.tokens.take later ++ token :: lx.tokens.drop later, count := lx.count + 1 }

/-- adds a token and goes past its characters -/
def emitSkip (lx : Lexer) (token : Token) (width : Nat) : Lexer :=
  { lx.emit token with cursor := lx.cursor.skip width }

/-! ## Possible keys -/

/-- forgets the possible key of the innermost level, unless it must be one -/
def dropKey? (lx : Lexer) : Option Lexer :=
  if lx.key.any (·.required) then none else some { lx with key := none }

/-- remembers this place as one where a key may begin -/
def saveKey? (lx : Lexer) : Option Lexer :=
  if lx.keyAllowed then
    let required := !lx.flow && lx.indents.head? == some lx.cursor.column
    lx.dropKey?.map fun lx =>
      { lx with key := some ⟨lx.count, lx.cursor.line, lx.cursor.column, required⟩ }
  else some lx

/-- a possible key that is not stale; a stale one must not be required -/
def fresh? (cur : Cursor) : Option PossibleKey → Option (Option PossibleKey)
  | none => some none
  | some key => if key.isStale cur then (if key.required then none else some none) else some (some key)

/-- forgets the possible keys that can no longer end here -/
def dropStaleKeys? (lx : Lexer) : Option Lexer := do
  let key ← fresh? lx.cursor lx.key
  let outerKeys ← lx.outerKeys.mapM (fresh? lx.cursor)
  return { lx with key := key, outerKeys := outerKeys }

/-! ## Indentation -/

/-- whether a column lies to the right of the indentation -/
def isDeeper (lx : Lexer) (column : Nat) : Bool := lx.indents.head?.all (· < column)

/-- opens a block collection at a column, if that is to the right; `token` is put before the tokens from `number` on -/
def openBlock (lx : Lexer) (column number : Nat) (token : Token) : Lexer :=
  if !lx.flow && lx.isDeeper column then { lx.insertAt number token with indents := column :: lx.indents } else lx

/-- closes the block collections to the right of a column, or all of them -/
def closeBlocks (lx : Lexer) (column : Option Nat) : Lexer :=
  if lx.flow then lx
  else
    let isOpen := fun indent => column.all (· < indent)
    let closed := (lx.indents.takeWhile isOpen).length
    { lx with
      tokens := List.replicate closed Token.blockEnd ++ lx.tokens
      count := lx.count + closed
      indents := lx.indents.drop closed }

/-! ## Tokens -/

/-- goes past spaces, comments and line ends. A tab counts as a space only where no key can begin; outside brackets a key
may begin on a new line. -/
def skipSpace : (steps : Nat) → Lexer → Lexer
  | 0, lx => lx
  | steps + 1, lx =>
    let cur := if lx.cursor.column == 0 && lx.cursor.isAt 0 byteOrderMark then lx.cursor.skip 1 else lx.cursor
    let tabs := lx.flow || !lx.keyAllowed
    let cur := (cur.skipWhile fun c => c == ' ' || (tabs && c == '\t')).skipComment
    if cur.atBreak then skipSpace steps { lx with cursor := cur.skipBreak, keyAllowed := lx.keyAllowed || !lx.flow }
    else { lx with cursor := cur }

/-- a directive -/
def directive (lx : Lexer) : Option Lexer := do
  let lx ← (lx.closeBlocks none).dropKey?
  let (token, cur) ← directive? lx.cursor
  return { lx.emit token with cursor := cur, keyAllowed := false }

/-- the mark that begins or ends a document -/
def documentMark (lx : Lexer) (token : Token) : Option Lexer := do
  let lx ← (lx.closeBlocks none).dropKey?
  return { lx.emitSkip token 3 with keyAllowed := false }

/-- an opening bracket -/
def openBracket (lx : Lexer) (token : Token) : Option Lexer := do
  let lx ← lx.saveKey?
  return { lx.emitSkip token 1 with key := none, outerKeys := lx.key :: lx.outerKeys, keyAllowed := true }

/-- a closing bracket -/
def closeBracket (lx : Lexer) (token : Token) : Option Lexer := do
  let lx ← lx.dropKey?
  match lx.outerKeys with
  | [] => return { lx.emitSkip token 1 with keyAllowed := false }
  | key :: outer => return { lx.emitSkip token 1 with key := key, outerKeys := outer, keyAllowed := false }

/-- a comma inside brackets -/
def flowEntry (lx : Lexer) : Option Lexer := do
  let lx ← lx.dropKey?
  return { lx.emitSkip .flowEntry 1 with keyAllowed := true }

/-- the mark of a list item -/
def blockEntry (lx : Lexer) : Option Lexer := do
  if !lx.flow && !lx.keyAllowed then none
  else
    let lx ← (lx.openBlock lx.cursor.column lx.count .blockSequenceStart).dropKey?
    return { lx.emitSkip .blockEntry 1 with keyAllowed := true }

/-- the mark of a key -/
def explicitKey (lx : Lexer) : Option Lexer := do
  if !lx.flow && !lx.keyAllowed then none
  else
    let lx ← (lx.openBlock lx.cursor.column lx.count .blockMappingStart).dropKey?
    return { lx.emitSkip .key 1 with keyAllowed := !lx.flow }

/-- the colon before a value: after a key without a mark, or after one with a mark -/
def valueMark (lx : Lexer) : Option Lexer :=
  match lx.key with
  | some key =>
    let lx := (lx.insertAt key.number .key).openBlock key.column key.number .blockMappingStart
    some { lx.emitSkip .value 1 with key := none, keyAllowed := false }
  | none =>
    if !lx.flow && !lx.keyAllowed then none
    else
      let lx := lx.openBlock lx.cursor.column lx.count .blockMappingStart
      some { lx.emitSkip .value 1 with keyAllowed := !lx.flow }

/-- an anchor, or an alias -/
def anchor (lx : Lexer) (token : String → Token) : Option Lexer := do
  let lx ← lx.saveKey?
  let (name, cur) ← anchorName? lx.cursor
  return { lx.emit (token name) with cursor := cur, keyAllowed := false }

/-- a tag -/
def tag (lx : Lexer) : Option Lexer := do
  let lx ← lx.saveKey?
  let (token, cur) ← tag? lx.flow lx.cursor
  return { lx.emit token with cursor := cur, keyAllowed := false }

/-- a block scalar -/
def blockScalar (lx : Lexer) (folding : Bool) : Option Lexer := do
  let lx ← lx.dropKey?
  let (text, cur) ← blockScalar? folding lx.indents.head? lx.cursor
  let style := if folding then ScalarStyle.folded else .literal
  return { lx.emit (.scalar style (String.ofList text)) with cursor := cur, keyAllowed := true }

/-- a quoted scalar -/
def quotedScalar (lx : Lexer) (single : Bool) : Option Lexer := do
  let lx ← lx.saveKey?
  let (text, cur) ← quotedScalar? single lx.cursor
  let style := if single then ScalarStyle.singleQuoted else .doubleQuoted
  return { lx.emit (.scalar style (String.ofList text)) with cursor := cur, keyAllowed := false }

/-- a plain scalar; its lines lie to the right of the indentation -/
def plainScalar (lx : Lexer) : Option Lexer := do
  let lx ← lx.saveKey?
  let indent := (lx.indents.head?.map (· + 1)).getD 0
  let (text, broken, cur) ← plainScalar? lx.flow indent lx.cursor
  return { lx.emit (.scalar .plain (String.ofList text)) with cursor := cur, keyAllowed := broken }

/-- the characters with which no plain scalar begins -/
def indicators : List Char := "-?:,[]\x7b\x7d#&*!|>'\"%@\x60".toList

/-- whether a plain scalar begins with this character: with a mark only if a word goes on after it -/
def startsPlain (lx : Lexer) (c : Char) : Bool :=
  !(isSpace c || indicators.contains c) ||
    (c == '-' && !(lx.cursor.peek 1).any isBlank) ||
    (!lx.flow && (c == '?' || c == ':') && !lx.cursor.endsAt 1)

/-- reads the token that begins with a character -/
def token (lx : Lexer) (c : Char) : Option Lexer :=
  let cur := lx.cursor
  if cur.column == 0 && c == '%' then lx.directive
  else if cur.atMark '-' then lx.documentMark .documentStart
  else if cur.atMark '.' then lx.documentMark .documentEnd
  else if c == '[' then lx.openBracket .flowSequenceStart
  else if c == '\x7b' then lx.openBracket .flowMappingStart
  else if c == ']' then lx.closeBracket .flowSequenceEnd
  else if c == '\x7d' then lx.closeBracket .flowMappingEnd
  else if c == ',' then lx.flowEntry
  else if c == '-' && cur.endsAt 1 then lx.blockEntry
  else if c == '?' && (lx.flow || cur.endsAt 1) then lx.explicitKey
  else if c == ':' && (lx.flow || cur.endsAt 1) then lx.valueMark
  else if c == '*' then lx.anchor .alias
  else if c == '&' then lx.anchor .anchor
  else if c == '!' then lx.tag
  else if c == '|' && !lx.flow then lx.blockScalar false
  else if c == '>' && !lx.flow then lx.blockScalar true
  else if c == '\'' then lx.quotedScalar true
  else if c == '"' then lx.quotedScalar false
  else if lx.startsPlain c then lx.plainScalar
  else none

/-- the end of the text: everything is closed -/
def finish (lx : Lexer) : Option (List Token) :=
  ((lx.closeBlocks none).dropKey?).map fun lx => lx.tokens.reverse

/-- reads tokens up to the end -/
def run : (steps : Nat) → Lexer → Option (List Token)
  | 0, _ => none
  | steps + 1, lx => do
    let lx := skipSpace (lx.cursor.rest.length + 1) lx
    let lx ← lx.dropStaleKeys?
    let lx := lx.closeBlocks (some lx.cursor.column)
    match lx.cursor.rest with
    | [] => lx.finish
    | c :: _ => run steps (← lx.token c)

end Lexer

/-- the tokens of a text, if it is a sequence of tokens of allowed characters -/
def tokens? (s : List Char) : Option (List Token) :=
  if s.all isAllowed then
    let s := unifyBreaks s
    let s := if s.head? == some byteOrderMark then s.drop 1 else s
    Lexer.run (s.length + 1) (Lexer.start s)
  else none

end TableGraph.Yaml
