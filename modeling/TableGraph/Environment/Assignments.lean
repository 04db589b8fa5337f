/-
Assignments to variables in a text, one on each line: a name, an equals sign and a value.

A value may be quoted, may refer to variables after a dollar sign, and may be followed by a comment. Inside quotes, and
after a backslash, a value goes on over the end of a line. Reading stops at the first line that is not understood; the
assignments before it hold.
-/
import TableGraph.Environment.Basic
import TableGraph.Text.Alphanumeric
import TableGraph.Text.Blank

namespace TableGraph

/-- a part of a value: a character, or the value of a variable -/
inductive ValuePart where
  | char (c : Char)
  | variable (name : String)
  deriving DecidableEq, Repr

/-- an assignment to a variable -/
structure Assignment where
  name : String
  value : List ValuePart
  deriving DecidableEq, Repr

/-! ## Values -/

/-- how the next character of a value is read; `quoted` tells whether it stands between double quotes -/
inductive ValueMode where
  | text (quoted : Bool)
  | escape (quoted : Bool)
  /-- between single quotes -/
  | literal
  /-- the name of a variable without braces, as far as it is read -/
  | name (quoted : Bool) (found : List Char)
  /-- the name of a variable in braces, as far as it is read -/
  | braced (quoted : Bool) (found : List Char)
  /-- after the value -/
  | ended
  deriving DecidableEq, Repr

namespace ValuePart

/-- the variable whose name has been read; the name is given from its end -/
def ofName (found : List Char) : ValuePart := .variable (String.ofList found.reverse)

/-- what a character after a backslash stands for -/
def unescape? : Char → Option Char
  | '\\' => some '\\'
  | '\'' => some '\''
  | '"' => some '"'
  | '$' => some '$'
  | ' ' => some ' '
  | 'n' => some '\n'
  | _ => none

/-- reads a value to the end of its line; a quote or a brace that is not closed is no value -/
def read? : ValueMode → List Char → Option (List ValuePart)
  | .text false, [] => some []
  | .escape false, [] => some []
  | .name false found, [] => some [ofName found]
  | .ended, [] => some []
  | _, [] => none
  | .ended, c :: rest => if c = ' ' ∨ c = '\t' then read? .ended rest else if c = '#' then some [] else none
  | .escape quoted, c :: rest => do return .char (← unescape? c) :: (← read? (.text quoted) rest)
  | .literal, c :: rest =>
    if c = '\'' then read? (.text false) rest else (read? .literal rest).map (.char c :: ·)
  | .name quoted found, c :: rest =>
    if Text.isAlphanumeric c then read? (.name quoted (c :: found)) rest
    else if c = '\x7b' ∧ found = [] then read? (.braced quoted []) rest
    else if c = '$' then (read? (.name quoted []) rest).map (ofName found :: ·)
    else (read? (.text quoted) rest).map fun parts => ofName found :: .char c :: parts
  | .braced quoted found, c :: rest =>
    if c = '\x7d' then (read? (.text quoted) rest).map (ofName found :: ·) else read? (.braced quoted (c :: found)) rest
  | .text quoted, c :: rest =>
    if c = '$' then read? (.name quoted []) rest
    else if c = '\\' then read? (.escape quoted) rest
    else if c = '"' then read? (.text !quoted) rest
    else if quoted then (read? (.text true) rest).map (.char c :: ·)
    else if c = '\'' then read? .literal rest
    else if c = ' ' ∨ c = '\t' then read? .ended rest
    else (read? (.text false) rest).map (.char c :: ·)

/-- the text of a part in an environment; a variable that is not set is empty -/
def expand (environment : Environment) : ValuePart → List Char
  | .char c => [c]
  | .variable name => ((environment name).getD "").toList

end ValuePart

/-! ## Lines -/

namespace Assignment

/-- whether a name may start with a character -/
def startsName (c : Char) : Bool := c.isAlpha || c == '_'

/-- whether a name may go on with a character -/
def continuesName (c : Char) : Bool := c.isAlphanum || c == '_' || c == '.'

/-- the name at the start of a line, and what follows it and white space -/
def name? : List Char → Option (String × List Char)
  | [] => none
  | c :: rest =>
    if startsName c then
      some (String.ofList (c :: rest.takeWhile continuesName), Text.trimStart (rest.dropWhile continuesName))
    else none

/-- the value after the equals sign that a line starts with -/
def valueAfterEquals? : List Char → Option (List ValuePart)
  | '=' :: rest =>
    match Text.trimStart rest with
    | [] => some []
    | '#' :: _ => some []
    | value => ValuePart.read? (.text false) value
  | _ => none

/-- the word that may stand before the name of a variable -/
def exportWord : String := "export"

/-- the assignment on a line that holds one -/
def ofStatement? (line : List Char) : Option Assignment := do
  let (name, rest) ← name? line
  if name = exportWord ∧ rest.head? ≠ some '=' then
    let (name, rest) ← name? rest
    return ⟨name, ← valueAfterEquals? rest⟩
  else return ⟨name, ← valueAfterEquals? rest⟩

/-- the assignments on a line: none if it is blank or a comment; a line that is not understood has no answer -/
def ofLine? (line : List Char) : Option (List Assignment) :=
  match Text.trim line with
  | [] => some []
  | '#' :: _ => some []
  | statement => (ofStatement? statement).map ([·])

/-- the text that an assignment gives its variable -/
def text (assignment : Assignment) (environment : Environment) : String :=
  String.ofList (assignment.value.flatMap (·.expand environment))

end Assignment

/-! ## Lines that go on -/

/-- where a scan for the end of a statement stands -/
inductive LineMode where
  | plain
  /-- after a white space -/
  | blank
  | escape
  /-- between quotes of a kind -/
  | quoted (quote : Char)
  | quotedEscape (quote : Char)
  deriving DecidableEq, Repr

namespace LineMode

/-- the mode after a character outside quotes that is no white space -/
def afterPlain (c : Char) : LineMode :=
  if c = '\\' then .escape else if c = '"' ∨ c = '\'' then .quoted c else .plain

/-- the mode after one more character; a number sign after a white space starts a comment, which has no mode -/
def next? : LineMode → Char → Option LineMode
  | .plain, c => some (if Text.isBlank c ∧ c ≠ '\n' ∧ c ≠ '\r' then .blank else afterPlain c)
  | .blank, c => if c = '#' then none else some (afterPlain c)
  | .escape, _ => some .plain
  | .quoted quote, c =>
    some (if c = '\\' then .quotedEscape quote else if c = quote then .plain else .quoted quote)
  | .quotedEscape quote, _ => some (.quoted quote)

/-- the mode after a text, or the part of it before a comment -/
def run (mode : LineMode) : List Char → Except (List Char) LineMode
  | [] => .ok mode
  | c :: rest =>
    match mode.next? c with
    | none => .error []
    | some next => (next.run rest).mapError (c :: ·)

end LineMode

/-- the lines of a text, with their ends -/
def linesOf : List Char → List (List Char)
  | [] => []
  | c :: rest =>
    if c = '\n' then [c] :: linesOf rest
    else
      match linesOf rest with
      | [] => [[c]]
      | line :: lines => (c :: line) :: lines

/-- as much of a text as fits into a number of bytes -/
def takeBytes : Nat → List Char → List Char
  | _, [] => []
  | bytes, c :: rest => if c.utf8Size ≤ bytes then c :: takeBytes (bytes - c.utf8Size) rest else []

/-- the number of bytes of a text -/
def byteCount (s : List Char) : Nat := s.foldr (fun c bytes => c.utf8Size + bytes) 0

/-- the statements of a text, each of one or more lines; `opened` are the lines read that do not yet end one.
The last statement has no answer if the text ends within it.

A comment cuts a statement to as many bytes as stand before it on its own line. -/
def statements (opened : List Char) (mode : LineMode) : List (List Char) → List (Option (List Char))
  | [] => if mode = .plain then [] else [none]
  | line :: lines =>
    let statement := opened ++ line
    if (Text.trimStart statement).head? = some '#' then some [] :: statements [] .plain lines
    else
      match mode.run line with
      | .error before => some (takeBytes (byteCount before) statement) :: statements [] .plain lines
      | .ok .plain => some statement :: statements [] .plain lines
      | .ok mode => statements statement mode lines

namespace Assignment

/-- the assignments of statements, up to the first one that is not understood -/
def ofStatements : List (Option (List Char)) → List Assignment
  | [] => []
  | statement :: rest =>
    match statement.bind ofLine? with
    | some assignments => assignments ++ ofStatements rest
    | none => []

/-- a text without the mark that may start it -/
def withoutMark : List Char → List Char
  | '\ufeff' :: rest => rest
  | s => s

/-- the assignments of a text -/
def ofText (text : String) : List Assignment :=
  ofStatements (statements [] .plain (linesOf (withoutMark text.toList)))

/-- the names of the variables that an assignment depends on, its own among them -/
def names (assignment : Assignment) : List String :=
  assignment.name :: assignment.value.filterMap fun
    | .variable name => some name
    | .char _ => none

end Assignment

namespace Environment

/-- the environment after an assignment; a variable that is set keeps its value -/
def assign (environment : Environment) (assignment : Assignment) : Environment :=
  environment.setIfMissing assignment.name (assignment.text environment)

/-- the environment after assignments, each of which sees the ones before it -/
def assignAll (environment : Environment) (assignments : List Assignment) : Environment :=
  assignments.foldl assign environment

end Environment

end TableGraph
