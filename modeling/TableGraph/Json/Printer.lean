/-
The text of a JSON document: compact, or spread over lines with two spaces per level. Inside a string only the quote,
the backslash and the control characters are escaped.

A third form, `inspected`, names the kind of every part; it appears inside messages.
-/
import TableGraph.Json.Basic
import TableGraph.Text.Quoted

namespace TableGraph.Json

/-- a character inside a JSON string -/
def escapedChar (c : Char) : List Char :=
  if c = '"' then ['\\', '"']
  else if c = '\\' then ['\\', '\\']
  else if c = '\x08' then ['\\', 'b']
  else if c = '\x0c' then ['\\', 'f']
  else if c = '\n' then ['\\', 'n']
  else if c = '\r' then ['\\', 'r']
  else if c = '\t' then ['\\', 't']
  else if c.toNat < 32 then '\\' :: 'u' :: Digits.hexPadded 4 c.toNat
  else [c]

/-- a JSON string literal -/
def stringLiteral (s : String) : List Char := '"' :: (s.toList.flatMap escapedChar ++ ['"'])

mutual

/-- the text on one line, without spaces -/
def compact : Json → List Char
  | .null => ['n', 'u', 'l', 'l']
  | .bool true => ['t', 'r', 'u', 'e']
  | .bool false => ['f', 'a', 'l', 's', 'e']
  | .number literal => literal.toList
  | .string text => stringLiteral text
  | .array items => '[' :: (compactItems items ++ [']'])
  | .object fields => '\x7b' :: (compactFields fields ++ ['\x7d'])

def compactItems : List Json → List Char
  | [] => []
  | [item] => compact item
  | item :: rest => compact item ++ ',' :: compactItems rest

def compactFields : List (String × Json) → List Char
  | [] => []
  | [(name, value)] => stringLiteral name ++ ':' :: compact value
  | (name, value) :: rest => stringLiteral name ++ ':' :: (compact value ++ ',' :: compactFields rest)

end

/-- a line end and the indentation of a level -/
def newLine (level : Nat) : List Char := '\n' :: List.replicate (2 * level) ' '

mutual

/-- the text over several lines; `level` is the depth of nesting -/
def pretty (level : Nat) : Json → List Char
  | .array [] => ['[', ']']
  | .object [] => ['\x7b', '\x7d']
  | .array (item :: rest) =>
    '[' :: (newLine (level + 1) ++ pretty (level + 1) item ++ prettyItems (level + 1) rest ++ newLine level ++ [']'])
  | .object ((name, value) :: rest) =>
    '\x7b' :: (newLine (level + 1) ++ stringLiteral name ++ ':' :: ' ' :: (pretty (level + 1) value ++
      prettyFields (level + 1) rest ++ newLine level ++ ['\x7d']))
  | leaf => compact leaf

/-- the items after the first -/
def prettyItems (level : Nat) : List Json → List Char
  | [] => []
  | item :: rest => ',' :: (newLine level ++ pretty level item ++ prettyItems level rest)

/-- the fields after the first -/
def prettyFields (level : Nat) : List (String × Json) → List Char
  | [] => []
  | (name, value) :: rest =>
    ',' :: (newLine level ++ stringLiteral name ++ ':' :: ' ' :: (pretty level value ++ prettyFields level rest))

end

mutual

/-- the text that names the kind of every part -/
def inspected : Json → List Char
  | .null => "Null".toList
  | .bool value => "Bool(".toList ++ (if value then "true" else "false").toList ++ [')']
  | .number literal => "Number(".toList ++ literal.toList ++ [')']
  | .string text => "String(".toList ++ Text.quoted text.toList ++ [')']
  | .array items => "Array [".toList ++ inspectedItems items ++ [']']
  | .object fields => "Object ".toList ++ '\x7b' :: (inspectedFields fields ++ ['\x7d'])

def inspectedItems : List Json → List Char
  | [] => []
  | [item] => inspected item
  | item :: rest => inspected item ++ ',' :: ' ' :: inspectedItems rest

def inspectedFields : List (String × Json) → List Char
  | [] => []
  | [(name, value)] => Text.quoted name.toList ++ ':' :: ' ' :: inspected value
  | (name, value) :: rest =>
    Text.quoted name.toList ++ ':' :: ' ' :: (inspected value ++ ',' :: ' ' :: inspectedFields rest)

end

end TableGraph.Json
