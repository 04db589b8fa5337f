/-
Texts as they appear inside messages: between double quotes, with escapes for the quote, the backslash, line ends and
every character that would not be visible by itself.
-/
import TableGraph.Number.Digits
import TableGraph.Text.Unprintable
import TableGraph.Text.Combining

namespace TableGraph.Text

/-- a character as a code in braces -/
def codeEscape (c : Char) : List Char := '\\' :: 'u' :: '\x7b' :: (Digits.hexPadded 1 c.toNat ++ ['\x7d'])

/-- a character inside quotes -/
def quotedChar (c : Char) : List Char :=
  if c = '"' then ['\\', '"']
  else if c = '\\' then ['\\', '\\']
  else if c = '\n' then ['\\', 'n']
  else if c = '\r' then ['\\', 'r']
  else if c = '\t' then ['\\', 't']
  else if c.toNat = 0 then ['\\', '0']
  else if isCombining c || isUnprintable c then codeEscape c
  else [c]

/-- a text between quotes -/
def quoted (s : List Char) : List Char := '"' :: (s.flatMap quotedChar ++ ['"'])

end TableGraph.Text
