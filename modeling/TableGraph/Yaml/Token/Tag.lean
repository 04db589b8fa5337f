/-
Reading tags, directives and the names of anchors.

A tag is written with a handle and a suffix, or in full between angle brackets. A percent sign in it begins the code of a
byte in two hexadecimal digits; the bytes are those of characters in UTF-8.
-/
import TableGraph.Yaml.Token
import TableGraph.Yaml.Token.Scalar

namespace TableGraph.Yaml

/-- a character of a tag; inside angle brackets there are some more -/
def isTagChar (bracketed : Bool) (c : Char) : Bool :=
  isNameChar c || ";/?:@&=+$.%!~*'()".toList.contains c || (bracketed && (c == ',' || c == '[' || c == ']'))

/-- the bytes that percent signs stand for, as far as they follow each other, and the rest -/
def percentBytes : List Char → Option (List Nat × List Char)
  | '%' :: a :: b :: rest => do
    let code ← hexValue? [a, b]
    let (more, after) ← percentBytes rest
    return (code :: more, after)
  | '%' :: _ => none
  | s => some ([], s)

/-- how many bytes a character has in UTF-8, by its first byte, and the bits of its code in that byte -/
def leadingByte? (byte : Nat) : Option (Nat × Nat) :=
  if byte < 0x80 then some (1, byte)
  else if byte / 0x20 == 0x6 then some (2, byte % 0x20)
  else if byte / 0x10 == 0xE then some (3, byte % 0x10)
  else if byte / 0x8 == 0x1E then some (4, byte % 0x8)
  else none

/-- the characters of bytes in UTF-8 -/
def decodeBytes : (steps : Nat) → List Nat → Option (List Char)
  | 0, _ => none
  | _, [] => some []
  | steps + 1, byte :: rest => do
    let (width, bits) ← leadingByte? byte
    let more := rest.take (width - 1)
    if more.length < width - 1 || more.any (fun next => next / 0x40 != 2) then none
    else
      let code := more.foldl (fun found next => 0x40 * found + next % 0x40) bits
      let decoded ← charOfCode? code
      return decoded :: (← decodeBytes steps (rest.drop (width - 1)))

/-- the text of a tag with its bytes decoded -/
def decodePercents : (steps : Nat) → List Char → Option (List Char)
  | 0, _ => none
  | _, [] => some []
  | steps + 1, c :: rest =>
    if c == '%' then do
      let (bytes, after) ← percentBytes (c :: rest)
      let decoded ← decodeBytes (bytes.length + 1) bytes
      return decoded ++ (← decodePercents steps after)
    else (decodePercents steps rest).map (c :: ·)

/-- the characters of a tag that come next -/
def tagText? (bracketed : Bool) (cur : Cursor) : Option (List Char × Cursor) :=
  let raw := cur.takeWhile (isTagChar bracketed)
  (decodePercents (raw.length + 1) raw).map fun text => (text, cur.skip raw.length)

/-- an exclamation mark, a name and, if there is one, a second exclamation mark -/
def handle? (cur : Cursor) : Option (List Char × Cursor) :=
  if cur.isAt 0 '!' then
    let name := (cur.skip 1).takeWhile isNameChar
    let cur := cur.skip (name.length + 1)
    if cur.isAt 0 '!' then some ('!' :: (name ++ ['!']), cur.skip 1) else some ('!' :: name, cur)
  else none

/-- whether a text is a complete handle -/
def isHandle (s : List Char) : Bool := 1 < s.length && s.getLast? == some '!'

/-- the handle and the suffix of a tag; the tag that is only an exclamation mark has no handle -/
def tagParts? (cur : Cursor) : Option (List Char × List Char × Cursor) :=
  if cur.isAt 1 '<' then do
    let (text, cur) ← tagText? true (cur.skip 2)
    if text.isEmpty || !cur.isAt 0 '>' then none else return ([], text, cur.skip 1)
  else do
    let (head, afterHead) ← handle? cur
    let (text, cur) ← tagText? false afterHead
    if isHandle head then if text.isEmpty then none else return (head, text, cur)
    else
      let suffix := head.drop 1 ++ text
      if suffix.isEmpty then return ([], ['!'], cur) else return (['!'], suffix, cur)

/-- a tag; a space, a line end or, inside brackets, a comma follows -/
def tag? (flow : Bool) (cur : Cursor) : Option (Token × Cursor) := do
  let (head, suffix, cur) ← tagParts? cur
  if cur.endsAt 0 || (flow && cur.isAt 0 ',') then
    return (.tag (String.ofList head) (String.ofList suffix), cur)
  else none

/-- the name of an anchor or alias, after its mark -/
def anchorName? (cur : Cursor) : Option (String × Cursor) :=
  let name := (cur.skip 1).takeWhile isNameChar
  let cur := cur.skip (name.length + 1)
  let isEnd := cur.endsAt 0 || cur.rest.head?.any fun c => "?:,]\x7d%@\x60".toList.contains c
  if name.isEmpty || !isEnd then none else some (String.ofList name, cur)

/-- a part of a version number: at most nine digits -/
def versionPart? (cur : Cursor) : Option (Nat × Cursor) :=
  let digits := cur.takeWhile Char.isDigit
  if digits.isEmpty || 9 < digits.length then none else some (Digits.value digits, cur.skip digits.length)

/-- the directive that says the version of YAML, after its name -/
def versionDirective? (cur : Cursor) : Option (Token × Cursor) := do
  let (major, cur) ← versionPart? (cur.skipWhile isBlank)
  if !cur.isAt 0 '.' then none
  else
    let (minor, cur) ← versionPart? (cur.skip 1)
    return (.version major minor, cur)

/-- the directive that gives a handle a meaning, after its name -/
def handleDirective? (cur : Cursor) : Option (Token × Cursor) := do
  let (head, cur) ← handle? (cur.skipWhile isBlank)
  if !(isHandle head || head == ['!']) || !cur.rest.head?.any isBlank then none
  else
    let (meaning, cur) ← tagText? true (cur.skipWhile isBlank)
    if meaning.isEmpty || !cur.endsAt 0 then none
    else return (.tagHandle (String.ofList head) (String.ofList meaning), cur)

/-- a directive, up to the end of its line -/
def directive? (cur : Cursor) : Option (Token × Cursor) := do
  let name := (cur.skip 1).takeWhile isNameChar
  let cur := cur.skip (name.length + 1)
  if !cur.endsAt 0 then none
  else
    let (token, cur) ← match String.ofList name with
      | "YAML" => versionDirective? cur
      | "TAG" => handleDirective? cur
      | _ => none
    return (token, ← cur.skipLineRest?)

end TableGraph.Yaml
