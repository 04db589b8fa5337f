/-
Reading values out of a document, by what is expected of them.

Collections may be nested to a certain depth only, and aliases may be followed only so many times for the size of the
document; so a document that contains itself is refused, and one that multiplies itself.
-/
import TableGraph.Yaml.Node
import TableGraph.Yaml.Token.Lexer
import TableGraph.Yaml.Word

namespace TableGraph.Yaml

/-- reads a value in a document; the state says how many aliases may still be followed -/
abbrev Reading := ReaderT Document (StateT Nat Option)

/-- reads a value from a node inside which collections may be nested to a depth -/
abbrev Decoder (α : Type) := (depth : Nat) → Node → Reading α

namespace Reading

/-- the node itself, or the node that an alias stands for -/
def resolve : Node → Reading Node
  | .alias number => do
    match ← get with
    | 0 => failure
    | left + 1 =>
      set left
      match (← read).target? number with
      | some node => return node
      | none => failure
  | node => return node

end Reading

open Reading

/-- whether a node is an empty plain scalar, which stands for an empty collection too -/
def Node.isEmptyPlain : Node → Bool
  | .scalar style _ text => style == .plain && text.isEmpty
  | _ => false

/-- the full tags of the common types -/
def nullTag : String := "tag:yaml.org,2002:null"
def boolTag : String := "tag:yaml.org,2002:bool"
def intTag : String := "tag:yaml.org,2002:int"
def floatTag : String := "tag:yaml.org,2002:float"

/-- the name of a tag that a document defines itself -/
def ownTag? (tag : Option String) : Option String :=
  match tag.map (·.toList) with
  | some ['!'] => some "!"
  | some ('!' :: name) => some (String.ofList name)
  | _ => none

/-! ## Expected values -/

namespace Decoder

/-- a list -/
def list {α : Type} (item : Decoder α) : Decoder (List α) := fun depth node => do
  match ← resolve node, depth with
  | .sequence _ items, depth + 1 => items.mapM (item depth)
  | node, _ => if node.isEmptyPlain then return [] else failure

/-- the text of any scalar -/
def text : Decoder String := fun _ node => do
  match ← resolve node with
  | .scalar _ _ text => return text
  | _ => failure

/-- whether a scalar may be more than text: it is plain, or a literal block of the tag -/
def isTyped (tag : String) (style : ScalarStyle) (given : Option String) : Bool :=
  style == .plain || (style == .literal && given == some tag)

/-- a truth value -/
def bool : Decoder Bool := fun _ node => do
  match ← resolve node with
  | .scalar style tag text =>
    match if isTyped boolTag style tag then boolOfWord? text else none with
    | some b => return b
    | none => failure
  | _ => failure

/-- a whole number up to a limit -/
def natural (limit : Nat) : Decoder Nat := fun _ node => do
  match ← resolve node with
  | .scalar style tag text =>
    match if isTyped intTag style tag then integer? text.toList else none with
    | some n => if 0 ≤ n && n ≤ limit && text.toList.head? != some '-' then return n.toNat else failure
    | none => failure
  | _ => failure

/-- whether a scalar stands for nothing; one tagged as nothing must do so -/
def isNothing (style : ScalarStyle) (tag : Option String) (text : String) : Reading Bool :=
  if style != .plain then return false
  else
    match tag with
    | none => return text.isEmpty || nullWords.contains text
    | some tag => if tag != nullTag then return false else if nullWords.contains text then return true else failure

/-- a value that may be missing -/
def optional {α : Type} (value : Decoder α) : Decoder (Option α) := fun depth node => do
  let node ← resolve node
  match node with
  | .scalar style tag text => if ← isNothing style tag text then return none else return some (← value depth node)
  | _ => return some (← value depth node)

/-- the name of one of several cases: a scalar, or a tag on nothing -/
def caseName : Decoder String := fun _ node => do
  match ← resolve node with
  | .scalar style tag text =>
    match ownTag? tag with
    | some name => if style == .plain && (text.isEmpty || nullWords.contains text) then return name else failure
    | none => return text
  | _ => failure

end Decoder

/-! ## Fields -/

/-- the named values of a record; the depth is that of the values -/
structure Fields where
  depth : Nat
  entries : List (String × Node)

namespace Fields

/-- the fields of a mapping; a name that is expected may occur only once, the others do not count -/
def decoder (expected : List String) : Decoder Fields := fun depth node => do
  match ← resolve node, depth with
  | .mapping _ entries, depth + 1 =>
    let named ← entries.mapM fun (key, value) => do return (← Decoder.text depth key, value)
    let known := named.filter fun entry => expected.contains entry.1
    if (known.map (·.1)).Nodup then return ⟨depth, known⟩ else failure
  | node, depth => if node.isEmptyPlain then return ⟨depth, []⟩ else failure

/-- the value of a field, or another one if the field is missing -/
def getD {α : Type} (fields : Fields) (name : String) (value : Decoder α) (default : α) : Reading α :=
  match fields.entries.lookup name with
  | some node => value fields.depth node
  | none => return default

/-- the value of a field that must not be missing -/
def get {α : Type} (fields : Fields) (name : String) (value : Decoder α) : Reading α :=
  match fields.entries.lookup name with
  | some node => value fields.depth node
  | none => failure

end Fields

/-! ## Any value -/

/-- the value of a scalar whose tag does not count -/
def ofScalar? (style : ScalarStyle) (text : String) : Option Yaml :=
  if style == .plain then ofWord? text else some (.string text)

/-- the value of a scalar with a tag that is not one of the document's own -/
def ofTagged? (tag text : String) : Option Yaml :=
  if tag == boolTag then (boolOfWord? text).map .bool
  else if tag == intTag then ((integer? text.toList).filter (fitsWord 64)).map .integer
  else if tag == floatTag then (float? text.toList).map .float
  else if tag == nullTag then if nullWords.contains text then some .null else none
  else some (.string text)

/-- a value within the tag that the document gives it, if it does -/
def withOwnTag (tag : Option String) (value : Yaml) : Yaml :=
  match ownTag? tag with
  | some name => .tagged name value
  | none => value

/-- the value of a scalar -/
def scalarValue (style : ScalarStyle) (tag : Option String) (text : String) : Reading Yaml :=
  match if (ownTag? tag).isSome then (ofScalar? style text).map (withOwnTag tag)
    else match tag with
      | some tag => ofTagged? tag text
      | none => ofScalar? style text with
  | some value => return value
  | none => failure

/-- the entries of a mapping; no key may occur twice -/
def distinctEntries : List (Yaml × Yaml) → List (Yaml × Yaml) → Reading (List (Yaml × Yaml))
  | done, [] => return done.reverse
  | done, (key, value) :: rest => if hasKey done key then failure else distinctEntries ((key, value) :: done) rest

/-- any value -/
def Decoder.any : Decoder Yaml
  | 0, node => do
    match ← resolve node with
    | .scalar style tag text => scalarValue style tag text
    | _ => failure
  | depth + 1, node => do
    match ← resolve node with
    | .scalar style tag text => scalarValue style tag text
    | .sequence tag items => return withOwnTag tag (.sequence (← items.mapM (Decoder.any depth)))
    | .mapping tag entries =>
      let values ← entries.mapM fun (key, value) => do
        let key ← Decoder.any depth key
        return (key, ← Decoder.any depth value)
      return withOwnTag tag (.mapping (← distinctEntries [] values))
    | .alias _ => failure

/-! ## Whole texts -/

/-- how deep collections may be nested -/
def maxDepth : Nat := 128

/-- how many aliases may be followed for each part of a document -/
def aliasesPerPart : Nat := 100

/-- reads a value out of a text that is one document; an empty text counts as an empty scalar -/
def decode? {α : Type} (value : Decoder α) (text : String) : Option α := do
  let document ← Document.ofTokens? (← tokens? text.toList)
  let root := document.root.getD (.scalar .plain none "")
  let (result, _) ← ((value maxDepth root).run document).run (aliasesPerPart * document.parts)
  return result

end TableGraph.Yaml
