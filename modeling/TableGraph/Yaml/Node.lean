/-
Documents as trees of nodes, made from tokens.

An alias stands for the node with its anchor. Anchors are numbered by how many names were known when they appeared; of
several nodes with one number an alias stands for the last one.
-/
import TableGraph.Yaml.Token

namespace TableGraph.Yaml

/-- a part of a document -/
inductive Node where
  | scalar (style : ScalarStyle) (tag : Option String) (text : String)
  | sequence (tag : Option String) (items : List Node)
  | mapping (tag : Option String) (entries : List (Node × Node))
  | alias (number : Nat)
  deriving Repr, Inhabited

/-- a node with an anchor: the number of the anchor, and how many anchors come before it in the text -/
structure Anchored where
  number : Nat
  order : Nat
  node : Node
  deriving Repr

/-- a document; without a root it is an empty text -/
structure Document where
  root : Option Node
  anchored : List Anchored
  /-- how many parts there are, the two ends of a collection counting as one each -/
  parts : Nat
  deriving Repr

namespace Document

/-- the node that an alias stands for -/
def target? (document : Document) (number : Nat) : Option Node :=
  let candidates := document.anchored.filter fun anchored => anchored.number == number
  (candidates.foldl (fun (best : Option Anchored) anchored =>
    if best.all fun found => found.order < anchored.order then some anchored else best) none).map (·.node)

end Document

/-- what has been made of the tokens so far -/
structure Composition where
  tokens : List Token
  handles : List (String × String)
  /-- the names of anchors with their numbers, each name once -/
  names : List (String × Nat)
  anchors : Nat
  anchored : List Anchored
  parts : Nat

/-- a step that uses tokens; it fails on one that does not fit -/
abbrev Composing := StateT Composition Option

namespace Composing

/-- the next token -/
def peek : Composing (Option Token) := do return (← get).tokens.head?

/-- goes past a token -/
def skip : Composing Unit := modify fun state => { state with tokens := state.tokens.drop 1 }

/-- goes past a token if it is the expected one -/
def skipIf (token : Token) : Composing Bool := do
  if (← peek) == some token then
    skip
    return true
  else return false

/-- whether one of some tokens comes next, or none at all -/
def isNext (tokens : List Token) : Composing Bool := do
  match ← peek with
  | some token => return tokens.contains token
  | none => return false

/-- counts parts -/
def count (parts : Nat) : Composing Unit := modify fun state => { state with parts := state.parts + parts }

/-- an empty scalar where nothing is written -/
def emptyScalar : Composing Node := do
  count 1
  return .scalar .plain none ""

/-- the full text of a tag -/
def fullTag (handle suffix : String) : Composing String := do
  if handle.isEmpty then return suffix
  else
    match (← get).handles.lookup handle with
    | some meaning => return meaning ++ suffix
    | none => failure

/-- what is written before a node -/
structure Properties where
  anchor : Option String
  tag : Option String

/-- reads the anchor that comes next, if there is one -/
def anchor? : Composing (Option String) := do
  match ← peek with
  | some (.anchor name) =>
    skip
    return some name
  | _ => return none

/-- reads the tag that comes next, if there is one -/
def tag? : Composing (Option String) := do
  match ← peek with
  | some (.tag handle suffix) =>
    skip
    return some (← fullTag handle suffix)
  | _ => return none

/-- reads an anchor and a tag, in either order -/
def properties : Composing Properties := do
  match ← anchor? with
  | some name => return ⟨some name, ← tag?⟩
  | none =>
    let tag ← tag?
    return ⟨← anchor?, tag⟩

/-- gives an anchor its number, before the node itself is read; the number and the order of the anchor -/
def register (anchor : Option String) : Composing (Option (Nat × Nat)) := do
  match anchor with
  | none => return none
  | some name =>
    let state ← get
    let number := state.names.length
    set { state with
      names := (name, number) :: state.names.filter (·.1 != name)
      anchors := state.anchors + 1 }
    return some (number, state.anchors)

/-- keeps a node for the aliases of its anchor -/
def keep (place : Option (Nat × Nat)) (node : Node) : Composing Node := do
  match place with
  | none => return node
  | some (number, order) =>
    modify fun state => { state with anchored := ⟨number, order, node⟩ :: state.anchored }
    return node

/-- the node that an alias names -/
def aliased (name : String) : Composing Node := do
  count 1
  match (← get).names.lookup name with
  | some number => return .alias number
  | none => failure

/-- a tag that says nothing about a scalar is dropped -/
def scalarTag (tag : Option String) : Option String := tag.filter (· != "!")

/-- an anchor or a tag with nothing after it is an empty scalar -/
def bareNode (place : Option (Nat × Nat)) (written : Properties) : Composing Node := do
  if written.anchor.isNone && written.tag.isNone then failure
  else
    count 1
    keep place (.scalar .plain written.tag "")

mutual

/-- reads a node. Inside brackets there are no block collections; the items of a list that is the value of a key need no
indentation of their own (`indentless`). -/
def node : (steps : Nat) → (block indentless : Bool) → Composing Node
  | 0, _, _ => failure
  | steps + 1, block, indentless => do
    if let some (.alias name) ← peek then
      skip
      return ← aliased name
    let written ← properties
    let place ← register written.anchor
    match ← peek with
    | some (.scalar style text) =>
      skip
      count 1
      keep place (.scalar style (scalarTag written.tag) text)
    | some .flowSequenceStart =>
      skip
      count 2
      keep place (.sequence written.tag (← flowItems steps true))
    | some .flowMappingStart =>
      skip
      count 2
      keep place (.mapping written.tag (← flowEntries steps true))
    | some .blockEntry =>
      if indentless then
        count 2
        keep place (.sequence written.tag (← indentlessItems steps))
      else bareNode place written
    | some .blockSequenceStart =>
      if block then
        skip
        count 2
        keep place (.sequence written.tag (← blockItems steps))
      else bareNode place written
    | some .blockMappingStart =>
      if block then
        skip
        count 2
        keep place (.mapping written.tag (← blockEntries steps))
      else bareNode place written
    | _ => bareNode place written

/-- a node, or an empty scalar if one of some tokens comes next -/
def nodeUnless : (steps : Nat) → (block indentless : Bool) → (ends : List Token) → Composing Node
  | 0, _, _, _ => failure
  | steps + 1, block, indentless, ends => do
    if ← isNext ends then emptyScalar else node steps block indentless

/-- the items of an indented list -/
def blockItems : (steps : Nat) → Composing (List Node)
  | 0 => failure
  | steps + 1 => do
    if ← skipIf .blockEntry then
      let item ← nodeUnless steps true false [.blockEntry, .blockEnd]
      return item :: (← blockItems steps)
    else if ← skipIf .blockEnd then return []
    else failure

/-- the items of a list without indentation of its own -/
def indentlessItems : (steps : Nat) → Composing (List Node)
  | 0 => failure
  | steps + 1 => do
    if ← skipIf .blockEntry then
      let item ← nodeUnless steps true false [.blockEntry, .key, .value, .blockEnd]
      return item :: (← indentlessItems steps)
    else return []

/-- the entries of an indented mapping -/
def blockEntries : (steps : Nat) → Composing (List (Node × Node))
  | 0 => failure
  | steps + 1 => do
    if ← skipIf .key then
      let key ← nodeUnless steps true true [.key, .value, .blockEnd]
      let value ← blockValue steps
      return (key, value) :: (← blockEntries steps)
    else if ← skipIf .blockEnd then return []
    else failure

/-- the value after a key of an indented mapping -/
def blockValue : (steps : Nat) → Composing Node
  | 0 => failure
  | steps + 1 => do
    if ← skipIf .value then nodeUnless steps true true [.key, .value, .blockEnd] else emptyScalar

/-- the items of a list in brackets; all but the first come after a comma -/
def flowItems : (steps : Nat) → (first : Bool) → Composing (List Node)
  | 0, _ => failure
  | steps + 1, first => do
    if ← skipIf .flowSequenceEnd then return []
    else
      let comma ← if first then pure true else skipIf .flowEntry
      if !comma then failure
      else if ← skipIf .flowSequenceEnd then return []
      else
        let item ← if ← skipIf .key then flowPair steps else node steps false false
        return item :: (← flowItems steps false)

/-- a mapping of a single pair inside a list in brackets; where the key is missing, what comes in its place is dropped -/
def flowPair : (steps : Nat) → Composing Node
  | 0 => failure
  | steps + 1 => do
    count 2
    let key ←
      if ← isNext [.value, .flowEntry, .flowSequenceEnd] then
        skip
        emptyScalar
      else node steps false false
    let value ←
      if ← skipIf .value then nodeUnless steps false false [.flowEntry, .flowSequenceEnd] else emptyScalar
    return .mapping none [(key, value)]

/-- the entries of a mapping in braces; all but the first come after a comma -/
def flowEntries : (steps : Nat) → (first : Bool) → Composing (List (Node × Node))
  | 0, _ => failure
  | steps + 1, first => do
    if ← skipIf .flowMappingEnd then return []
    else
      let comma ← if first then pure true else skipIf .flowEntry
      if !comma then failure
      else if ← skipIf .flowMappingEnd then return []
      else
        let entry ←
          if ← skipIf .key then
            let key ← nodeUnless steps false false [.value, .flowEntry, .flowMappingEnd]
            let value ←
              if ← skipIf .value then nodeUnless steps false false [.flowEntry, .flowMappingEnd] else emptyScalar
            pure (key, value)
          else
            let key ← node steps false false
            pure (key, ← emptyScalar)
        return entry :: (← flowEntries steps false)

end

/-! ## Documents -/

/-- the handles that every document knows -/
def commonHandles : List (String × String) := [("!", "!"), ("!!", "tag:yaml.org,2002:")]

/-- reads the directives before a document; at most one version, and each handle once -/
def directives : (steps : Nat) → (versioned : Bool) → Composing Unit
  | 0, _ => failure
  | steps + 1, versioned => do
    match ← peek with
    | some (.version major minor) =>
      if versioned || major != 1 || (minor != 1 && minor != 2) then failure
      else
        skip
        directives steps true
    | some (.tagHandle handle meaning) =>
      if ((← get).handles.lookup handle).isSome then failure
      else
        skip
        modify fun state => { state with handles := state.handles ++ [(handle, meaning)] }
        directives steps versioned
    | _ => modify fun state => { state with handles := state.handles ++ commonHandles }

/-- whether the content of a document after its mark is missing -/
def isContentMissing : Composing Bool := do
  match ← peek with
  | none => return true
  | some (.version _ _) => return true
  | some (.tagHandle _ _) => return true
  | some token => return token == .documentStart || token == .documentEnd

/-- reads a document, with or without directives and a mark -/
def document (steps : Nat) : Composing Node := do
  match ← peek with
  | some (.version _ _) | some (.tagHandle _ _) | some .documentStart =>
    directives steps false
    if ← skipIf .documentStart then
      if ← isContentMissing then emptyScalar else node steps true false
    else failure
  | _ =>
    directives steps false
    node steps true false

end Composing

/-- the only document of a text, or an empty one; there must not be a second -/
def Document.ofTokens? (tokens : List Token) : Option Document :=
  if tokens.isEmpty then some ⟨none, [], 1⟩
  else
    match (Composing.document (2 * tokens.length + 4)).run ⟨tokens, [], [], 0, [], 0⟩ with
    | some (root, state) =>
      if state.tokens.all (· == .documentEnd) then some ⟨some root, state.anchored, state.parts⟩ else none
    | none => none

end TableGraph.Yaml
