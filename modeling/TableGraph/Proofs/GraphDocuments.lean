/-
Documents of graphs say what is in the graphs.

The record of a graph is what its document is meant to say: vertices and edges in order, each with its identifier, label
and ends, and the values of its properties in JSON. The record can be read from the document, and the document from either
of its texts; so graphs with different records have different texts.

Values are told apart as far as their JSON does: a date and a text that looks like it have the same text.

Results:
- `PropertyBag.lists_encoded`: each property is listed once, with what stands for its value.
- `GraphRecord.ofJson?_toJson`: the record is read from the document.
- `Graph.ofText?_text`: a text is one document, the same in both layouts.
- `Graph.text_faithful`: a text tells what is in the graph.
-/
import TableGraph.Graph.Document
import TableGraph.Proofs.Bags
import TableGraph.Proofs.Calls
import TableGraph.Proofs.JsonReading
import TableGraph.Proofs.ValueTexts

namespace TableGraph

/-! ## Values in JSON -/

namespace Json

/-- the characters of a string -/
def text? : Json → Option String
  | .string text => some text
  | _ => none

/-- the identifier that a string is the text of -/
def identifier? (json : Json) : Option Uuid := json.text?.bind fun text => Uuid.ofText? text.toList

/-- the items of a list -/
def list? : Json → Option (List Json)
  | .array items => some items
  | _ => none

/-- the fields of an object -/
def pairs? : Json → Option (List (String × Json))
  | .object fields => some fields
  | _ => none

end Json

/-- what stands for a value is a document of its own -/
theorem Value.Encodes.proper {v : Value} {json : Json} (h : v.Encodes json) : json.Proper := by
  cases h with
  | integer hwritten => exact .number ⟨_, _, _, hwritten.denotes⟩
  | float hfinite hnumber => exact .number hnumber
  | unbounded => exact .null
  | boolean b => exact .bool b
  | _ => exact .string _

namespace PropertyBag

/-- the properties in JSON, in the order of their names -/
def encoded (bag : PropertyBag) : List (String × Json) := bag.entries.map fun entry => (entry.1, entry.2.toJson)

/-- each property of a bag is listed once, with what stands for its value, and nothing else is -/
structure Lists (bag : PropertyBag) (properties : List (String × Json)) : Prop where
  nodup : (properties.map Prod.fst).Nodup
  listed : ∀ name value, bag.get? name = some value → ∃ json, (name, json) ∈ properties ∧ value.Encodes json
  encodes : ∀ name json, (name, json) ∈ properties → ∃ value, bag.get? name = some value ∧ value.Encodes json

theorem nodup_names (bag : PropertyBag) : (bag.entries.map Prod.fst).Nodup := by
  have hsorted : (bag.entries.map Prod.fst).Pairwise (· < ·) := List.pairwise_map.mpr bag.sorted
  exact hsorted.imp String.ne_of_lt

/-- **Each property is listed once** -/
theorem lists_encoded (bag : PropertyBag) : bag.Lists bag.encoded where
  nodup := by
    rw [encoded, List.map_map]
    exact bag.nodup_names
  listed name value hvalue := by
    have hmem : (name, value.toJson) ∈ bag.encoded := List.mem_map_of_mem (get?_eq_some_iff.mp hvalue)
    exact ⟨value.toJson, hmem, value.encodes_toJson⟩
  encodes name json hmem := by
    obtain ⟨⟨other, value⟩, hentry, heq⟩ := List.mem_map.mp hmem
    obtain ⟨rfl, rfl⟩ := Prod.mk.inj heq
    exact ⟨value, get?_eq_some_iff.mpr hentry, value.encodes_toJson⟩

theorem proper_toJson (bag : PropertyBag) : bag.toJson.Proper := by
  refine .object fun field hfield => ?_
  obtain ⟨entry, -, rfl⟩ := List.mem_map.mp hfield
  exact entry.2.encodes_toJson.proper

end PropertyBag

/-! ## Records -/

/-- what a document says of a vertex, and of an edge but for its ends -/
structure ElementRecord where
  id : Uuid
  label : String
  properties : List (String × Json)

/-- what a document says of an edge -/
structure EdgeRecord extends ElementRecord where
  source : Uuid
  target : Uuid

/-- what a document says of a graph -/
structure GraphRecord where
  vertices : List ElementRecord
  edges : List EdgeRecord

/-- what is to be said of a vertex -/
def Vertex.record (vertex : Vertex Uuid) : ElementRecord := ⟨vertex.id, vertex.label, vertex.properties.encoded⟩

/-- what is to be said of an edge -/
def Edge.record (edge : Edge Uuid) : EdgeRecord :=
  ⟨⟨edge.id, edge.label, edge.properties.encoded⟩, edge.source, edge.target⟩

/-- what is to be said of a graph -/
def Graph.record (graph : Graph Uuid) : GraphRecord := ⟨graph.vertices.map (·.record), graph.edges.map (·.record)⟩

/-- a record says what a vertex is -/
structure ElementRecord.Describes (record : ElementRecord) (vertex : Vertex Uuid) : Prop where
  id_eq : record.id = vertex.id
  label_eq : record.label = vertex.label
  properties : vertex.properties.Lists record.properties

/-- a record says what an edge is -/
structure EdgeRecord.Describes (record : EdgeRecord) (edge : Edge Uuid) : Prop where
  id_eq : record.id = edge.id
  label_eq : record.label = edge.label
  source_eq : record.source = edge.source
  target_eq : record.target = edge.target
  properties : edge.properties.Lists record.properties

/-- a record says what the vertices and the edges of a graph are, in order -/
structure GraphRecord.Describes (record : GraphRecord) (graph : Graph Uuid) : Prop where
  vertices : List.Forall₂ ElementRecord.Describes record.vertices graph.vertices
  edges : List.Forall₂ EdgeRecord.Describes record.edges graph.edges

/-- **The record of a graph describes it** -/
theorem Graph.describes_record (graph : Graph Uuid) : graph.record.Describes graph where
  vertices := List.forall₂_map_left_iff.mpr (List.forall₂_same.mpr fun vertex _ =>
    ⟨rfl, rfl, vertex.properties.lists_encoded⟩)
  edges := List.forall₂_map_left_iff.mpr (List.forall₂_same.mpr fun edge _ =>
    ⟨rfl, rfl, rfl, rfl, edge.properties.lists_encoded⟩)

/-- identifier, label and names of properties of a vertex -/
def Vertex.outline (vertex : Vertex Uuid) : Uuid × String × List String :=
  (vertex.id, vertex.label, vertex.properties.entries.map Prod.fst)

/-- identifier, label, ends and names of properties of an edge -/
def Edge.outline (edge : Edge Uuid) : Uuid × String × Uuid × Uuid × List String :=
  (edge.id, edge.label, edge.source, edge.target, edge.properties.entries.map Prod.fst)

/-- the text of an identifier -/
def Uuid.name (id : Uuid) : String := String.ofList id.text

theorem Json.identifier?_name (id : Uuid) : (Json.string id.name).identifier? = some id := by
  rw [identifier?, text?, Option.bind_some, Uuid.name, String.toList_ofList, Uuid.ofText?_text]

namespace ElementRecord

/-- the document of a vertex with a record -/
def toJson (record : ElementRecord) : Json :=
  .object [("id", .string record.id.name), ("label", .string record.label), ("properties", .object record.properties)]

/-- reads the record of a vertex, or of an edge but for its ends -/
def ofJson? (json : Json) : Option ElementRecord := do
  let id ← (← json.get? "id").identifier?
  let label ← (← json.get? "label").text?
  let properties ← (← json.get? "properties").pairs?
  return ⟨id, label, properties⟩

theorem ofJson?_toJson (record : ElementRecord) : ofJson? record.toJson = some record := by
  simp [ofJson?, toJson, Json.get?, Json.identifier?_name, Json.text?, Json.pairs?]

end ElementRecord

namespace EdgeRecord

/-- the document of an edge with a record -/
def toJson (record : EdgeRecord) : Json :=
  .object [("id", .string record.id.name), ("label", .string record.label), ("source", .string record.source.name),
    ("target", .string record.target.name), ("properties", .object record.properties)]

/-- reads the record of an edge -/
def ofJson? (json : Json) : Option EdgeRecord := do
  let element ← ElementRecord.ofJson? json
  let source ← (← json.get? "source").identifier?
  let target ← (← json.get? "target").identifier?
  return ⟨element, source, target⟩

theorem ofJson?_toJson (record : EdgeRecord) : ofJson? record.toJson = some record := by
  simp [ofJson?, ElementRecord.ofJson?, toJson, Json.get?, Json.identifier?_name, Json.text?, Json.pairs?]

end EdgeRecord

namespace GraphRecord

/-- the document of a graph with a record -/
def toJson (record : GraphRecord) : Json :=
  .object [("vertices", .array (record.vertices.map (·.toJson))), ("edges", .array (record.edges.map (·.toJson)))]

/-- reads the record of a graph -/
def ofJson? (json : Json) : Option GraphRecord := do
  let vertices ← (← (← json.get? "vertices").list?).mapM ElementRecord.ofJson?
  let edges ← (← (← json.get? "edges").list?).mapM EdgeRecord.ofJson?
  return ⟨vertices, edges⟩

/-- **The record is read** from the document -/
theorem ofJson?_toJson (record : GraphRecord) : ofJson? record.toJson = some record := by
  have hvertices := mapM_map_eq_some ElementRecord.ofJson?_toJson record.vertices
  have hedges := mapM_map_eq_some EdgeRecord.ofJson?_toJson record.edges
  simp only [ofJson?, toJson, Json.get?, Json.list?, List.find?, hvertices, hedges, beq_self_eq_true,
    String.reduceBEq, Option.map_some, Option.bind_eq_bind, Option.bind_some, Option.pure_def]

end GraphRecord

/-! ## Graphs -/

namespace Graph

/-- the document of a graph says its record and nothing else -/
theorem toJson_eq (graph : Graph Uuid) : graph.toJson Uuid.name = graph.record.toJson := by
  rw [toJson, GraphRecord.toJson, record, List.map_map, List.map_map]
  rfl

theorem proper_toJson (graph : Graph Uuid) : (graph.toJson Uuid.name).Proper := by
  have hvertex (vertex : Vertex Uuid) : (vertex.toJson Uuid.name).Proper := by
    refine .object fun field hfield => ?_
    simp only [List.mem_cons, List.not_mem_nil, or_false] at hfield
    rcases hfield with rfl | rfl | rfl
    · exact .string _
    · exact .string _
    · exact vertex.properties.proper_toJson
  have hedge (edge : Edge Uuid) : (edge.toJson Uuid.name).Proper := by
    refine .object fun field hfield => ?_
    simp only [List.mem_cons, List.not_mem_nil, or_false] at hfield
    rcases hfield with rfl | rfl | rfl | rfl | rfl
    · exact .string _
    · exact .string _
    · exact .string _
    · exact .string _
    · exact edge.properties.proper_toJson
  refine .object fun field hfield => ?_
  simp only [List.mem_cons, List.not_mem_nil, or_false] at hfield
  rcases hfield with rfl | rfl
  · exact .array (List.forall_mem_map.mpr fun vertex _ => hvertex vertex)
  · exact .array (List.forall_mem_map.mpr fun edge _ => hedge edge)

/-- **A text is one document** and a line end, in both layouts -/
theorem ofText?_text (graph : Graph Uuid) (pretty : Bool) :
    ∃ document, graph.text Uuid.name pretty = document ++ ['\n'] ∧
      Json.ofText? document = some (graph.toJson Uuid.name) ∧
      Json.ofText? (graph.text Uuid.name pretty) = some (graph.toJson Uuid.name) := by
  have hproper := graph.proper_toJson
  have hline : Json.IsBlank ['\n'] := List.forall_mem_singleton.mpr rfl
  refine ⟨_, rfl, ?_, ?_⟩
  · cases pretty with
    | false => simpa using Json.ofText?_compact hproper Json.isBlank_nil
    | true => simpa using Json.ofText?_pretty hproper Json.isBlank_nil
  · cases pretty with
    | false => exact Json.ofText?_compact hproper hline
    | true => exact Json.ofText?_pretty hproper hline

/-- the record is read from a text -/
theorem record_of_text (graph : Graph Uuid) (pretty : Bool) :
    (Json.ofText? (graph.text Uuid.name pretty)).bind GraphRecord.ofJson? = some graph.record := by
  obtain ⟨-, -, -, hread⟩ := graph.ofText?_text pretty
  rw [hread, Option.bind_some, toJson_eq, GraphRecord.ofJson?_toJson]

/-- texts of either layout are the same only if the records are -/
theorem record_eq_of_text_eq {graph other : Graph Uuid} {pretty pretty' : Bool}
    (h : graph.text Uuid.name pretty = other.text Uuid.name pretty') : graph.record = other.record := by
  have hrecord := graph.record_of_text pretty
  rw [h, other.record_of_text pretty'] at hrecord
  exact (Option.some.inj hrecord).symm

/-- the record decides the text of a layout -/
theorem text_eq_of_record_eq {graph other : Graph Uuid} (h : graph.record = other.record) (pretty : Bool) :
    graph.text Uuid.name pretty = other.text Uuid.name pretty := by
  rw [text, text, toJson_eq, toJson_eq, h]

/-- the record tells the outlines of vertices and edges, in order -/
theorem outlines_eq_of_record_eq {graph other : Graph Uuid} (h : graph.record = other.record) :
    graph.vertices.map (·.outline) = other.vertices.map (·.outline) ∧
      graph.edges.map (·.outline) = other.edges.map (·.outline) := by
  have hvertices := congrArg (fun record => record.vertices.map fun r => (r.id, r.label, r.properties.map Prod.fst)) h
  have hedges := congrArg
    (fun record => record.edges.map fun r => (r.id, r.label, r.source, r.target, r.properties.map Prod.fst)) h
  simp only [record, List.map_map] at hvertices hedges
  have hnames (bag : PropertyBag) : bag.encoded.map Prod.fst = bag.entries.map Prod.fst := by
    rw [PropertyBag.encoded, List.map_map]
    rfl
  simp only [Function.comp_def, Vertex.record, Edge.record, hnames] at hvertices hedges
  exact ⟨hvertices, hedges⟩

/-- **The document of a graph is faithful.** In both layouts the text is one document and a line end, and the document is
the same. A record can be read from it that describes the graph: the vertices and edges in order, each with its identifier,
label and ends, and with each of its properties once, by its name and with what stands for its value; that is null for
numbers that are infinite or undefined, and for nothing else. So graphs have the same text in a layout exactly if the same
is to be said of them, and graphs with other outlines have other texts, whatever the layouts. -/
theorem text_faithful (graph : Graph Uuid) :
    (∀ pretty, ∃ document, graph.text Uuid.name pretty = document ++ ['\n'] ∧
      Json.ofText? document = some (graph.toJson Uuid.name) ∧
      Json.ofText? (graph.text Uuid.name pretty) = some (graph.toJson Uuid.name)) ∧
    GraphRecord.ofJson? (graph.toJson Uuid.name) = some graph.record ∧
    graph.record.Describes graph ∧
    (∀ (value : Value) (json : Json), value.Encodes json →
      (json = .null ↔ ∃ x, value = .float x ∧ x.isFinite = false)) ∧
    ∀ (other : Graph Uuid) (pretty : Bool),
      (graph.text Uuid.name pretty = other.text Uuid.name pretty ↔ graph.record = other.record) ∧
      ∀ pretty', graph.text Uuid.name pretty = other.text Uuid.name pretty' →
        graph.vertices.map (·.outline) = other.vertices.map (·.outline) ∧
        graph.edges.map (·.outline) = other.edges.map (·.outline) := by
  have hrecord : GraphRecord.ofJson? (graph.toJson Uuid.name) = some graph.record := by
    rw [toJson_eq, GraphRecord.ofJson?_toJson]
  refine ⟨graph.ofText?_text, hrecord, graph.describes_record, fun _ _ => Value.Encodes.eq_null_iff, fun other pretty => ?_⟩
  refine ⟨⟨?_, ?_⟩, ?_⟩
  · exact record_eq_of_text_eq
  · exact fun h => text_eq_of_record_eq h pretty
  · exact fun pretty' h => outlines_eq_of_record_eq (record_eq_of_text_eq h)

/-- a guest and a room, joined by an edge of some label; names and texts have quotes, backslashes and control characters
in them -/
def visit (label : String) : Graph Uuid where
  vertices :=
    [⟨.ofNat 1, "public.\"guest\"",
      ⟨[("\x07", .string "C:\\temp\n"),
        ("a\"b", .string ""),
        ("born", .date ⟨2024, 2, 29, by decide⟩),
        ("fee", .decimal ⟨true, 12500, 4, by decide, by decide⟩),
        ("rank", .integer (-7)),
        ("rate", .float .undefined),
        ("share", .float (.finite false (Nat.pow 2 52) (-53) (by decide)))], by decide⟩⟩,
     ⟨.ofNat 2, "room", ∅⟩]
  edges := [⟨.ofNat 3, label, .ofNat 1, .ofNat 2, ∅⟩]

/-- each value is listed as what stands for it, and labels that differ in an escaped quote give other texts -/
theorem visits_told_apart :
    (∃ document, (visit "\"").text Uuid.name true = document ++ ['\n'] ∧
      Json.ofText? document = some ((visit "\"").toJson Uuid.name)) ∧
    GraphRecord.ofJson? ((visit "\"").toJson Uuid.name) = some (visit "\"").record ∧
    (visit "\"").record.Describes (visit "\"") ∧
    (visit "\"").record.vertices.map (·.properties) =
      [[("\x07", .string "C:\\temp\n"), ("a\"b", .string ""), ("born", .string "2024-02-29"), ("fee", .string "-1.2500"),
        ("rank", .number "-7"), ("rate", .null), ("share", .number "0.5")], []] ∧
    (visit "\"").text Uuid.name true ≠ (visit "\\\"").text Uuid.name false := by
  obtain ⟨htexts, hread, hdescribes, -, hothers⟩ := text_faithful (visit "\"")
  obtain ⟨document, htext, hdocument, -⟩ := htexts true
  refine ⟨⟨document, htext, hdocument⟩, hread, hdescribes, rfl, fun heq => ?_⟩
  have hlabels := ((hothers (visit "\\\"") true).2 false heq).2
  exact absurd hlabels (by decide +kernel)

end Graph

end TableGraph
