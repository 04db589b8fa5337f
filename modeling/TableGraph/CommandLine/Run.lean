/-
Runs of the program: the command line is read, the settings are resolved, and their source is converted. Files are read
on the way, so a run is described for any way to read them; the graph that comes out is not yet written.
-/
import TableGraph.CommandLine.Arguments
import TableGraph.Environment.Assignments
import TableGraph.Graph.Document
import TableGraph.Settings.Conversion

namespace TableGraph

/-- why a run ends without a graph -/
inductive RunError where
  | usage (error : UsageError)
  | settings (error : SettingsError)
  | conversion (error : ConversionError)
  /-- the file for the graph cannot be written -/
  | unwritable (path : String)
  deriving DecidableEq, Repr

namespace RunError

/-- the wording of an error -/
def message : RunError → String
  | .usage error => "error: " ++ error.message
  | .settings error => "Configuration error: " ++ error.message
  | .conversion error => "Error: " ++ error.message
  | .unwritable path => "Error: Failed to write graph: " ++ path

/-- the exit code of a run that ends so -/
def exitCode : RunError → UInt8
  | .usage _ => 2
  | .settings _ => 1
  | .conversion _ => 1
  | .unwritable _ => 1

end RunError

/-- what a run yields: a graph whose vertices and edges are numbered, and where it goes -/
structure RunResult where
  graph : Graph Nat
  report : Report
  /-- the path of the file for the graph; without one it is printed -/
  destination : Option String
  pretty : Bool

namespace RunResult

/-- the text of the graph; `name` gives the text of an identifier -/
def text (name : Nat → String) (result : RunResult) : String :=
  String.ofList (result.graph.text name result.pretty)

/-- how many identifiers there are; they are numbered from 0 -/
def size (result : RunResult) : Nat := result.graph.vertices.length + result.graph.edges.length

end RunResult

section Reading

variable {m : Type → Type} [Monad m] (read : String → m (Option String))

/-- the settings that arguments and an environment describe -/
def Arguments.settings (environment : Environment) (arguments : Arguments) : m (Except SettingsError Settings) :=
  match arguments.config with
  | some path => return Settings.resolve (some (← read path)) environment arguments.overrides
  | none => return Settings.resolve none environment arguments.overrides

/-- converts what settings name -/
def Settings.run (settings : Settings) : m (Noted (Except RunError RunResult)) := do
  let outcome ← settings.convert read id
  return ⟨outcome.notices, match outcome.value with
    | .ok (graph, report) => .ok ⟨graph, report, settings.output, settings.pretty⟩
    | .error error => .error (.conversion error)⟩

/-- runs the program -/
def run (environment : Environment) (arguments : List String) : m (Noted (Except RunError RunResult)) := do
  match Arguments.read arguments with
  | .error error => return pure (.error (.usage error))
  | .ok arguments =>
    match ← arguments.settings read environment with
    | .error error => return pure (.error (.settings error))
    | .ok settings => settings.run read

end Reading

end TableGraph
