/-
Conversion as settings describe it: the source that they name is opened and converted. A fixture is preferred to a
database.
-/
import TableGraph.Conversion
import TableGraph.Settings.Layers
import TableGraph.Source.Fixture

namespace TableGraph.Settings

/-- the tables of a fixture, given by its text if it can be read -/
def openFixture (path : String) : Option String → Except SourceError Source
  | some text => ((MemorySource.ofFixture text).mapError .fixture).map (·.toSource)
  | none => .error (.fixture (.unreadable path))

/-- the source that settings without a fixture name -/
def openDatabase (settings : Settings) : Except SourceError Source :=
  match settings.connection with
  | some connection => connection.toSource
  | none => .error (.connection "no source configured")

/-- the source that settings name; `read` gives the text of a file if it can be read -/
def openSource {m : Type → Type} [Monad m] (read : String → m (Option String)) (settings : Settings) :
    m (Except SourceError Source) :=
  match settings.fixture with
  | some path => return openFixture path (← read path)
  | none => return settings.openDatabase

/-- converts the source that settings name -/
def convert {m : Type → Type} [Monad m] {ι : Type} (read : String → m (Option String)) (settings : Settings)
    (ids : Nat → ι) : m (Noted (Except ConversionError (Graph ι × Report))) := do
  match ← settings.openSource read with
  | .ok source => return TableGraph.convert source settings.retrieval ids
  | .error cause => return pure (.error (.sourceUnavailable cause))

end TableGraph.Settings
