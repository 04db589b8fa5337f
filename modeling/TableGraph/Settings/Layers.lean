/-
Settings from their layers: defaults or a YAML file, then the environment, then values given for the run itself. A later
layer wins.

A run has one source, so a layer that names a database or a fixture also drops the other one. Only the common variable
for a database URL is weaker: it does not displace a fixture.
-/
import TableGraph.Settings.Basic
import TableGraph.Yaml.Decoder

namespace TableGraph

/-- why there are no settings -/
inductive SettingsError where
  | unreadableFile
  | malformedFile (text : String)
  | variable (error : VariableError)
  | invalid (faults : List SettingsFault)
  deriving DecidableEq, Repr

/-- the wording of an error -/
def SettingsError.message : SettingsError → String
  | .unreadableFile => "Parse error for yaml_file: file read failed"
  | .malformedFile text => "Parse error for yaml_content: " ++ text
  | .variable error => error.message
  | .invalid faults => "Validation error: " ++ ", ".intercalate (faults.map fun fault => fault.field ++ ": " ++ fault.message)

/-- values given for one run; a value that is not given leaves the layers below as they are -/
structure Overrides where
  databaseUrl : Option String := none
  fixture : Option String := none
  schema : Option String := none
  parallelism : Option Nat := none
  fetchSize : Option Nat := none
  maxConnections : Option Nat := none
  output : Option String := none
  pretty : Bool := false
  deriving DecidableEq, Repr

namespace Settings

/-! ## The file -/

open Yaml in
/-- reads settings; those that are missing have their defaults, and names that are no settings do not count -/
def decoder : Decoder Settings := fun depth node => do
  let fields ← Fields.decoder ["database_url", "fixture", "schema", "parallelism", "fetch_size", "max_connections",
    "connect_timeout_secs", "output", "pretty"] depth node
  let settings : Settings := {}
  let optionalText := Decoder.optional Decoder.text
  return {
    databaseUrl := ← fields.getD "database_url" optionalText settings.databaseUrl
    fixture := ← fields.getD "fixture" optionalText settings.fixture
    schema := ← fields.getD "schema" optionalText settings.schema
    parallelism := ← fields.getD "parallelism" (.natural Whole.maxWord64) settings.parallelism
    fetchSize := ← fields.getD "fetch_size" (.natural Whole.maxWord64) settings.fetchSize
    maxConnections := ← fields.getD "max_connections" (.natural Whole.maxWord32) settings.maxConnections
    timeoutSeconds := ← fields.getD "connect_timeout_secs" (.natural Whole.maxWord64) settings.timeoutSeconds
    output := ← fields.getD "output" optionalText settings.output
    pretty := ← fields.getD "pretty" .bool settings.pretty }

/-- the settings of a text -/
def ofText (text : String) : Except SettingsError Settings :=
  match Yaml.decode? decoder text with
  | some settings => .ok settings
  | none => .error (.malformedFile text)

/-- the settings of a file, given by its text if it can be read -/
def ofFile : Option String → Except SettingsError Settings
  | some text => ofText text
  | none => .error .unreadableFile

/-! ## The environment -/

/-- the variable for the schema -/
def schemaVariable : String := "RELGRAPH_SCHEMA"

/-- the variable for the number of fetches side by side -/
def parallelismVariable : String := "RELGRAPH_PARALLELISM"

/-- the variable for the number of rows of one fetch -/
def fetchSizeVariable : String := "RELGRAPH_FETCH_SIZE"

/-- the variables that settings are read from -/
def variableNames : List String :=
  [Connection.urlVariable, Connection.commonUrlVariable, schemaVariable, parallelismVariable, fetchSizeVariable,
    Connection.maxConnectionsVariable, Connection.timeoutVariable]

/-- settings with a database in place of every other source -/
def withDatabase (url : String) (settings : Settings) : Settings :=
  { settings with databaseUrl := some url, fixture := none }

/-- settings with a fixture in place of every other source -/
def withFixture (path : String) (settings : Settings) : Settings :=
  { settings with fixture := some path, databaseUrl := none }

/-- settings with the database that an environment names -/
def withEnvironmentSource (environment : Environment) (settings : Settings) : Settings :=
  match environment Connection.urlVariable, environment Connection.commonUrlVariable with
  | some url, _ => settings.withDatabase url
  | none, some url => if settings.fixture.isSome then settings else { settings with databaseUrl := some url }
  | none, none => settings

/-- settings with the values of an environment -/
def withEnvironment (environment : Environment) (settings : Settings) : Except VariableError Settings := do
  let parallelism ← environment.natural parallelismVariable Whole.maxWord64
  let fetchSize ← environment.natural fetchSizeVariable Whole.maxWord64
  let maxConnections ← environment.natural Connection.maxConnectionsVariable Whole.maxWord32
  let timeoutSeconds ← environment.natural Connection.timeoutVariable Whole.maxWord64
  return { settings.withEnvironmentSource environment with
    schema := environment schemaVariable <|> settings.schema
    parallelism := parallelism.getD settings.parallelism
    fetchSize := fetchSize.getD settings.fetchSize
    maxConnections := maxConnections.getD settings.maxConnections
    timeoutSeconds := timeoutSeconds.getD settings.timeoutSeconds }

/-! ## Values for one run -/

/-- settings with the source that is given for a run; of two sources, the fixture counts -/
def overrideSource (overrides : Overrides) (settings : Settings) : Settings :=
  match overrides.fixture, overrides.databaseUrl with
  | some path, _ => settings.withFixture path
  | none, some url => settings.withDatabase url
  | none, none => settings

/-- settings with the values that are given for a run -/
def override (overrides : Overrides) (settings : Settings) : Settings :=
  { settings.overrideSource overrides with
    schema := overrides.schema <|> settings.schema
    parallelism := overrides.parallelism.getD settings.parallelism
    fetchSize := overrides.fetchSize.getD settings.fetchSize
    maxConnections := overrides.maxConnections.getD settings.maxConnections
    output := overrides.output <|> settings.output
    pretty := settings.pretty || overrides.pretty }

/-! ## All layers -/

/-- settings without faults -/
def checked (settings : Settings) : Except SettingsError Settings :=
  if settings.faults.isEmpty then .ok settings else .error (.invalid settings.faults)

/-- the settings of an environment alone -/
def ofEnvironment (environment : Environment) : Except SettingsError Settings := do
  let settings ← ((({} : Settings).withEnvironment environment).mapError .variable)
  settings.checked

/-- the settings of a file alone -/
def ofFileAlone (text : Option String) : Except SettingsError Settings := do
  (← ofFile text).checked

/-- the settings of all layers; `file` is present if a file is named, and holds its text if it can be read -/
def resolve (file : Option (Option String)) (environment : Environment) (overrides : Overrides) :
    Except SettingsError Settings := do
  let base ← match file with
    | some text => ofFile text
    | none => .ok {}
  let settings ← (base.withEnvironment environment).mapError .variable
  (settings.override overrides).checked

end Settings

end TableGraph
