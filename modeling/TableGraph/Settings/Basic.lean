/-
The settings of a run: where the tables come from, how they are fetched and where the graph goes.

A run needs one source, a database or a fixture, and limits within their ranges. `faults` lists what is wrong with
settings. What is wrong with a single value is found first; only settings without such faults are checked for their
source. `faults_eq_nil_iff` says which settings have no fault.
-/
import TableGraph.Retrieval.Plan
import TableGraph.Source.Connection

namespace TableGraph

/-- the settings of a run -/
structure Settings where
  databaseUrl : Option String := none
  /-- the path of a fixture -/
  fixture : Option String := none
  schema : Option String := none
  parallelism : Nat := 4
  fetchSize : Nat := 10000
  maxConnections : Nat := 8
  timeoutSeconds : Nat := 30
  /-- the path of the file for the graph; without one it is printed -/
  output : Option String := none
  pretty : Bool := false
  deriving DecidableEq, Repr

/-- what can be wrong with settings -/
inductive SettingsFault where
  | timeoutSeconds
  | emptyUrl
  | fetchSize
  | maxConnections
  | parallelism
  | missingSource
  | conflictingSources
  deriving DecidableEq, Repr

namespace SettingsFault

/-- the setting that a fault is about; a fault of the source is about all of them -/
def field : SettingsFault → String
  | .timeoutSeconds => "connect_timeout_secs"
  | .emptyUrl => "database_url"
  | .fetchSize => "fetch_size"
  | .maxConnections => "max_connections"
  | .parallelism => "parallelism"
  | .missingSource => "__all__"
  | .conflictingSources => "__all__"

/-- the kind of a fault -/
def code : SettingsFault → String
  | .timeoutSeconds => "range"
  | .emptyUrl => "length"
  | .fetchSize => "range"
  | .maxConnections => "range"
  | .parallelism => "range"
  | .missingSource => "missing_source"
  | .conflictingSources => "conflicting_sources"

/-- the wording of a fault -/
def message : SettingsFault → String
  | .timeoutSeconds => "Connect timeout must be at least 1 second"
  | .emptyUrl => "Database URL cannot be empty"
  | .fetchSize => "Fetch size must be at least 1"
  | .maxConnections => "Max connections must be between 1 and 256"
  | .parallelism => "Parallelism must be between 1 and 1024"
  | .missingSource => "Either a database URL or a fixture file is required"
  | .conflictingSources => "A database URL and a fixture file are mutually exclusive"

end SettingsFault

namespace Settings

/-- how the rows are fetched -/
def retrieval (settings : Settings) : RetrievalOptions := ⟨settings.parallelism, settings.fetchSize⟩

/-- the connection to the database, if one is named -/
def connection (settings : Settings) : Option Connection :=
  settings.databaseUrl.map fun url => ⟨url, settings.maxConnections, settings.timeoutSeconds⟩

/-- what is wrong with single values, by the names of the settings -/
def valueFaults (settings : Settings) : List SettingsFault :=
  (if 1 ≤ settings.timeoutSeconds then [] else [.timeoutSeconds]) ++
    (if settings.databaseUrl = some "" then [.emptyUrl] else []) ++
    (if 1 ≤ settings.fetchSize then [] else [.fetchSize]) ++
    (if 1 ≤ settings.maxConnections ∧ settings.maxConnections ≤ 256 then [] else [.maxConnections]) ++
    (if 1 ≤ settings.parallelism ∧ settings.parallelism ≤ 1024 then [] else [.parallelism])

/-- what is wrong with the choice of a source -/
def sourceFaults (settings : Settings) : List SettingsFault :=
  match settings.databaseUrl, settings.fixture with
  | none, none => [.missingSource]
  | some _, some _ => [.conflictingSources]
  | _, _ => []

/-- what is wrong with settings -/
def faults (settings : Settings) : List SettingsFault :=
  if settings.valueFaults.isEmpty then settings.sourceFaults else settings.valueFaults

theorem valueFaults_eq_nil_iff {settings : Settings} : settings.valueFaults = [] ↔
    1 ≤ settings.timeoutSeconds ∧ settings.databaseUrl ≠ some "" ∧ 1 ≤ settings.fetchSize ∧
      (1 ≤ settings.maxConnections ∧ settings.maxConnections ≤ 256) ∧
      (1 ≤ settings.parallelism ∧ settings.parallelism ≤ 1024) := by
  simp only [valueFaults, List.append_eq_nil_iff, ite_eq_left_iff, ite_eq_right_iff, List.cons_ne_nil, imp_false,
    Decidable.not_not, and_assoc]

theorem sourceFaults_eq_nil_iff {settings : Settings} : settings.sourceFaults = [] ↔
    settings.databaseUrl.isSome ≠ settings.fixture.isSome := by
  cases hurl : settings.databaseUrl <;> cases hfixture : settings.fixture <;> simp [sourceFaults, hurl, hfixture]

theorem faults_eq_nil_iff {settings : Settings} : settings.faults = [] ↔
    settings.valueFaults = [] ∧ settings.sourceFaults = [] := by
  simp only [faults, List.isEmpty_iff]
  split <;> simp_all

end Settings

end TableGraph
