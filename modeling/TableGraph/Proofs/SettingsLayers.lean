/-
The settings of a run, from their layers: a file, the environment and values given for the run. Each setting has the value
of the highest layer that has one, and its default if there is none. The source is a choice between two settings of which
only one may be left; a higher layer that names one drops the other, and only the common variable for a database gives way
to a fixture of the file.

What the layers say is stated apart from how they are put together. A file says some of the settings, by the entries of its
mapping (`FileSays`), the environment some numbers (`EnvironmentNumbers`, as `Environment.Says` reads them), and what they
resolve to is a relation (`Layered`) that has exactly one result.

Results:
- `Environment.natural_eq_ok_iff`: a variable is not set, or to a number within its limit.
- `Settings.layered_iff`: the layers put together are the settings of the relation.
- `Settings.resolve_layered`: there are settings exactly if the layers can be read and resolve to valid ones.
-/
import TableGraph.Proofs.Calls
import TableGraph.Proofs.SettingsFiles
import TableGraph.Proofs.WholeNumbers

namespace TableGraph

/-! ## What the environment says -/

/-- what a variable for a number says: nothing if it is not set, or the number that its text spells without a minus -/
inductive Environment.Says (environment : Environment) (name : String) (limit : Nat) : Option Nat → Prop
  | unset (h : environment name = none) : environment.Says name limit none
  | set {text : String} {n : Nat} (h : environment name = some text) (hspells : Whole.Spells text.toList n)
    (hplain : text.toList.head? ≠ some '-') (hlimit : n ≤ limit) : environment.Says name limit (some n)

/-- **A variable that can be read** is not set, or set to a number within its limit -/
theorem Environment.natural_eq_ok_iff {environment : Environment} {name : String} {limit : Nat} {value : Option Nat} :
    environment.natural name limit = .ok value ↔ environment.Says name limit value := by
  unfold natural
  cases hname : environment name with
  | none =>
    constructor
    · intro h
      obtain rfl : none = value := Except.ok.inj h
      exact .unset hname
    · intro h
      cases h with
      | unset => rfl
      | set h => exact nomatch hname.symm.trans h
  | some text =>
    have hread (n : Nat) : Whole.unsigned limit text = .ok n ↔
        Whole.Spells text.toList n ∧ text.toList.head? ≠ some '-' ∧ n ≤ limit := Whole.unsignedIn_eq_ok_iff
    constructor
    · intro h
      cases hparse : Whole.unsigned limit text with
      | error cause => simp [hparse] at h
      | ok n =>
        obtain rfl : some n = value := by simpa [hparse] using h
        obtain ⟨hspells, hplain, hlimit⟩ := (hread n).mp hparse
        exact .set hname hspells hplain hlimit
    · intro h
      cases h with
      | unset h => exact nomatch hname.symm.trans h
      | @set text' n h hspells hplain hlimit =>
        obtain rfl : text = text' := Option.some.inj (hname.symm.trans h)
        simp [(hread n).mpr ⟨hspells, hplain, hlimit⟩]

/-- the numbers that the environment says -/
structure EnvironmentNumbers where
  parallelism : Option Nat
  fetchSize : Option Nat
  maxConnections : Option Nat
  timeoutSeconds : Option Nat

/-- every variable for a number can be read, and says its part -/
structure EnvironmentNumbers.ReadFrom (numbers : EnvironmentNumbers) (environment : Environment) : Prop where
  parallelism : environment.Says "RELGRAPH_PARALLELISM" (2 ^ 64 - 1) numbers.parallelism
  fetchSize : environment.Says "RELGRAPH_FETCH_SIZE" (2 ^ 64 - 1) numbers.fetchSize
  maxConnections : environment.Says "RELGRAPH_MAX_CONNECTIONS" (2 ^ 32 - 1) numbers.maxConnections
  timeoutSeconds : environment.Says "RELGRAPH_CONNECT_TIMEOUT_SECS" (2 ^ 64 - 1) numbers.timeoutSeconds

/-! ## What a file says -/

/-- what the layer of the file says: nothing if no file is named, or what is written in its text -/
inductive FileSays : Option (Option String) → FileValues → Prop
  | unnamed : FileSays none {}
  | text {text : String} {values : FileValues} (h : values.WrittenIn text) : FileSays (some (some text)) values

namespace Settings

/-! ## What the layers resolve to -/

/-- the value of the highest layer that has one -/
def highest {α : Type} (layers : List (Option α)) : Option α := layers.findSome? id

/-- the source that the layers choose, as a database and a fixture. Values for the run come first and choose a source alone,
and so does the first variable for a database; then a fixture of the file counts, next to what else the file says; then the
common variable, and last the database of the file. -/
inductive ChosenSource (overrides : Overrides) (environment : Environment) (file : FileValues) :
    (databaseUrl fixture : Option String) → Prop
  | givenFixture {path : String} (hgiven : overrides.fixture = some path) :
    ChosenSource overrides environment file none (some path)
  | givenDatabase {url : String} (hnone : overrides.fixture = none) (hgiven : overrides.databaseUrl = some url) :
    ChosenSource overrides environment file (some url) none
  | firstVariable {url : String} (hnone : overrides.fixture = none ∧ overrides.databaseUrl = none)
    (hset : environment "RELGRAPH_DATABASE_URL" = some url) : ChosenSource overrides environment file (some url) none
  | fileFixture {path : String} (hnone : overrides.fixture = none ∧ overrides.databaseUrl = none)
    (hunset : environment "RELGRAPH_DATABASE_URL" = none) (hsaid : file.fixture = some path) :
    ChosenSource overrides environment file file.databaseUrl (some path)
  | commonVariable {url : String} (hnone : overrides.fixture = none ∧ overrides.databaseUrl = none)
    (hunset : environment "RELGRAPH_DATABASE_URL" = none) (hsaid : file.fixture = none)
    (hset : environment "DATABASE_URL" = some url) : ChosenSource overrides environment file (some url) none
  | fileDatabase (hnone : overrides.fixture = none ∧ overrides.databaseUrl = none)
    (hunset : environment "RELGRAPH_DATABASE_URL" = none ∧ environment "DATABASE_URL" = none)
    (hsaid : file.fixture = none) : ChosenSource overrides environment file file.databaseUrl none

/-- settings that have the source that is chosen and, for everything else, the values of the highest layers -/
structure Layered (file : FileValues) (environment : Environment) (numbers : EnvironmentNumbers) (overrides : Overrides)
    (settings : Settings) : Prop where
  source : ChosenSource overrides environment file settings.databaseUrl settings.fixture
  schema : settings.schema = highest [overrides.schema, environment "RELGRAPH_SCHEMA", file.schema]
  parallelism : settings.parallelism =
    (highest [overrides.parallelism, numbers.parallelism, file.parallelism]).getD 4
  fetchSize : settings.fetchSize = (highest [overrides.fetchSize, numbers.fetchSize, file.fetchSize]).getD 10000
  maxConnections : settings.maxConnections =
    (highest [overrides.maxConnections, numbers.maxConnections, file.maxConnections]).getD 8
  timeoutSeconds : settings.timeoutSeconds = (highest [numbers.timeoutSeconds, file.timeoutSeconds]).getD 30
  output : settings.output = highest [overrides.output, file.output]
  pretty : settings.pretty = true ↔ file.pretty = some true ∨ overrides.pretty = true

/-- settings with the source of an environment, and with the numbers that it says -/
def withNumbers (environment : Environment) (numbers : EnvironmentNumbers) (settings : Settings) : Settings :=
  { settings.withEnvironmentSource environment with
    schema := environment schemaVariable <|> settings.schema
    parallelism := numbers.parallelism.getD settings.parallelism
    fetchSize := numbers.fetchSize.getD settings.fetchSize
    maxConnections := numbers.maxConnections.getD settings.maxConnections
    timeoutSeconds := numbers.timeoutSeconds.getD settings.timeoutSeconds }

/-- **The environment can be read** exactly if every number in it can -/
theorem withEnvironment_eq_ok_iff {environment : Environment} {base settings : Settings} :
    base.withEnvironment environment = .ok settings ↔
      ∃ numbers : EnvironmentNumbers, numbers.ReadFrom environment ∧ settings = base.withNumbers environment numbers := by
  unfold withEnvironment
  simp only [bind_eq_ok_iff, Environment.natural_eq_ok_iff]
  constructor
  · rintro ⟨parallelism, hparallelism, fetchSize, hfetchSize, maxConnections, hmaxConnections, timeout, htimeout, h⟩
    exact ⟨⟨parallelism, fetchSize, maxConnections, timeout⟩, ⟨hparallelism, hfetchSize, hmaxConnections, htimeout⟩,
      (Except.ok.inj h).symm⟩
  · rintro ⟨numbers, hread, rfl⟩
    exact ⟨_, hread.parallelism, _, hread.fetchSize, _, hread.maxConnections, _, hread.timeoutSeconds, rfl⟩

/-- an environment changes the source at most -/
theorem exists_withEnvironmentSource (environment : Environment) (settings : Settings) :
    ∃ url fixture, settings.withEnvironmentSource environment =
      { settings with databaseUrl := url, fixture := fixture } := by
  unfold withEnvironmentSource
  split
  · exact ⟨_, none, rfl⟩
  · split
    · exact ⟨settings.databaseUrl, settings.fixture, rfl⟩
    · exact ⟨_, settings.fixture, rfl⟩
  · exact ⟨settings.databaseUrl, settings.fixture, rfl⟩

/-- values for a run change the source at most, before the other values are put in -/
theorem exists_overrideSource (overrides : Overrides) (settings : Settings) :
    ∃ url fixture, settings.overrideSource overrides = { settings with databaseUrl := url, fixture := fixture } := by
  unfold overrideSource
  split
  · exact ⟨none, _, rfl⟩
  · exact ⟨_, none, rfl⟩
  · exact ⟨settings.databaseUrl, settings.fixture, rfl⟩

variable {overrides : Overrides} {environment : Environment} {file : FileValues} {numbers : EnvironmentNumbers}

/-- some source is chosen -/
theorem exists_chosenSource (overrides : Overrides) (environment : Environment) (file : FileValues) :
    ∃ databaseUrl fixture, ChosenSource overrides environment file databaseUrl fixture := by
  cases hfixture : overrides.fixture with
  | some path => exact ⟨_, _, .givenFixture hfixture⟩
  | none =>
    cases hdatabase : overrides.databaseUrl with
    | some url => exact ⟨_, _, .givenDatabase hfixture hdatabase⟩
    | none =>
      cases hvariable : environment "RELGRAPH_DATABASE_URL" with
      | some url => exact ⟨_, _, .firstVariable ⟨hfixture, hdatabase⟩ hvariable⟩
      | none =>
        cases hfile : file.fixture with
        | some path => exact ⟨_, _, .fileFixture ⟨hfixture, hdatabase⟩ hvariable hfile⟩
        | none =>
          cases hcommon : environment "DATABASE_URL" with
          | some url => exact ⟨_, _, .commonVariable ⟨hfixture, hdatabase⟩ hvariable hfile hcommon⟩
          | none => exact ⟨_, _, .fileDatabase ⟨hfixture, hdatabase⟩ ⟨hvariable, hcommon⟩ hfile⟩

/-- the source that is chosen is the one that is left when the layers are put together -/
theorem ChosenSource.eq_override {databaseUrl fixture : Option String}
    (h : ChosenSource overrides environment file databaseUrl fixture) (numbers : EnvironmentNumbers) :
    databaseUrl = ((file.toSettings.withNumbers environment numbers).override overrides).databaseUrl ∧
      fixture = ((file.toSettings.withNumbers environment numbers).override overrides).fixture := by
  have hfixture : file.toSettings.fixture = file.fixture := rfl
  have hdatabase : file.toSettings.databaseUrl = file.databaseUrl := rfl
  cases h with
  | givenFixture hgiven => simp [override, overrideSource, hgiven, withFixture]
  | givenDatabase hnone hgiven => simp [override, overrideSource, hnone, hgiven, withDatabase]
  | firstVariable hnone hset =>
    simp [override, overrideSource, hnone, withNumbers, withEnvironmentSource, Connection.urlVariable, hset, withDatabase]
  | fileFixture hnone hunset hsaid =>
    cases hcommon : environment "DATABASE_URL" <;>
      simp [override, overrideSource, hnone, withNumbers, withEnvironmentSource, Connection.urlVariable,
        Connection.commonUrlVariable, hunset, hcommon, hfixture, hdatabase, hsaid]
  | commonVariable hnone hunset hsaid hset =>
    simp [override, overrideSource, hnone, withNumbers, withEnvironmentSource, Connection.urlVariable,
      Connection.commonUrlVariable, hunset, hset, hfixture, hsaid]
  | fileDatabase hnone hunset hsaid =>
    simp [override, overrideSource, hnone, withNumbers, withEnvironmentSource, Connection.urlVariable,
      Connection.commonUrlVariable, hunset, hfixture, hdatabase, hsaid]

theorem ChosenSource.unique {url url' fixture fixture' : Option String}
    (h : ChosenSource overrides environment file url fixture)
    (h' : ChosenSource overrides environment file url' fixture') : url = url' ∧ fixture = fixture' := by
  obtain ⟨hurl, hfixture⟩ := h.eq_override ⟨none, none, none, none⟩
  obtain ⟨hurl', hfixture'⟩ := h'.eq_override ⟨none, none, none, none⟩
  exact ⟨hurl.trans hurl'.symm, hfixture.trans hfixture'.symm⟩

/-- the other settings, when the layers are put together -/
theorem exists_override (overrides : Overrides) (environment : Environment) (numbers : EnvironmentNumbers)
    (file : FileValues) :
    ∃ databaseUrl fixture, (file.toSettings.withNumbers environment numbers).override overrides = {
      databaseUrl := databaseUrl
      fixture := fixture
      schema := overrides.schema <|> environment schemaVariable <|> file.schema
      parallelism := overrides.parallelism.getD (numbers.parallelism.getD (file.parallelism.getD 4))
      fetchSize := overrides.fetchSize.getD (numbers.fetchSize.getD (file.fetchSize.getD 10000))
      maxConnections := overrides.maxConnections.getD (numbers.maxConnections.getD (file.maxConnections.getD 8))
      timeoutSeconds := numbers.timeoutSeconds.getD (file.timeoutSeconds.getD 30)
      output := overrides.output <|> file.output
      pretty := file.pretty.getD false || overrides.pretty } := by
  obtain ⟨_, _, henvironment⟩ := exists_withEnvironmentSource environment file.toSettings
  obtain ⟨_, _, hoverride⟩ := exists_overrideSource overrides (file.toSettings.withNumbers environment numbers)
  rw [override, hoverride, withNumbers, henvironment]
  exact ⟨_, _, rfl⟩

theorem highest_nil {α : Type} : highest ([] : List (Option α)) = none := rfl

theorem highest_cons {α : Type} (first : Option α) (rest : List (Option α)) :
    highest (first :: rest) = first.or (highest rest) := by
  cases first <;> rfl

/-- the layers put together have the values of the highest layers -/
theorem layered_override (overrides : Overrides) (environment : Environment) (numbers : EnvironmentNumbers)
    (file : FileValues) : Layered file environment numbers overrides
      ((file.toSettings.withNumbers environment numbers).override overrides) := by
  obtain ⟨url, fixture, hchosen⟩ := exists_chosenSource overrides environment file
  obtain ⟨rfl, rfl⟩ := hchosen.eq_override numbers
  obtain ⟨databaseUrl, fixture, hoverride⟩ := exists_override overrides environment numbers file
  rw [hoverride] at hchosen ⊢
  constructor
  case source => exact hchosen
  case pretty =>
    cases file.pretty with
    | none => simp
    | some pretty => simp
  all_goals simp only [highest_cons, highest_nil, Option.orElse_eq_orElse, Option.orElse_eq_or, Option.getD_or,
    Option.or_none]
  case schema => rfl

theorem Layered.unique {settings settings' : Settings} (h : Layered file environment numbers overrides settings)
    (h' : Layered file environment numbers overrides settings') : settings = settings' := by
  obtain ⟨hurl, hfixture⟩ := h.source.unique h'.source
  cases settings
  cases settings'
  rw [Settings.mk.injEq]
  exact ⟨hurl, hfixture, h.schema.trans h'.schema.symm, h.parallelism.trans h'.parallelism.symm,
    h.fetchSize.trans h'.fetchSize.symm, h.maxConnections.trans h'.maxConnections.symm,
    h.timeoutSeconds.trans h'.timeoutSeconds.symm, h.output.trans h'.output.symm,
    Bool.eq_iff_iff.mpr (h.pretty.trans h'.pretty.symm)⟩

/-- **The layers resolve** to what they are when they are put together, and to nothing else -/
theorem layered_iff {settings : Settings} : Layered file environment numbers overrides settings ↔
    settings = (file.toSettings.withNumbers environment numbers).override overrides := by
  constructor
  · exact fun h => h.unique (layered_override overrides environment numbers file)
  · rintro rfl
    exact layered_override overrides environment numbers file

/-! ## Settings without faults -/

/-- one source, a URL that is not empty if there is one, and limits within their ranges -/
structure Valid (settings : Settings) : Prop where
  source : settings.databaseUrl.isSome ≠ settings.fixture.isSome
  url : settings.databaseUrl ≠ some ""
  parallelism : 1 ≤ settings.parallelism ∧ settings.parallelism ≤ 1024
  fetchSize : 1 ≤ settings.fetchSize
  maxConnections : 1 ≤ settings.maxConnections ∧ settings.maxConnections ≤ 256
  timeoutSeconds : 1 ≤ settings.timeoutSeconds

theorem faults_eq_nil_iff_valid {settings : Settings} : settings.faults = [] ↔ settings.Valid := by
  rw [faults_eq_nil_iff, valueFaults_eq_nil_iff, sourceFaults_eq_nil_iff]
  constructor
  · rintro ⟨⟨htimeout, hurl, hfetch, hconnections, hparallelism⟩, hsource⟩
    exact ⟨hsource, hurl, hparallelism, hfetch, hconnections, htimeout⟩
  · rintro ⟨hsource, hurl, hparallelism, hfetch, hconnections, htimeout⟩
    exact ⟨⟨htimeout, hurl, hfetch, hconnections, hparallelism⟩, hsource⟩

theorem checked_eq_ok_iff {settings result : Settings} :
    settings.checked = .ok result ↔ settings = result ∧ settings.Valid := by
  rw [← faults_eq_nil_iff_valid, ← List.isEmpty_iff, checked]
  by_cases hfaults : settings.faults.isEmpty = true
  · rw [if_pos hfaults]
    simp [hfaults]
  · rw [if_neg hfaults]
    simp [hfaults]

/-! ## All layers -/

/-- the settings of the layer of the file -/
def fileLayer : Option (Option String) → Except SettingsError Settings
  | some text => ofFile text
  | none => .ok {}

theorem fileLayer_eq_ok_iff {file : Option (Option String)} {base : Settings} :
    fileLayer file = .ok base ↔ ∃ values, FileSays file values ∧ base = values.toSettings := by
  constructor
  · intro h
    cases file with
    | none =>
      obtain rfl : ({} : Settings) = base := Except.ok.inj h
      exact ⟨{}, .unnamed, rfl⟩
    | some text =>
      cases text with
      | none => exact nomatch h
      | some text =>
        obtain ⟨values, hvalues, rfl⟩ := ofText_eq_ok_iff.mp h
        exact ⟨values, .text hvalues, rfl⟩
  · rintro ⟨values, hsaid, rfl⟩
    cases hsaid with
    | unnamed => rfl
    | text hvalues => exact ofText_eq_ok_iff.mpr ⟨values, hvalues, rfl⟩

theorem resolve_eq (file : Option (Option String)) (environment : Environment) (overrides : Overrides) :
    resolve file environment overrides = (do
      let base ← fileLayer file
      let settings ← (base.withEnvironment environment).mapError .variable
      (settings.override overrides).checked) := by
  cases file <;> rfl

/-- **Settings are resolved by layers.** For every file that may be named, every environment and all values for the run,
there are settings exactly if the file can be read, every number in the environment can, and the layers resolve to settings
with one source, with a URL that is not empty if it is a database, and with limits within their ranges; and then these are
the settings. Whatever the layers say, they resolve to exactly one result: the source that they choose and, for every other
setting, the value of the highest layer that has one, with the defaults below. -/
theorem resolve_layered (file : Option (Option String)) (environment : Environment) (overrides : Overrides) :
    (∀ settings, resolve file environment overrides = .ok settings ↔
      ∃ values numbers, FileSays file values ∧ numbers.ReadFrom environment ∧
        Layered values environment numbers overrides settings ∧ settings.Valid) ∧
    ∀ values numbers, ∃! settings, Layered values environment numbers overrides settings := by
  constructor
  · intro settings
    simp only [resolve_eq, bind_eq_ok_iff, mapError_eq_ok_iff, fileLayer_eq_ok_iff, withEnvironment_eq_ok_iff,
      checked_eq_ok_iff]
    constructor
    · rintro ⟨_, ⟨values, hsaid, rfl⟩, _, ⟨numbers, hread, rfl⟩, rfl, hvalid⟩
      exact ⟨values, numbers, hsaid, hread, layered_override overrides environment numbers values, hvalid⟩
    · rintro ⟨values, numbers, hsaid, hread, hlayered, hvalid⟩
      obtain rfl := layered_iff.mp hlayered
      exact ⟨_, ⟨values, hsaid, rfl⟩, _, ⟨numbers, hread, rfl⟩, rfl, hvalid⟩
  · intro values numbers
    exact ⟨_, layered_override overrides environment numbers values, fun _ h => layered_iff.mp h⟩

/-- a fixture for the run drops the database of the environment, whose limit still counts; of the file, the limit that an
alias names again and the schema are left, and a name that is no setting does not count -/
example : resolve (some (some ("\n".intercalate ["database_url: 'postgres://file'", "schema: \"HR\"", "fetch_size: &limit 0x10",
      "max_connections: *limit", "output: ~", "comment: 1"])))
    (.ofList [("RELGRAPH_DATABASE_URL", "postgres://db"), ("RELGRAPH_FETCH_SIZE", "+050")])
    { fixture := some "hr.yaml" } =
      .ok { fixture := some "hr.yaml", schema := some "HR", fetchSize := 50, maxConnections := 16 } := by
  decide +kernel

end Settings

end TableGraph
