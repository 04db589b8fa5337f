/-
How introspection ends. The list of tables is asked for first, and then, table by table, the primary key, the references,
the columns and the number of rows. The first of these calls that fails ends the run and is named by the error; only a
number of rows may be missing, which leaves the count of its table at zero and adds a notice.

`FirstFailure` says which call is the first to fail without running anything: all calls about the tables listed before
succeed, and so do the calls about the table itself that come before. A source may fail in any number of calls.

Results:
- `Source.introspect_eq_error_iff`: introspection fails with the error of the first failing call, and with no other.
- `Source.introspect_eq_ok_iff`: else it describes each listed table once, in the order of the list.
- `Source.notices_introspect`: the notices, table by table.
- `Source.introspect_withRowCount`: what depends on whether a source can tell the number of rows of a table.
- `Source.introspect_first_failure`: all of this, for a conversion as well.
Witness:
- `Source.garden_first_failure`: a run that ends at the third of four failing calls.
-/
import TableGraph.Proofs.MemoryRuns

namespace TableGraph

/-! ## Steps -/

namespace IntrospectionStep

/-- the letter by which the wording of a step tells its kind -/
def mark : IntrospectionStep → Char
  | .tables => 't'
  | .primaryKeys _ => 'p'
  | .references _ => 'f'
  | .columns _ => 'c'

theorem getElem?_toList_append {words : String} {k : Nat} {c : Char} (h : words.toList[k]? = some c) (table : String) :
    (words ++ table).toList[k]? = some c := by
  rw [String.toList_append]
  exact List.getElem?_append_left (List.getElem?_eq_some_iff.mp h).1 ▸ h

theorem description_mark (step : IntrospectionStep) : step.description.toList[8]? = some step.mark := by
  cases step with
  | tables => decide +kernel
  | primaryKeys table => exact getElem?_toList_append (c := 'p') (by decide +kernel) table
  | references table => exact getElem?_toList_append (c := 'f') (by decide +kernel) table
  | columns table => exact getElem?_toList_append (c := 'c') (by decide +kernel) table

/-- **A step is known by its description**: the wording of an error names the call and the table -/
theorem description_injective : Function.Injective description := by
  intro a b h
  have hmark : a.mark = b.mark := Option.some.inj (by rw [← description_mark, ← description_mark, h])
  cases a with
  | tables =>
    cases b with
    | tables => rfl
    | _ => exact absurd hmark (by simp [mark])
  | primaryKeys table =>
    cases b with
    | primaryKeys other => rw [(String.append_right_inj _).mp h]
    | _ => exact absurd hmark (by simp [mark])
  | references table =>
    cases b with
    | references other => rw [(String.append_right_inj _).mp h]
    | _ => exact absurd hmark (by simp [mark])
  | columns table =>
    cases b with
    | columns other => rw [(String.append_right_inj _).mp h]
    | _ => exact absurd hmark (by simp [mark])

end IntrospectionStep

namespace Source

variable (source : Source)

/-! ## The first failing call -/

/-- what a source says about a table, if none of the three calls fails -/
structure Tells (name : TableName) (m : Metadata) : Prop where
  primaryKeys : source.primaryKeys name = .ok m.primaryKeys
  references : source.references name = .ok m.references
  columns : source.columns name = .ok m.columns

/-- the first of the three calls about a table that fails, and why it does -/
inductive FailsAt (name : TableName) : IntrospectionStep → SourceError → Prop
  | primaryKeys {cause : SourceError} (h : source.primaryKeys name = .error cause) :
      FailsAt name (.primaryKeys name.qualified) cause
  | references {cause : SourceError} {keys : List String} (hkeys : source.primaryKeys name = .ok keys)
      (h : source.references name = .error cause) : FailsAt name (.references name.qualified) cause
  | columns {cause : SourceError} {keys : List String} {references : List DeclaredReference}
      (hkeys : source.primaryKeys name = .ok keys) (hreferences : source.references name = .ok references)
      (h : source.columns name = .error cause) : FailsAt name (.columns name.qualified) cause

/-- the error of the first failing call of introspection, the number of rows left aside -/
inductive FirstFailure : ConversionError → Prop
  | tables {cause : SourceError} (h : source.tables = .error cause) : FirstFailure (.introspection .tables cause)
  | metadata {before after : List TableName} {name : TableName} {step : IntrospectionStep} {cause : SourceError}
      (hlisted : source.tables = .ok (before ++ name :: after))
      (hbefore : ∀ earlier ∈ before, ∃ m, source.Tells earlier m) (h : source.FailsAt name step cause) :
      FirstFailure (.introspection step cause)

/-- whether one of the three calls about a table fails -/
def MetadataFails (name : TableName) : Prop :=
  (∃ cause, source.primaryKeys name = .error cause) ∨ (∃ cause, source.references name = .error cause) ∨
    ∃ cause, source.columns name = .error cause

variable {source}

/-- the metadata of a table is read if none of the three calls fails -/
theorem read_eq_ok_iff {name : TableName} {m : Metadata} : Metadata.read source name = .ok m ↔ source.Tells name m := by
  obtain ⟨keys, references, columns⟩ := m
  constructor
  · intro h
    unfold Metadata.read at h
    cases hkeys : source.primaryKeys name with
    | error cause => simp [hkeys, bind, Except.bind, Except.mapError] at h
    | ok keys' =>
      cases hreferences : source.references name with
      | error cause => simp [hkeys, hreferences, bind, Except.bind, Except.mapError] at h
      | ok references' =>
        cases hcolumns : source.columns name with
        | error cause => simp [hkeys, hreferences, hcolumns, bind, Except.bind, Except.mapError] at h
        | ok columns' =>
          simp only [hkeys, hreferences, hcolumns, bind, Except.bind, Except.mapError, pure, Except.pure,
            Except.ok.injEq, Metadata.mk.injEq] at h
          obtain ⟨rfl, rfl, rfl⟩ := h
          exact ⟨hkeys, hreferences, hcolumns⟩
  · rintro ⟨hkeys, hreferences, hcolumns⟩
    rw [Metadata.read, hkeys, hreferences, hcolumns]
    rfl

/-- it is not read if one of the calls fails, and the error is that of the first -/
theorem read_eq_error_iff {name : TableName} {error : ConversionError} :
    Metadata.read source name = .error error ↔
      ∃ step cause, error = .introspection step cause ∧ source.FailsAt name step cause := by
  constructor
  · intro h
    unfold Metadata.read at h
    cases hkeys : source.primaryKeys name with
    | error cause =>
      simp only [hkeys, bind, Except.bind, Except.mapError, Except.error.injEq] at h
      exact ⟨_, cause, h.symm, .primaryKeys hkeys⟩
    | ok keys =>
      cases hreferences : source.references name with
      | error cause =>
        simp only [hkeys, hreferences, bind, Except.bind, Except.mapError, Except.error.injEq] at h
        exact ⟨_, cause, h.symm, .references hkeys hreferences⟩
      | ok references =>
        cases hcolumns : source.columns name with
        | error cause =>
          simp only [hkeys, hreferences, hcolumns, bind, Except.bind, Except.mapError, Except.error.injEq] at h
          exact ⟨_, cause, h.symm, .columns hkeys hreferences hcolumns⟩
        | ok columns => simp [hkeys, hreferences, hcolumns, bind, Except.bind, Except.mapError, pure, Except.pure] at h
  · rintro ⟨step, cause, rfl, hfails⟩
    cases hfails with
    | primaryKeys h =>
      rw [Metadata.read, h]
      rfl
    | references hkeys h =>
      rw [Metadata.read, hkeys, h]
      rfl
    | columns hkeys hreferences h =>
      rw [Metadata.read, hkeys, hreferences, h]
      rfl

/-- a table can be described or one of the three calls about it fails, but not both -/
theorem metadataFails_iff {name : TableName} : source.MetadataFails name ↔ ¬∃ m, source.Tells name m := by
  constructor
  · rintro hfails ⟨m, hkeys, hreferences, hcolumns⟩
    rcases hfails with ⟨cause, h⟩ | ⟨cause, h⟩ | ⟨cause, h⟩
    · exact nomatch hkeys.symm.trans h
    · exact nomatch hreferences.symm.trans h
    · exact nomatch hcolumns.symm.trans h
  · intro hnot
    cases hread : Metadata.read source name with
    | ok m => exact absurd ⟨m, read_eq_ok_iff.mp hread⟩ hnot
    | error error =>
      obtain ⟨step, cause, -, hfails⟩ := read_eq_error_iff.mp hread
      cases hfails with
      | primaryKeys h => exact .inl ⟨cause, h⟩
      | references _ h => exact .inr (.inl ⟨cause, h⟩)
      | columns _ _ h => exact .inr (.inr ⟨cause, h⟩)

/-- whether a description is that of a table, by what the source says about the table -/
def Describes (source : Source) (name : TableName) (description : TableDescription) : Prop :=
  ∃ m, source.Tells name m ∧ description = m.describe name (source.countOf name)

theorem described_eq_ok_iff {name : TableName} {description : TableDescription} :
    source.described name = .ok description ↔ source.Describes name description := by
  rw [described, map_eq_ok_iff]
  constructor
  · rintro ⟨m, hread, rfl⟩
    exact ⟨m, read_eq_ok_iff.mp hread, rfl⟩
  · rintro ⟨m, htells, rfl⟩
    exact ⟨m, read_eq_ok_iff.mpr htells, rfl⟩

theorem described_eq_error_iff {name : TableName} {error : ConversionError} :
    source.described name = .error error ↔ Metadata.read source name = .error error := by
  rw [described]
  cases Metadata.read source name <;> simp [Except.map]

/-- **Introspection fails with the error of the first failing call**, and with no other -/
theorem introspect_eq_error_iff {error : ConversionError} :
    source.introspect.value = .error error ↔ source.FirstFailure error := by
  rw [introspect_value]
  cases htables : source.tables with
  | error cause =>
    constructor
    · intro h
      obtain rfl : ConversionError.introspection .tables cause = error := Except.error.inj h
      exact .tables htables
    · intro h
      cases h with
      | tables h =>
        obtain rfl := Except.error.inj (htables.symm.trans h)
        rfl
      | metadata hlisted => exact nomatch htables.symm.trans hlisted
  | ok names =>
    change names.mapM source.described = .error error ↔ _
    rw [mapM_eq_error_iff]
    constructor
    · rintro ⟨before, name, after, rfl, hbefore, hfails⟩
      obtain ⟨step, cause, rfl, hfirst⟩ := read_eq_error_iff.mp (described_eq_error_iff.mp hfails)
      refine .metadata htables (fun earlier hearlier => ?_) hfirst
      obtain ⟨description, hdescribed⟩ := hbefore earlier hearlier
      obtain ⟨m, htells, -⟩ := described_eq_ok_iff.mp hdescribed
      exact ⟨m, htells⟩
    · intro h
      cases h with
      | tables h => exact nomatch htables.symm.trans h
      | @metadata before after name step cause hlisted hbefore hfails =>
        obtain rfl : names = before ++ name :: after := Except.ok.inj (htables.symm.trans hlisted)
        refine ⟨before, name, after, rfl, fun earlier hearlier => ?_, ?_⟩
        · obtain ⟨m, htells⟩ := hbefore earlier hearlier
          exact ⟨_, described_eq_ok_iff.mpr ⟨m, htells, rfl⟩⟩
        · exact described_eq_error_iff.mpr (read_eq_error_iff.mpr ⟨step, cause, rfl, hfails⟩)

/-- **Else it describes each listed table once**, in the order of the list -/
theorem introspect_eq_ok_iff {tables : List TableDescription} :
    source.introspect.value = .ok tables ↔
      ∃ names, source.tables = .ok names ∧ List.Forall₂ source.Describes names tables := by
  rw [introspect_value]
  cases htables : source.tables with
  | error cause => simp [Except.mapError, Except.bind]
  | ok names =>
    change names.mapM source.described = .ok tables ↔ _
    simp only [mapM_eq_ok_iff, described_eq_ok_iff, Except.ok.injEq, exists_eq_left']

/-- of a table that is described no call fails -/
theorem tells_of_describes {names : List TableName} {tables : List TableDescription}
    (h : List.Forall₂ source.Describes names tables) : ∀ name ∈ names, ∃ m, source.Tells name m := by
  induction h with
  | nil => simp
  | cons hfirst _ ih =>
    obtain ⟨m, htells, -⟩ := hfirst
    exact List.forall_mem_cons.mpr ⟨⟨m, htells⟩, ih⟩

/-- introspection fails if the list of tables or a call about a listed table does -/
theorem exists_firstFailure_iff :
    (∃ error, source.FirstFailure error) ↔ (∃ cause, source.tables = .error cause) ∨
      ∃ names, source.tables = .ok names ∧ ∃ name ∈ names, source.MetadataFails name := by
  constructor
  · rintro ⟨error, hfirst⟩
    cases hfirst with
    | @tables cause h => exact .inl ⟨cause, h⟩
    | @metadata before after name step cause hlisted _ hfails =>
      refine .inr ⟨_, hlisted, name, by simp, metadataFails_iff.mpr ?_⟩
      rintro ⟨m, htells⟩
      have hread := read_eq_error_iff.mpr ⟨step, cause, rfl, hfails⟩
      exact nomatch hread.symm.trans (read_eq_ok_iff.mpr htells)
  · rintro (⟨cause, h⟩ | ⟨names, hnames, name, hname, hfails⟩)
    · exact ⟨_, .tables h⟩
    · cases hvalue : source.introspect.value with
      | error error => exact ⟨error, introspect_eq_error_iff.mp hvalue⟩
      | ok tables =>
        -- then every listed table is described, and no call about it fails
        obtain ⟨names', hnames', hdescribed⟩ := introspect_eq_ok_iff.mp hvalue
        obtain rfl := Except.ok.inj (hnames.symm.trans hnames')
        exact absurd (tells_of_describes hdescribed name hname) (metadataFails_iff.mp hfails)

/-! ## Notices -/

variable (source)

/-- the tables that are described: all listed ones, or those before the first one whose metadata cannot be read -/
def describedNames : List TableName :=
  match source.tables with
  | .ok names => names.takeWhile fun name => (Metadata.read source name).toOption.isSome
  | .error _ => []

theorem notices_describeAll (names : List TableName) :
    (source.describeAll names).notices =
      (names.takeWhile fun name => (Metadata.read source name).toOption.isSome).flatMap fun name =>
        (source.describe name).notices := by
  induction names with
  | nil => rfl
  | cons name rest ih =>
    simp only [describeAll, Noted.notices_bind, List.takeWhile_cons]
    cases hread : Metadata.read source name with
    | error error =>
      have hdescribe : source.describe name = pure (.error error) := by
        rw [describe, hread]
      simp [hdescribe, Except.toOption]
    | ok m =>
      have hvalue : (source.describe name).value = .ok (m.describe name (source.countOf name)) := by
        rw [describe_value, described, hread]
        rfl
      simp [hvalue, ih, Except.toOption]

/-- **The notices are those of the described tables**, in the order of the list -/
theorem notices_introspect :
    source.introspect.notices = source.describedNames.flatMap fun name => (source.describe name).notices := by
  unfold introspect describedNames
  cases source.tables with
  | error cause => rfl
  | ok names => exact source.notices_describeAll names

/-- if introspection succeeds, all listed tables are described -/
theorem describedNames_of_ok {tables : List TableDescription} (h : source.introspect.value = .ok tables) :
    source.describedNames = tables.map (·.source) := by
  obtain ⟨hnames, -⟩ := source.introspect_ok h
  obtain ⟨names, hlisted, hdescribed⟩ := introspect_eq_ok_iff.mp h
  obtain rfl : names = tables.map (·.source) := Except.ok.inj (hlisted.symm.trans hnames)
  have hread : ∀ name ∈ tables.map (·.source), (Metadata.read source name).toOption.isSome = true := by
    intro name hname
    obtain ⟨m, htells⟩ := tells_of_describes hdescribed name hname
    rw [read_eq_ok_iff.mpr htells]
    rfl
  rw [describedNames, hnames, ← List.append_nil (tables.map fun table => table.source)]
  exact List.takeWhile_append_of_pos hread

/-! ## Numbers of rows -/

/-- the source with another answer to the question how many rows a table has -/
def withRowCount (table : TableName) (answer : Except SourceError Nat) : Source :=
  { source with rowCount := fun name => if name = table then answer else source.rowCount name }

/-- a description, the number of rows left aside if it is that of a table -/
def uncounted (table : TableName) (description : TableDescription) : TableDescription :=
  if description.source = table then description.unsized else description

theorem describedNames_withRowCount (table : TableName) (answer : Except SourceError Nat) :
    (source.withRowCount table answer).describedNames = source.describedNames := rfl

theorem described_withRowCount (table : TableName) (cause : SourceError) (count : Nat) (name : TableName) :
    (source.withRowCount table (.error cause)).described name =
      ((source.withRowCount table (.ok count)).described name).map (uncounted table) := by
  have hread (answer : Except SourceError Nat) :
      Metadata.read (source.withRowCount table answer) name = Metadata.read source name := rfl
  simp only [described, hread]
  cases Metadata.read source name with
  | error error => rfl
  | ok m =>
    by_cases hname : name = table
    · simp [Except.map, countOf, withRowCount, uncounted, hname, Metadata.describe, TableDescription.unsized,
        Except.toOption]
    · simp [Except.map, countOf, withRowCount, uncounted, hname, Metadata.describe]

/-- the notices of a described table: one more if the number of its rows is not known -/
theorem notices_describe_withRowCount (table : TableName) (cause : SourceError) (count : Nat) {name : TableName}
    (hread : (Metadata.read source name).toOption.isSome) :
    ((source.withRowCount table (.error cause)).describe name).notices =
      ((source.withRowCount table (.ok count)).describe name).notices ++
        if name = table then [.rowCountUnknown table.qualified cause] else [] := by
  have hsame (answer : Except SourceError Nat) :
      Metadata.read (source.withRowCount table answer) name = Metadata.read source name := rfl
  simp only [describe, hsame]
  cases hm : Metadata.read source name with
  | error error => simp [hm, Except.toOption] at hread
  | ok m =>
    by_cases hname : name = table
    · simp [estimatedRows, withRowCount, hname]
    · simp [estimatedRows, withRowCount, hname]

/-- **A missing number of rows changes nothing but the count**: where a source could tell how many rows a table has and now
cannot, the table is described with the count zero, all else is as before, and there is one more notice where the table is
described -/
theorem introspect_withRowCount (table : TableName) (cause : SourceError) (count : Nat) :
    let counted := source.withRowCount table (.ok count)
    let uncountable := source.withRowCount table (.error cause)
    uncountable.introspect.value = counted.introspect.value.map (List.map (uncounted table)) ∧
      counted.introspect.notices = source.describedNames.flatMap (fun name => (counted.describe name).notices) ∧
      uncountable.introspect.notices = source.describedNames.flatMap fun name =>
        (counted.describe name).notices ++ if name = table then [.rowCountUnknown table.qualified cause] else [] := by
  intro counted uncountable
  have hdescribed : uncountable.described = fun name => (counted.described name).map (uncounted table) :=
    funext (source.described_withRowCount table cause count)
  have htables (answer : Except SourceError Nat) : (source.withRowCount table answer).tables = source.tables := rfl
  refine ⟨?_, counted.notices_introspect, ?_⟩
  · rw [introspect_value, introspect_value, hdescribed, htables, htables]
    cases source.tables with
    | error reason => rfl
    | ok names => exact mapM_map_eq _ (uncounted table) names
  · rw [notices_introspect, describedNames_withRowCount]
    refine List.flatMap_congr fun name hname => ?_
    refine source.notices_describe_withRowCount table cause count ?_
    unfold describedNames at hname
    split at hname
    · exact List.all_eq_true.mp List.all_takeWhile name hname
    · cases hname

/-! ## The end of introspection -/

/-- **How introspection ends.** Whatever a source answers, and whichever of its calls fail, introspection fails with the
error of the first failing call, and a conversion fails with the same error; the error names the call and the table. There
is such a call exactly if the list of tables fails or one of the three calls about a listed table. Else every listed table
is described once, in the order of the list. A number of rows that a source cannot tell changes nothing but the count of
its table, which is zero, and adds one notice where the table is described. -/
theorem introspect_first_failure {ι : Type} (source : Source) (options : RetrievalOptions) (ids : Nat → ι) :
    (∀ error, source.introspect.value = .error error ↔ source.FirstFailure error) ∧
    (∀ error, (convert source options ids).value = .error error ↔ source.FirstFailure error) ∧
    Function.Injective IntrospectionStep.description ∧
    ((∃ error, source.FirstFailure error) ↔ (∃ cause, source.tables = .error cause) ∨
      ∃ names, source.tables = .ok names ∧ ∃ name ∈ names, source.MetadataFails name) ∧
    (∀ tables, source.introspect.value = .ok tables ↔
      ∃ names, source.tables = .ok names ∧ List.Forall₂ source.Describes names tables) ∧
    ∀ (table : TableName) (cause : SourceError) (count : Nat),
      let counted := source.withRowCount table (.ok count)
      let uncountable := source.withRowCount table (.error cause)
      uncountable.introspect.value = counted.introspect.value.map (List.map (uncounted table)) ∧
      ∃ described : List TableName,
        (∀ tables, counted.introspect.value = .ok tables → described = tables.map (·.source)) ∧
        counted.introspect.notices = described.flatMap (fun name => (counted.describe name).notices) ∧
        uncountable.introspect.notices = described.flatMap fun name =>
          (counted.describe name).notices ++ if name = table then [.rowCountUnknown table.qualified cause] else [] := by
  refine ⟨fun error => introspect_eq_error_iff, fun error => ?_, IntrospectionStep.description_injective,
    exists_firstFailure_iff, fun tables => introspect_eq_ok_iff, fun table cause count => ?_⟩
  · rw [← introspect_eq_error_iff, convert_value]
    cases source.introspect.value <;> simp [Except.map]
  · intro counted uncountable
    obtain ⟨hvalue, hcounted, huncountable⟩ := source.introspect_withRowCount table cause count
    exact ⟨hvalue, source.describedNames, fun tables htables => counted.describedNames_of_ok htables, hcounted,
      huncountable⟩

/-- a garden whose source cannot count beds, refuses to tell about plants, and is gone before it is asked about harvests -/
def garden : Source where
  dialect := .postgresql
  tables := .ok [⟨none, "bed"⟩, ⟨some "flora", "plant"⟩, ⟨none, "harvest"⟩]
  primaryKeys table := if table.name = "harvest" then .error (.connection "closed") else .ok ["id"]
  references table := if table.name = "plant" then .error (.metadata "flora.plant" "denied") else .ok []
  columns table := if table.name = "plant" then .error (.metadata "flora.plant" "denied") else .ok [⟨"id", "integer"⟩]
  rowCount table := .error (.metadata table.qualified "no statistics")
  rows _ _ := .ok []

/-- **The references of plants** are the first call to fail: beds are described without their number, and nothing is said
about the calls that come later -/
theorem garden_first_failure :
    garden.introspect.value =
        .error (.introspection (.references "flora.plant") (.metadata "flora.plant" "denied")) ∧
      (convert garden {} (id : Nat → Nat)).value =
        .error (.introspection (.references "flora.plant") (.metadata "flora.plant" "denied")) ∧
      garden.introspect.notices = [.rowCountUnknown "bed" (.metadata "bed" "no statistics")] := by
  obtain ⟨hintrospect, hconvert, -⟩ := introspect_first_failure garden {} (id : Nat → Nat)
  have hbed : garden.Tells ⟨none, "bed"⟩ ⟨["id"], [], [⟨"id", "integer"⟩]⟩ := ⟨rfl, rfl, rfl⟩
  have hplant : garden.FailsAt ⟨some "flora", "plant"⟩ (.references "flora.plant") (.metadata "flora.plant" "denied") :=
    .references rfl rfl
  have hlisted : garden.tables = .ok ([⟨none, "bed"⟩] ++ ⟨some "flora", "plant"⟩ :: [⟨none, "harvest"⟩]) := rfl
  have hfirst : garden.FirstFailure
      (.introspection (.references "flora.plant") (.metadata "flora.plant" "denied")) :=
    .metadata hlisted (List.forall_mem_singleton.mpr ⟨_, hbed⟩) hplant
  exact ⟨(hintrospect _).mpr hfirst, (hconvert _).mpr hfirst, by decide +kernel⟩

end Source

end TableGraph
