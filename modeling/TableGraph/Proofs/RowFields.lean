/-
The fields of a row. A header describes a row field by field, and each field has one of three outcomes: a value, which goes
into the bag under the name of the field; null, which leaves no trace; or a reason why the field is left out, because its
cell is missing or cannot be converted. Whatever the width of the row, the three account for every entry of the header.

Results:
- `Cell.kind_mem_of_valueOf?`: the kinds of values that cells have in each type.
- `HeaderEntry.outcome_cases`: every field is a value, null or left out.
- `Header.fields_accounted`: values, nulls and fields left out make up the header.
Witness:
- `Header.people_accounted`: a value, a text that is no number, a null and a missing cell.
-/
import TableGraph.Proofs.Headers
import TableGraph.Proofs.TextRoundTrip

namespace TableGraph

/-! ## Kinds of values -/

/-- the kinds of values -/
inductive ValueKind where
  | integer
  | float
  | decimal
  | string
  | boolean
  | date
  | time
  | dateTime
  | dateTimeUtc
  deriving DecidableEq, Repr

/-- the kind of a value -/
def Value.kind : Value → ValueKind
  | .integer _ => .integer
  | .float _ => .float
  | .decimal _ => .decimal
  | .string _ => .string
  | .boolean _ => .boolean
  | .date _ => .date
  | .time _ => .time
  | .dateTime _ => .dateTime
  | .dateTimeUtc _ => .dateTimeUtc

/-- the kinds of values in a type: one in each known type, none in binary and array columns, and that of any scalar in an
unknown type -/
def ColumnType.valueKinds : ColumnType → List ValueKind
  | .smallInt | .integer | .bigInt => [.integer]
  | .real | .double => [.float]
  | .numeric => [.decimal]
  | .char | .varchar | .text | .uuid | .json => [.string]
  | .boolean => [.boolean]
  | .date => [.date]
  | .time => [.time]
  | .timestamp => [.dateTime]
  | .timestampTz => [.dateTimeUtc]
  | .other _ => [.integer, .float, .decimal, .string, .boolean]
  | .binary | .array => []

namespace Cell

theorem exists_of_float? {cell : Cell} {v : Value} (h : cell.float? = some v) : ∃ x, v = .float x := by
  cases cell with
  | float | int | decimal => exact ⟨_, (Option.some.inj h).symm⟩
  | text s =>
    obtain ⟨x, -, rfl⟩ := Option.map_eq_some_iff.mp h
    exact ⟨x, rfl⟩
  | _ => exact nomatch h

theorem kind_of_scalar? {cell : Cell} {v : Value} (h : cell.scalar? = some v) :
    v.kind ∈ [ValueKind.integer, .float, .decimal, .string, .boolean] := by
  cases cell with
  | int | float | decimal | text | bool | uuid =>
    obtain rfl := Option.some.inj h
    simp [Value.kind, stringValue]
  | _ => exact nomatch h

/-- **The kinds of values in each type** -/
theorem kind_mem_of_valueOf? {cell : Cell} {type : ColumnType} {v : Value} (h : cell.valueOf? type = some v) :
    v.kind ∈ type.valueKinds := by
  cases type with
  | smallInt | integer | bigInt =>
    obtain ⟨n, rfl⟩ := exists_of_integer? h
    exact List.mem_singleton.mpr rfl
  | real | double =>
    obtain ⟨x, rfl⟩ := exists_of_float? h
    exact List.mem_singleton.mpr rfl
  | numeric =>
    obtain ⟨d, rfl⟩ := exists_of_decimal? h
    exact List.mem_singleton.mpr rfl
  | char | varchar | text =>
    obtain ⟨s, rfl⟩ := exists_of_string? h
    exact List.mem_singleton.mpr rfl
  | json =>
    obtain ⟨s, rfl⟩ := exists_of_json? h
    exact List.mem_singleton.mpr rfl
  | uuid =>
    obtain ⟨id, rfl⟩ := exists_of_uuid? h
    exact List.mem_singleton.mpr rfl
  | boolean =>
    obtain ⟨b, rfl⟩ := exists_of_boolean? h
    exact List.mem_singleton.mpr rfl
  | date =>
    obtain ⟨d, rfl⟩ := exists_of_date? h
    exact List.mem_singleton.mpr rfl
  | time =>
    obtain ⟨t, rfl⟩ := exists_of_time? h
    exact List.mem_singleton.mpr rfl
  | timestamp =>
    obtain ⟨t, rfl⟩ := exists_of_dateTime? h
    exact List.mem_singleton.mpr rfl
  | timestampTz =>
    obtain ⟨t, rfl⟩ := exists_of_dateTimeUtc? h
    exact List.mem_singleton.mpr rfl
  | other name => exact kind_of_scalar? h
  | binary | array => exact nomatch h

end Cell

/-- whether a cell is null -/
def Cell.isNull : Cell → Bool
  | .null => true
  | _ => false

namespace Cell

theorem isNull_of_ne {cell : Cell} (h : cell ≠ .null) : cell.isNull = false := by
  cases cell with
  | null => exact absurd rfl h
  | _ => rfl

/-- only null cells are converted to nothing -/
theorem convert_eq_none_iff {cell : Cell} {type : ColumnType} : cell.convert type = .ok none ↔ cell = .null := by
  constructor
  · intro h
    cases cell with
    | null => rfl
    | undecodable reason => cases h
    | _ =>
      simp only [convert] at h
      split at h
      · cases h
      · split at h <;> cases h
  · rintro rfl
    rfl

end Cell

/-! ## The outcomes of one field -/

namespace HeaderEntry

section Outcomes

variable (entry : HeaderEntry) (row : Row)

/-- whether a field has a value: its cell is converted to it -/
def HasValue (value : Value) : Prop :=
  ∃ cell, row[entry.position]? = some cell ∧ cell.convert entry.type = .ok (some value)

/-- a field that is left out, with its column and its place: the row is too short, or the cell cannot be converted -/
inductive LeftOut : EmptyField → Prop
  | missing (h : row[entry.position]? = none) : LeftOut ⟨entry.name, entry.position, .missing row.length⟩
  | fault {cell : Cell} {cause : CellFault} (hcell : row[entry.position]? = some cell)
      (hfault : cell.convert entry.type = .error cause) : LeftOut ⟨entry.name, entry.position, .fault cause⟩

/-- whether the cell of a field is null -/
def isNull : Bool := (row[entry.position]?).any (·.isNull)

/-- whether the cell of a field is missing or cannot be converted -/
def isUnreadable : Bool := (row[entry.position]?).all fun cell => (cell.convert entry.type).toOption.isNone

end Outcomes

variable {entry : HeaderEntry} {row : Row}

/-- **Every field has a value, is null or is left out** -/
theorem outcome_cases (entry : HeaderEntry) (row : Row) :
    (∃ value, entry.HasValue row value) ∨ row[entry.position]? = some .null ∨ ∃ field, entry.LeftOut row field := by
  cases hcell : row[entry.position]? with
  | none => exact .inr (.inr ⟨_, .missing hcell⟩)
  | some cell =>
    cases hconvert : cell.convert entry.type with
    | error cause => exact .inr (.inr ⟨_, .fault hcell hconvert⟩)
    | ok result =>
      cases result with
      | none =>
        obtain rfl := Cell.convert_eq_none_iff.mp hconvert
        exact .inr (.inl rfl)
      | some value => exact .inl ⟨value, cell, hcell, hconvert⟩

/-- what comes of a field: a value under its name, a field left out, or neither -/
structure Reading (entry : HeaderEntry) (row : Row) (named? : Option (String × Value)) (field? : Option EmptyField)
    (null : Bool) : Prop where
  value : entry.value? row = named?
  empty : entry.emptyField? row = field?
  isNull : entry.isNull row = null
  isUnreadable : entry.isUnreadable row = field?.isSome

/-- a value is kept under the name of its field, and nothing else comes of it -/
theorem HasValue.reading {value : Value} (h : entry.HasValue row value) :
    entry.Reading row (some (entry.name, value)) none false := by
  obtain ⟨cell, hcell, hvalue⟩ := h
  have hnull : cell.isNull = false := by
    apply Cell.isNull_of_ne
    rintro rfl
    cases hvalue
  constructor
  · simp only [value?, outcome, hcell, hvalue]
  · simp only [emptyField?, outcome, hcell, hvalue]
  · simp only [HeaderEntry.isNull, hcell, Option.any_some, hnull]
  · simp [HeaderEntry.isUnreadable, hcell, hvalue, Except.toOption]

/-- nothing comes of a null -/
theorem reading_of_null (h : row[entry.position]? = some .null) : entry.Reading row none none true := by
  have hnone : Cell.null.convert entry.type = .ok none := rfl
  constructor
  · simp only [value?, outcome, h, hnone]
  · simp only [emptyField?, outcome, h, hnone]
  · simp only [HeaderEntry.isNull, h, Option.any_some, Cell.isNull]
  · simp [HeaderEntry.isUnreadable, h, hnone, Except.toOption]

/-- a field that is left out has no value and is reported -/
theorem LeftOut.reading {field : EmptyField} (h : entry.LeftOut row field) :
    entry.Reading row none (some field) false := by
  cases h with
  | missing hcell =>
    constructor
    · simp only [value?, outcome, hcell]
    · simp only [emptyField?, outcome, hcell]
    · simp only [HeaderEntry.isNull, hcell, Option.any_none]
    · simp [HeaderEntry.isUnreadable, hcell]
  | @fault cell cause hcell hfault =>
    have hnull : cell.isNull = false := by
      apply Cell.isNull_of_ne
      rintro rfl
      cases hfault
    constructor
    · simp only [value?, outcome, hcell, hfault]
    · simp only [emptyField?, outcome, hcell, hfault]
    · simp only [HeaderEntry.isNull, hcell, Option.any_some, hnull]
    · simp [HeaderEntry.isUnreadable, hcell, hfault, Except.toOption]

theorem LeftOut.column {field : EmptyField} (h : entry.LeftOut row field) : field.column = entry.name := by
  cases h with
  | missing => rfl
  | fault => rfl

theorem value?_eq_some_iff {name : String} {value : Value} :
    entry.value? row = some (name, value) ↔ entry.name = name ∧ entry.HasValue row value := by
  constructor
  · intro h
    rcases entry.outcome_cases row with ⟨other, hvalue⟩ | hnull | ⟨field, hfield⟩
    · rw [hvalue.reading.value] at h
      cases h
      exact ⟨rfl, hvalue⟩
    · rw [(reading_of_null hnull).value] at h
      cases h
    · rw [hfield.reading.value] at h
      cases h
  · rintro ⟨rfl, hvalue⟩
    exact hvalue.reading.value

theorem emptyField?_eq_some_iff {field : EmptyField} : entry.emptyField? row = some field ↔ entry.LeftOut row field := by
  constructor
  · intro h
    rcases entry.outcome_cases row with ⟨value, hvalue⟩ | hnull | ⟨other, hfield⟩
    · rw [hvalue.reading.empty] at h
      cases h
    · rw [(reading_of_null hnull).empty] at h
      cases h
    · rw [hfield.reading.empty] at h
      cases h
      exact hfield
  · intro hfield
    exact hfield.reading.empty

theorem isUnreadable_eq (entry : HeaderEntry) (row : Row) :
    entry.isUnreadable row = (entry.emptyField? row).isSome := by
  rcases entry.outcome_cases row with ⟨value, hvalue⟩ | hnull | ⟨field, hfield⟩
  · rw [hvalue.reading.isUnreadable, hvalue.reading.empty]
  · rw [(reading_of_null hnull).isUnreadable, (reading_of_null hnull).empty]
  · rw [hfield.reading.isUnreadable, hfield.reading.empty]

/-- values, fields left out and nulls are as many as there are fields -/
theorem length_readings (entries : List HeaderEntry) (row : Row) :
    (entries.filterMap fun entry => entry.value? row).length +
      (entries.filterMap fun entry => entry.emptyField? row).length + entries.countP (·.isNull row) = entries.length := by
  induction entries with
  | nil => rfl
  | cons entry rest ih =>
    -- of the three counts exactly one grows with each field
    rw [List.filterMap_cons, List.filterMap_cons, List.countP_cons, List.length_cons, ← ih]
    rcases entry.outcome_cases row with ⟨value, hvalue⟩ | hnull | ⟨field, hfield⟩
    · have hreading := hvalue.reading
      simp only [hreading.value, hreading.empty, hreading.isNull, List.length_cons, Bool.false_eq_true, if_false]
      omega
    · have hreading := reading_of_null hnull
      simp only [hreading.value, hreading.empty, hreading.isNull, if_true]
      omega
    · have hreading := hfield.reading
      simp only [hreading.value, hreading.empty, hreading.isNull, List.length_cons, Bool.false_eq_true, if_false]
      omega

/-- a row that is cut after a field has the same field -/
theorem outcome_take {n : Nat} (h : entry.position < n) : entry.outcome (row.take n) = entry.outcome row := by
  unfold outcome
  rw [List.getElem?_take, if_pos h]
  cases hcell : row[entry.position]? with
  | none =>
    -- the reason tells the width of the row, but then the row is not cut at all
    have hlength : row.length ≤ n := (List.getElem?_eq_none_iff.mp hcell).trans h.le
    rw [List.take_of_length_le hlength]
  | some cell => rfl

end HeaderEntry

/-- what is made of some elements are related to those that something is made of, in order -/
theorem forall₂_filterMap {α β : Type} {R : α → β → Prop} {f : α → Option β} (h : ∀ x y, f x = some y → R x y)
    (xs : List α) : List.Forall₂ R (xs.filter fun x => (f x).isSome) (xs.filterMap f) := by
  induction xs with
  | nil => exact .nil
  | cons x rest ih =>
    cases hx : f x with
    | none => simpa [hx] using ih
    | some y => simpa [hx] using List.Forall₂.cons (h x y hx) ih

namespace Header

variable {header : Header}

/-! ## The fields of a row -/

/-- whether a bag of values and a list of fields left out account for every field of a row -/
structure Accounts (header : Header) (row : Row) (values : PropertyBag) (empty : List EmptyField) : Prop where
  /-- what is found under a name is the value of the field of this name -/
  value : ∀ name value, values.get? name = some value ↔
    ∃ entry ∈ header.entries, entry.name = name ∧ entry.HasValue row value
  /-- of the fields whose cells are missing or cannot be converted each is left out once, in order -/
  leftOut : List.Forall₂ (fun entry : HeaderEntry => entry.LeftOut row) (header.entries.filter (·.isUnreadable row)) empty
  /-- nothing comes of a null -/
  null : ∀ entry ∈ header.entries, row[entry.position]? = some .null →
    values.get? entry.name = none ∧ ∀ field ∈ empty, field.column ≠ entry.name
  /-- no field is lost -/
  count : values.size + empty.length + header.entries.countP (·.isNull row) = header.entries.length
  /-- every value is of a kind that belongs to the type of its column -/
  kind : ∀ entry ∈ header.entries, ∀ value, values.get? entry.name = some value → value.kind ∈ entry.type.valueKinds

/-- cells beyond the header play no part -/
theorem readings_take (h : header.Aligned) (row : Row) :
    header.values (row.take header.entries.length) = header.values row ∧
      header.emptyFields (row.take header.entries.length) = header.emptyFields row := by
  have houtcome (entry : HeaderEntry) (hentry : entry ∈ header.entries) :
      entry.outcome (row.take header.entries.length) = entry.outcome row :=
    HeaderEntry.outcome_take (h.position_lt hentry)
  constructor
  · unfold values
    congr 1
    refine List.filterMap_congr fun entry hentry => ?_
    simp only [HeaderEntry.value?, houtcome entry hentry]
  · unfold emptyFields
    refine List.filterMap_congr fun entry hentry => ?_
    simp only [HeaderEntry.emptyField?, houtcome entry hentry]

/-- the names of values are names of entries, in their order -/
theorem names_values_sublist (entries : List HeaderEntry) (row : Row) :
    ((entries.filterMap fun entry => entry.value? row).map (·.1)).Sublist (entries.map (·.name)) := by
  induction entries with
  | nil => exact .slnil
  | cons entry rest ih =>
    cases hvalue : entry.value? row with
    | none => simpa [hvalue] using ih.cons entry.name
    | some named =>
      have hname : entry.name = named.1 := (HeaderEntry.value?_eq_some_iff.mp hvalue).1
      simpa [hvalue, hname] using ih

/-- with distinct names the values of a row are those of its fields -/
theorem entries_values_perm (hnames : header.names.Nodup) (row : Row) :
    (header.values row).entries.Perm (header.entries.filterMap fun entry => entry.value? row) :=
  PropertyBag.entries_ofList_perm (hnames.sublist (names_values_sublist header.entries row))

theorem get?_values_eq_some_iff (hnames : header.names.Nodup) {row : Row} {name : String} {value : Value} :
    (header.values row).get? name = some value ↔
      ∃ entry ∈ header.entries, entry.name = name ∧ entry.HasValue row value := by
  rw [PropertyBag.get?_eq_some_iff, (entries_values_perm hnames row).mem_iff, List.mem_filterMap]
  simp only [HeaderEntry.value?_eq_some_iff]

/-- with distinct names a field has the value that is found under its name -/
theorem hasValue_of_get? (hnames : header.names.Nodup) {row : Row} {entry : HeaderEntry} (hentry : entry ∈ header.entries)
    {value : Value} (h : (header.values row).get? entry.name = some value) : entry.HasValue row value := by
  obtain ⟨other, hother, hname, hvalue⟩ := (get?_values_eq_some_iff hnames).mp h
  have hsame : other = entry := List.inj_on_of_nodup_map hnames hother hentry hname
  rwa [hsame] at hvalue

theorem mem_emptyFields_iff {row : Row} {field : EmptyField} :
    field ∈ header.emptyFields row ↔ ∃ entry ∈ header.entries, entry.LeftOut row field := by
  rw [emptyFields, List.mem_filterMap]
  simp only [HeaderEntry.emptyField?_eq_some_iff]

/-- **Every field of a row is accounted for.** Under a header with distinct names that describes each cell at its place, a
row of any width gives a value to each name whose cell is converted to one, leaves out each field whose cell is missing or
cannot be converted, with its column and place and in order, and passes over nulls; these three make up the header. Each
value is of a kind that belongs to the type of its column. Cells beyond the header play no part. -/
theorem fields_accounted (hnames : header.names.Nodup) (haligned : header.Aligned) (row : Row) :
    header.Accounts row (header.values row) (header.emptyFields row) ∧
      header.values (row.take header.entries.length) = header.values row ∧
      header.emptyFields (row.take header.entries.length) = header.emptyFields row := by
  refine ⟨?_, readings_take haligned row⟩
  constructor
  · intro name value
    exact get?_values_eq_some_iff hnames
  · simp only [HeaderEntry.isUnreadable_eq]
    refine forall₂_filterMap (f := fun entry : HeaderEntry => entry.emptyField? row) ?_ header.entries
    intro entry field hfield
    exact HeaderEntry.emptyField?_eq_some_iff.mp hfield
  · -- with distinct names nothing but this field could give its name a value or be left out under it
    intro entry hentry hnull
    constructor
    · rw [Option.eq_none_iff_forall_ne_some]
      intro value hvalue
      have hreading := (hasValue_of_get? hnames hentry hvalue).reading.value
      rw [(HeaderEntry.reading_of_null hnull).value] at hreading
      cases hreading
    · intro field hfield hcolumn
      obtain ⟨other, hother, hleft⟩ := mem_emptyFields_iff.mp hfield
      have hsame : other = entry := List.inj_on_of_nodup_map hnames hother hentry (hleft.column.symm.trans hcolumn)
      have hreading := hleft.reading.empty
      rw [hsame, (HeaderEntry.reading_of_null hnull).empty] at hreading
      cases hreading
  · rw [PropertyBag.size, (entries_values_perm hnames row).length_eq]
    exact HeaderEntry.length_readings header.entries row
  · intro entry hentry value hvalue
    obtain ⟨cell, -, hconvert⟩ := hasValue_of_get? hnames hentry hvalue
    exact Cell.kind_mem_of_valueOf? (Cell.convert_eq_some_iff.mp hconvert)

/-- what is known of a person -/
def people : Header :=
  (((empty.push "id" .primaryKey .integer).push "age" .attribute .integer).push "nick" .attribute .text).push "extra"
    .attribute .text

/-- **A person** whose age is no number, who has no nickname, and of whom nothing else is stored -/
theorem people_accounted :
    let row : Row := [.int 1, .text "old", .null]
    people.Accounts row (people.values row) (people.emptyFields row) ∧
      (people.values row).entries = [("id", .integer 1)] ∧
      (people.emptyFields row).map (fun field => (field.column, field.position)) = [("age", 1), ("extra", 3)] ∧
      people.values (row ++ [.null, .int 9]) = people.values row := by
  intro row
  have hnames : people.names.Nodup := by decide
  have haligned : people.Aligned := (((aligned_empty.push _ _ _).push _ _ _).push _ _ _).push _ _ _
  obtain ⟨haccounts, -⟩ := fields_accounted hnames haligned row
  obtain ⟨-, hwide, -⟩ := fields_accounted hnames haligned (row ++ [.null, .int 9])
  exact ⟨haccounts, by decide +kernel, by decide +kernel, hwide.symm⟩

end Header

end TableGraph
