/-
A text that stands for a value is converted to the value. Whatever cell a value comes from, the key of the value, given as
a text in a column of the same type, is converted to an equal value. A source that delivers texts only therefore gives the
values that a source with typed cells gives.

Decimals are equal as numbers: `1.50` has the key `1.5`, which is converted to a decimal with one digit after the point.
Moments in universal time have a key that can be read back only if the year has four digits, because an offset is read
after a year of four digits only (`universal_of_long_year`). Floating-point numbers are left out.

Results:
- `Cell.hasType_of_valueOf?`: the values of each type.
- `Cell.convert_key`: the key of a value is converted to a value equal to it.
Witness:
- `Cell.convert_keys_of_leap_second`: a leap second, a decimal with a needless zero and an identifier in another spelling.
Counterexample:
- `Cell.universal_of_long_year`: a moment in universal time in a year of five digits.
-/
import TableGraph.Proofs.CalendarReading
import TableGraph.Proofs.DecimalReading
import TableGraph.Proofs.UuidReading
import TableGraph.Proofs.WholeConversion

namespace TableGraph

open Text

/-- the types whose values are read back from their texts -/
def ColumnType.textTypes : List ColumnType :=
  [.smallInt, .integer, .bigInt, .numeric, .char, .varchar, .text, .boolean, .uuid, .json, .date, .time, .timestamp,
    .timestampTz]

/-- equal values; decimals are compared as numbers -/
def Value.Equal : Value → Value → Prop
  | .decimal d, .decimal e => d.toRat = e.toRat
  | v, w => v = w

theorem Value.Equal.refl (v : Value) : v.Equal v := by
  cases v <;> exact rfl

/-- the values of a type -/
inductive Value.HasType : ColumnType → Value → Prop
  | integer {type : ColumnType} (htype : type ∈ ColumnType.wholeTypes) (n : Int64) : HasType type (.integer n)
  | decimal (d : Decimal) : HasType .numeric (.decimal d)
  | string {type : ColumnType} (htype : type ∈ [ColumnType.char, .varchar, .text, .json]) (s : String) :
      HasType type (.string s)
  | boolean (b : Bool) : HasType .boolean (.boolean b)
  | uuid (id : Uuid) : HasType .uuid (Cell.stringValue id.text)
  | date (d : Date) : HasType .date (.date d)
  | time (t : Time) : HasType .time (.time t)
  | dateTime (t : DateTime) : HasType .timestamp (.dateTime t)
  | dateTimeUtc (t : DateTime) : HasType .timestampTz (.dateTimeUtc t)

namespace Cell

/-! ## The values of each type -/

theorem exists_of_integer? {cell : Cell} {v : Value} (h : cell.integer? = some v) : ∃ n, v = .integer n := by
  cases cell with
  | int n => exact ⟨n, (Option.some.inj h).symm⟩
  | float | decimal | text =>
    obtain ⟨n, -, rfl⟩ := Option.map_eq_some_iff.mp h
    exact ⟨_, rfl⟩
  | _ => exact nomatch h

theorem exists_of_decimal? {cell : Cell} {v : Value} (h : cell.decimal? = some v) : ∃ d, v = .decimal d := by
  cases cell with
  | decimal d => exact ⟨d, (Option.some.inj h).symm⟩
  | int n => exact ⟨_, (Option.some.inj h).symm⟩
  | float | text =>
    obtain ⟨d, -, rfl⟩ := Option.map_eq_some_iff.mp h
    exact ⟨d, rfl⟩
  | _ => exact nomatch h

theorem exists_of_string? {cell : Cell} {v : Value} (h : cell.string? = some v) : ∃ s, v = .string s := by
  cases cell with
  | text | int | float | decimal | bool | uuid => exact ⟨_, (Option.some.inj h).symm⟩
  | _ => exact nomatch h

theorem exists_of_json? {cell : Cell} {v : Value} (h : cell.json? = some v) : ∃ s, v = .string s := by
  cases cell with
  | text | json => exact ⟨_, (Option.some.inj h).symm⟩
  | _ => exact nomatch h

theorem exists_of_uuid? {cell : Cell} {v : Value} (h : cell.uuid? = some v) : ∃ id : Uuid, v = stringValue id.text := by
  cases cell with
  | uuid id => exact ⟨id, (Option.some.inj h).symm⟩
  | text s =>
    obtain ⟨id, -, rfl⟩ := Option.map_eq_some_iff.mp h
    exact ⟨id, rfl⟩
  | _ => exact nomatch h

theorem exists_of_boolean? {cell : Cell} {v : Value} (h : cell.boolean? = some v) : ∃ b, v = .boolean b := by
  cases cell with
  | bool b => exact ⟨b, (Option.some.inj h).symm⟩
  | int n =>
    simp only [boolean?] at h
    split_ifs at h with hzero hone
    · exact ⟨false, (Option.some.inj h).symm⟩
    · exact ⟨true, (Option.some.inj h).symm⟩
  | text s =>
    obtain ⟨b, -, rfl⟩ := Option.map_eq_some_iff.mp h
    exact ⟨b, rfl⟩
  | _ => exact nomatch h

theorem exists_of_date? {cell : Cell} {v : Value} (h : cell.date? = some v) : ∃ d, v = .date d := by
  cases cell with
  | date d => exact ⟨d, (Option.some.inj h).symm⟩
  | text s =>
    obtain ⟨d, -, rfl⟩ := Option.map_eq_some_iff.mp h
    exact ⟨d, rfl⟩
  | _ => exact nomatch h

theorem exists_of_time? {cell : Cell} {v : Value} (h : cell.time? = some v) : ∃ t, v = .time t := by
  cases cell with
  | time t => exact ⟨t, (Option.some.inj h).symm⟩
  | text s =>
    obtain ⟨t, -, rfl⟩ := Option.map_eq_some_iff.mp h
    exact ⟨t, rfl⟩
  | _ => exact nomatch h

theorem exists_of_dateTime? {cell : Cell} {v : Value} (h : cell.dateTime? = some v) : ∃ t, v = .dateTime t := by
  cases cell with
  | timestamp t | timestampTz t => exact ⟨t, (Option.some.inj h).symm⟩
  | text s =>
    obtain ⟨t, -, rfl⟩ := Option.map_eq_some_iff.mp h
    exact ⟨t, rfl⟩
  | _ => exact nomatch h

theorem exists_of_dateTimeUtc? {cell : Cell} {v : Value} (h : cell.dateTimeUtc? = some v) : ∃ t, v = .dateTimeUtc t := by
  cases cell with
  | timestamp t | timestampTz t => exact ⟨t, (Option.some.inj h).symm⟩
  | text s =>
    obtain ⟨t, -, rfl⟩ := Option.map_eq_some_iff.mp h
    exact ⟨t, rfl⟩
  | _ => exact nomatch h

/-- **The values of each type**: what a cell is converted to has the type of the column -/
theorem hasType_of_valueOf? {cell : Cell} {type : ColumnType} {v : Value} (htype : type ∈ ColumnType.textTypes)
    (h : cell.valueOf? type = some v) : v.HasType type := by
  cases type with
  | smallInt | integer | bigInt =>
    obtain ⟨n, rfl⟩ := exists_of_integer? h
    exact .integer (by decide) n
  | numeric =>
    obtain ⟨d, rfl⟩ := exists_of_decimal? h
    exact .decimal d
  | char | varchar | text =>
    obtain ⟨s, rfl⟩ := exists_of_string? h
    exact .string (by decide) s
  | json =>
    obtain ⟨s, rfl⟩ := exists_of_json? h
    exact .string (by decide) s
  | boolean =>
    obtain ⟨b, rfl⟩ := exists_of_boolean? h
    exact .boolean b
  | uuid =>
    obtain ⟨id, rfl⟩ := exists_of_uuid? h
    exact .uuid id
  | date =>
    obtain ⟨d, rfl⟩ := exists_of_date? h
    exact .date d
  | time =>
    obtain ⟨t, rfl⟩ := exists_of_time? h
    exact .time t
  | timestamp =>
    obtain ⟨t, rfl⟩ := exists_of_dateTime? h
    exact .dateTime t
  | timestampTz =>
    obtain ⟨t, rfl⟩ := exists_of_dateTimeUtc? h
    exact .dateTimeUtc t
  | _ => exact absurd htype (by simp [ColumnType.textTypes])

/-! ## Texts of values -/

/-- a text without white space is read as it is -/
theorem trim_of_not_isBlank {s : List Char} (h : ∀ c ∈ s, isBlank c = false) : trim s = s :=
  trim_eq_self (fun c hc => h c (List.mem_of_head? hc)) fun c hc => h c (List.mem_of_getLast? hc)

theorem isBlank_of_mem_dateText {d : Date} {c : Char} (h : c ∈ d.text) : isBlank c = false := by
  rcases Date.mem_text h with hdigit | rfl | rfl
  · exact Whole.isBlank_of_isDigit hdigit
  · decide
  · decide

theorem isBlank_of_mem_timeText {t : Time} {c : Char} (h : c ∈ t.text) : isBlank c = false := by
  rcases Time.mem_text h with hdigit | rfl | rfl
  · exact Whole.isBlank_of_isDigit hdigit
  · decide
  · decide

theorem trim_spacedText (t : DateTime) : trim t.spacedText = t.spacedText := by
  -- there is a space inside, but only the ends count
  have hdate : t.date.text ≠ [] := by simp [Date.text]
  have htime : t.time.text ≠ [] := by simp [Time.text]
  refine trim_eq_self (fun c hc => ?_) fun c hc => ?_
  · rw [DateTime.spacedText, DateTime.textWith, List.head?_append_of_ne_nil _ hdate] at hc
    exact isBlank_of_mem_dateText (List.mem_of_head? hc)
  · rw [DateTime.spacedText, DateTime.textWith, List.append_cons, List.getLast?_append_of_ne_nil _ htime] at hc
    exact isBlank_of_mem_timeText (List.mem_of_getLast? hc)

theorem trim_markedText (t : DateTime) :
    trim (t.markedText ++ "+00:00".toList) = t.markedText ++ "+00:00".toList := by
  have hoffset : ("+00:00".toList.any isBlank) = false := by decide
  refine trim_of_not_isBlank fun c hc => ?_
  simp only [DateTime.markedText, DateTime.textWith, List.mem_append, List.mem_cons] at hc
  rcases hc with (hc | rfl | hc) | hc
  · exact isBlank_of_mem_dateText hc
  · decide
  · exact isBlank_of_mem_timeText hc
  · exact Bool.eq_false_iff.mpr (List.any_eq_false.mp hoffset c hc)

/-! ## Reading keys -/

/-- the text of a value, as the key is made of it -/
theorem toList_key (v : Value) : v.key.toList = v.keyChars := String.toList_ofList

theorem integer?_key (n : Int64) : (text (Value.integer n).key).integer? = some (.integer n) := by
  have hspells := Whole.spells_text n.toInt
  rw [integer?, toList_key, Value.keyChars, trim_of_not_isBlank hspells.isBlank, Whole.int64?_eq_some_iff.mpr hspells,
    Option.map_some]

theorem decimal?_key (d : Decimal) :
    ∃ e, (text (Value.decimal d).key).decimal? = some (.decimal e) ∧ e.toRat = d.toRat := by
  obtain ⟨e, hread, hvalue⟩ := d.ofText?_canonicalText
  refine ⟨e, ?_, hvalue⟩
  rw [decimal?, toList_key, Value.keyChars, trim_of_not_isBlank fun _ => Decimal.isBlank_of_mem_canonicalText, hread,
    Option.map_some]

theorem uuid?_key (id : Uuid) : (text (stringValue id.text).key).uuid? = some (stringValue id.text) := by
  -- the value is a string, so its key is the text of the identifier and not that of another spelling
  have hkey : (stringValue id.text).keyChars = id.text := String.toList_ofList
  rw [uuid?, toList_key, hkey, trim_of_not_isBlank fun _ => Uuid.isBlank_of_mem_text, Uuid.ofText?_text, Option.map_some]

theorem boolean?_key (b : Bool) : (text (Value.boolean b).key).boolean? = some (.boolean b) := by
  cases b <;> decide +kernel

theorem date?_key (d : Date) : (text (Value.date d).key).date? = some (.date d) := by
  rw [date?, toList_key, Value.keyChars, trim_of_not_isBlank fun _ => isBlank_of_mem_dateText, Date.ofText?_text,
    Option.map_some]

theorem time?_key (t : Time) : (text (Value.time t).key).time? = some (.time t) := by
  rw [time?, toList_key, Value.keyChars, trim_of_not_isBlank fun _ => isBlank_of_mem_timeText, Time.ofText?_text,
    Option.map_some]

theorem dateTime?_key (t : DateTime) : (text (Value.dateTime t).key).dateTime? = some (.dateTime t) := by
  rw [dateTime?, toList_key, Value.keyChars, trim_spacedText, DateTime.ofText?_spacedText, Option.map_some]

theorem dateTimeUtc?_key {t : DateTime} (hlow : 0 ≤ t.date.year) (hhigh : t.date.year ≤ 9999) :
    (text (Value.dateTimeUtc t).key).dateTimeUtc? = some (.dateTimeUtc t) := by
  rw [dateTimeUtc?, toList_key, Value.keyChars, trim_markedText, DateTime.universalOfText?_markedText t hlow hhigh,
    Option.map_some]

/-- the text of a string is the string -/
theorem valueOf?_key_string {type : ColumnType} (htype : type ∈ [ColumnType.char, .varchar, .text, .json]) (s : String) :
    (text (Value.string s).key).valueOf? type = some (.string s) := by
  have hkey : (Value.string s).key = s := String.ofList_toList
  rw [hkey]
  simp only [List.mem_cons, List.not_mem_nil, or_false] at htype
  rcases htype with rfl | rfl | rfl | rfl <;> rfl

/-- a value of a type, as a text in a column of the type -/
theorem valueOf?_key {type : ColumnType} {v : Value} (h : v.HasType type)
    (hyear : ∀ t, v = .dateTimeUtc t → 0 ≤ t.date.year ∧ t.date.year ≤ 9999) :
    ∃ w, (text v.key).valueOf? type = some w ∧ w.Equal v := by
  cases h with
  | integer htype n => exact ⟨_, (valueOf?_of_mem_wholeTypes htype _).trans (integer?_key n), .refl _⟩
  | decimal d =>
    obtain ⟨e, hread, hvalue⟩ := decimal?_key d
    exact ⟨.decimal e, hread, hvalue⟩
  | string htype s => exact ⟨_, valueOf?_key_string htype s, .refl _⟩
  | boolean b => exact ⟨_, boolean?_key b, .refl _⟩
  | uuid id => exact ⟨_, uuid?_key id, .refl _⟩
  | date d => exact ⟨_, date?_key d, .refl _⟩
  | time t => exact ⟨_, time?_key t, .refl _⟩
  | dateTime t => exact ⟨_, dateTime?_key t, .refl _⟩
  | dateTimeUtc t =>
    obtain ⟨hlow, hhigh⟩ := hyear t rfl
    have hread := dateTimeUtc?_key hlow hhigh
    exact ⟨_, hread, .refl _⟩

/-- **Texts and typed cells are converted alike.** If a cell in a column has a value, the key of the value as a text in a
column of the same type is converted to an equal value; decimals are compared as numbers. Of moments in universal time this
holds for years of four digits. -/
theorem convert_key {cell : Cell} {type : ColumnType} {v : Value} (htype : type ∈ ColumnType.textTypes)
    (h : cell.convert type = .ok (some v))
    (hyear : ∀ t, v = .dateTimeUtc t → 0 ≤ t.date.year ∧ t.date.year ≤ 9999) :
    ∃ w, (text v.key).convert type = .ok (some w) ∧ w.Equal v := by
  obtain ⟨w, hread, hequal⟩ := valueOf?_key (hasType_of_valueOf? htype (convert_eq_some_iff.mp h)) hyear
  exact ⟨w, convert_eq_some_iff.mpr hread, hequal⟩

/-- the decimal -1.50, the leap second at the end of 2016 in universal time, and an identifier in capitals without hyphens -/
theorem convert_keys_of_leap_second :
    let d : Decimal := ⟨true, 150, 2, by decide, by decide⟩
    let leap : DateTime := ⟨⟨2016, 12, 31, by decide⟩, ⟨23, 59, 60, 500000000, by decide⟩⟩
    let known : Value := .string "550e8400-e29b-41d4-a716-446655440000"
    ((Cell.decimal d).convert .numeric = .ok (some (.decimal d)) ∧ (Value.decimal d).key = "-1.5" ∧
      ∃ w, (text (Value.decimal d).key).convert .numeric = .ok (some w) ∧ w.Equal (.decimal d)) ∧
    ((Cell.timestampTz leap).convert .timestampTz = .ok (some (.dateTimeUtc leap)) ∧
      (0 ≤ leap.date.year ∧ leap.date.year ≤ 9999) ∧
      (Value.dateTimeUtc leap).key = "2016-12-31T23:59:60.500+00:00" ∧
      ∃ w, (text (Value.dateTimeUtc leap).key).convert .timestampTz = .ok (some w) ∧ w.Equal (.dateTimeUtc leap)) ∧
    ((text "550E8400E29B41D4A716446655440000").convert .uuid = .ok (some known) ∧
      ∃ w, (text known.key).convert .uuid = .ok (some w) ∧ w.Equal known) := by
  intro d leap known
  have hd : (Cell.decimal d).convert .numeric = .ok (some (.decimal d)) := rfl
  have hleap : (Cell.timestampTz leap).convert .timestampTz = .ok (some (.dateTimeUtc leap)) := rfl
  have hid : (text "550E8400E29B41D4A716446655440000").convert .uuid = .ok (some known) :=
    convert_eq_some_iff.mpr (by decide +kernel)
  have hyear : 0 ≤ leap.date.year ∧ leap.date.year ≤ 9999 := by decide
  have hyears : ∀ t, Value.dateTimeUtc leap = .dateTimeUtc t → 0 ≤ t.date.year ∧ t.date.year ≤ 9999 := by
    rintro t ⟨⟩
    exact hyear
  have hdRead := convert_key (by decide) hd fun t h => by cases h
  have hleapRead := convert_key (by decide +kernel) hleap hyears
  have hidRead := convert_key (by decide) hid fun t h => by simp [known] at h
  exact ⟨⟨hd, by decide +kernel, hdRead⟩, ⟨hleap, hyear, by decide +kernel, hleapRead⟩, hid, hidRead⟩

/-- a moment in universal time in a year of five digits: its key is not converted to any value -/
theorem universal_of_long_year :
    let t : DateTime := ⟨⟨10000, 1, 1, by decide⟩, Time.midnight⟩
    (Cell.timestampTz t).convert .timestampTz = .ok (some (.dateTimeUtc t)) ∧
      (Value.dateTimeUtc t).key = "+10000-01-01T00:00:00+00:00" ∧
      ∀ w, (text (Value.dateTimeUtc t).key).convert .timestampTz ≠ .ok (some w) := by
  intro t
  have hnone : (text (Value.dateTimeUtc t).key).valueOf? .timestampTz = none := by decide +kernel
  refine ⟨rfl, by decide +kernel, fun w hw => ?_⟩
  rw [convert_eq_some_iff, hnone] at hw
  cases hw

end Cell

end TableGraph
