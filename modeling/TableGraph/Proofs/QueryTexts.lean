/-
The text of a query tells the query. Identifiers may hold any characters, quotes, points, commas and words of SQL among
them, and still none of them can end its own quotes: a quote inside is written twice, and behind the quotes that end an
identifier there is never a third one.

So the text can be read from the left. Each part is told from what follows it by its first character: behind an
identifier by a character that is no quote, behind a list by one that is no comma, behind a number by one that is no digit.

Results:
- `Dialect.quoteChars_append_inj`: an identifier in quotes can be read off the front of a text.
- `TableQuery.projection_append_inj`, `Dialect.quoteTable_append_inj`, `TableQuery.ordering_append_inj`: so can the parts
  of a query that are made of identifiers.
- `TableQuery.rangeClause_eq_iff`: the clause for a range tells the range, up to one limit of one dialect.
- `TableQuery.sql_eq_iff`: when two queries of a dialect have the same text.
Witness:
- `TableQuery.sql_of_smuggled_columns`: an identifier that contains the end of a query, and the limit that looks like none.
-/
import Mathlib.Tactic
import TableGraph.Proofs.Numerals
import TableGraph.Proofs.QualifiedNames
import TableGraph.Sql.Query

namespace TableGraph

/-- a text does not start with any of some characters -/
def StartsWithout (stops : List Char) (s : List Char) : Prop := ∀ c ∈ s.head?, c ∉ stops

theorem startsWithout_nil (stops : List Char) : StartsWithout stops [] := nofun

theorem startsWithout_cons {stops : List Char} {c : Char} {s : List Char} :
    StartsWithout stops (c :: s) ↔ c ∉ stops := by
  simp [StartsWithout]

/-! ## Identifiers -/

namespace Dialect

/-- the characters of a name with every mark written twice -/
def doubled (mark : Char) (name : List Char) : List Char := name.flatMap fun c => if c = mark then [mark, mark] else [c]

theorem quoteChars_eq (mark : Char) (name : List Char) : quoteChars mark name = mark :: (doubled mark name ++ [mark]) := rfl

/-- what stands before the closing mark is told from what stands behind it -/
theorem doubled_append_inj {mark : Char} {s t x y : List Char} (hx : StartsWithout [mark] x) (hy : StartsWithout [mark] y)
    (h : doubled mark s ++ mark :: x = doubled mark t ++ mark :: y) : s = t ∧ x = y := by
  -- a closing mark against a further character: the character is a mark, and behind the closing one there is another
  have hclosed {x z : List Char} (c : Char) (t : List Char) (hx : StartsWithout [mark] x) :
      mark :: x ≠ doubled mark (c :: t) ++ z := by
    intro h
    by_cases hc : c = mark
    · simp only [doubled, List.flatMap_cons, if_pos hc, List.cons_append, List.cons.injEq, true_and] at h
      rw [h] at hx
      exact startsWithout_cons.mp hx List.mem_cons_self
    · simp only [doubled, List.flatMap_cons, if_neg hc, List.cons_append, List.cons.injEq] at h
      exact hc h.1.symm
  induction s generalizing t with
  | nil =>
    cases t with
    | nil => exact ⟨rfl, (List.cons.inj h).2⟩
    | cons d t => exact absurd h (hclosed d t hx)
  | cons c s ih =>
    cases t with
    | nil => exact absurd h.symm (hclosed c s hy)
    | cons d t =>
      have hhead : c = d ∧ doubled mark s ++ mark :: x = doubled mark t ++ mark :: y := by
        simp only [doubled, List.flatMap_cons] at h ⊢
        by_cases hc : c = mark <;> by_cases hd : d = mark <;> simp_all
      obtain ⟨rfl, hrest⟩ := hhead
      obtain ⟨rfl, rfl⟩ := ih hrest
      exact ⟨rfl, rfl⟩

/-- **Identifiers cannot break out of their quotes**: in front of anything but another mark, a quoted identifier is told
from what follows -/
theorem quoteChars_append_inj {mark : Char} {s t x y : List Char} (hx : StartsWithout [mark] x)
    (hy : StartsWithout [mark] y) (h : quoteChars mark s ++ x = quoteChars mark t ++ y) : s = t ∧ x = y := by
  simp only [quoteChars_eq, List.cons_append, List.append_assoc, List.nil_append, List.cons.injEq, true_and] at h
  exact doubled_append_inj hx hy h

/-- identifiers in quotes, separated by commas -/
def quoteList (dialect : Dialect) (names : List String) : List Char :=
  [',', ' '].intercalate (names.map fun name => quoteChars dialect.quoteMark name.toList)

/-- a quote is none of the characters that stand between identifiers -/
theorem quoteMark_not_mem (dialect : Dialect) : dialect.quoteMark ∉ [',', '.', ' ', '*'] := by
  cases dialect <;> decide

theorem startsWithout_quoteMark (dialect : Dialect) {c : Char} (hc : c ∈ [',', '.', ' ', '*']) (s : List Char) :
    StartsWithout [dialect.quoteMark] (c :: s) :=
  startsWithout_cons.mpr fun h => dialect.quoteMark_not_mem (List.mem_singleton.mp h ▸ hc)

/-- what follows the first identifier of a list: the others, behind a comma, and then what follows the list -/
def afterFirst (dialect : Dialect) (others : List String) (rest : List Char) : List Char :=
  match others with
  | [] => rest
  | name :: others => ',' :: ' ' :: (dialect.quoteList (name :: others) ++ rest)

theorem quoteList_cons_append (dialect : Dialect) (name : String) (others : List String) (rest : List Char) :
    dialect.quoteList (name :: others) ++ rest =
      quoteChars dialect.quoteMark name.toList ++ dialect.afterFirst others rest := by
  cases others with
  | nil => simp [quoteList, afterFirst]
  | cons next others => simp [quoteList, afterFirst, List.intercalate_cons_cons]

theorem startsWithout_afterFirst (dialect : Dialect) (others : List String) {rest : List Char}
    (hrest : StartsWithout [dialect.quoteMark] rest) : StartsWithout [dialect.quoteMark] (dialect.afterFirst others rest) := by
  cases others with
  | nil => exact hrest
  | cons name others => exact dialect.startsWithout_quoteMark (by decide) _

/-- **Lists of identifiers**: in front of anything but a quote or a comma, a list is told from what follows -/
theorem quoteList_append_inj (dialect : Dialect) {names names' : List String} {x y : List Char} (hnames : names ≠ [])
    (hnames' : names' ≠ []) (hx : StartsWithout [dialect.quoteMark] x) (hy : StartsWithout [dialect.quoteMark] y)
    (hcomma : StartsWithout [','] x) (hcomma' : StartsWithout [','] y)
    (h : dialect.quoteList names ++ x = dialect.quoteList names' ++ y) : names = names' ∧ x = y := by
  induction names generalizing names' with
  | nil => exact absurd rfl hnames
  | cons name others ih =>
    obtain ⟨name', others', rfl⟩ := List.exists_cons_of_ne_nil hnames'
    rw [quoteList_cons_append, quoteList_cons_append] at h
    obtain ⟨hname, hafter⟩ := quoteChars_append_inj (dialect.startsWithout_afterFirst others hx)
      (dialect.startsWithout_afterFirst others' hy) h
    obtain rfl := String.toList_injective hname
    cases others with
    | nil =>
      cases others' with
      | nil => exact ⟨rfl, hafter⟩
      | cons =>
        subst hafter
        exact absurd List.mem_cons_self (startsWithout_cons.mp hcomma)
    | cons =>
      cases others' with
      | nil =>
        subst hafter
        exact absurd List.mem_cons_self (startsWithout_cons.mp hcomma')
      | cons =>
        simp only [afterFirst, List.cons.injEq, true_and] at hafter
        obtain ⟨hothers, rfl⟩ := ih (List.cons_ne_nil _ _) (List.cons_ne_nil _ _) hafter
        exact ⟨congrArg _ hothers, rfl⟩

/-- the same for lists in whose place another text stands if they are empty, one that does not start with a quote -/
theorem quoteListOr_append_inj (dialect : Dialect) {c : Char} {other : List Char} (hc : c ≠ dialect.quoteMark)
    {names names' : List String} {x y : List Char} (hx : StartsWithout [dialect.quoteMark] x)
    (hy : StartsWithout [dialect.quoteMark] y) (hcomma : StartsWithout [','] x) (hcomma' : StartsWithout [','] y)
    (h : (if names.isEmpty then c :: other else dialect.quoteList names) ++ x =
      (if names'.isEmpty then c :: other else dialect.quoteList names') ++ y) : names = names' ∧ x = y := by
  have hother (name : String) (others : List String) (x y : List Char) :
      c :: other ++ x ≠ dialect.quoteList (name :: others) ++ y := by
    rw [quoteList_cons_append, quoteChars_eq]
    exact fun h => hc (List.cons.inj h).1
  cases names with
  | nil =>
    cases names' with
    | nil => exact ⟨rfl, List.append_cancel_left h⟩
    | cons name' others' => exact absurd h (hother name' others' x y)
  | cons name others =>
    cases names' with
    | nil => exact absurd h.symm (hother name others y x)
    | cons name' others' =>
      exact dialect.quoteList_append_inj (List.cons_ne_nil _ _) (List.cons_ne_nil _ _) hx hy hcomma hcomma' h

theorem toList_quote (dialect : Dialect) (name : String) :
    (dialect.quote name).toList = quoteChars dialect.quoteMark name.toList :=
  String.toList_ofList

theorem toList_quoted (dialect : Dialect) (names : List String) :
    (", ".intercalate (names.map dialect.quote)).toList = dialect.quoteList names := by
  rw [String.toList_intercalate, List.map_map, quoteList]
  refine congrArg₂ _ rfl (List.map_congr_left fun name _ => dialect.toList_quote name)

/-- **Names of tables**: in front of anything but a quote or a point, a table is told from what follows -/
theorem quoteTable_append_inj (dialect : Dialect) {table table' : TableName} {x y : List Char}
    (hx : StartsWithout [dialect.quoteMark] x) (hy : StartsWithout [dialect.quoteMark] y)
    (hpoint : StartsWithout ['.'] x) (hpoint' : StartsWithout ['.'] y)
    (h : (dialect.quoteTable table).toList ++ x = (dialect.quoteTable table').toList ++ y) :
    table.Same table' ∧ x = y := by
  have hbehind (s : List Char) := dialect.startsWithout_quoteMark (c := '.') (by decide) s
  have hqualified (schema name : String) (x : List Char) :
      (dialect.quote schema ++ "." ++ dialect.quote name).toList ++ x =
        quoteChars dialect.quoteMark schema.toList ++ '.' :: (quoteChars dialect.quoteMark name.toList ++ x) := by
    simp [toList_quote]
  unfold quoteTable at h
  cases hschema : table.schema? with
  | none =>
    cases hschema' : table'.schema? with
    | none =>
      simp only [hschema, hschema', toList_quote] at h
      obtain ⟨hname, rfl⟩ := quoteChars_append_inj hx hy h
      exact ⟨⟨hschema.trans hschema'.symm, String.toList_injective hname⟩, rfl⟩
    | some schema' =>
      simp only [hschema, hschema', toList_quote, hqualified] at h
      obtain ⟨-, rfl⟩ := quoteChars_append_inj hx (hbehind _) h
      exact absurd List.mem_cons_self (startsWithout_cons.mp hpoint)
  | some schema =>
    cases hschema' : table'.schema? with
    | none =>
      simp only [hschema, hschema', toList_quote, hqualified] at h
      obtain ⟨-, rfl⟩ := quoteChars_append_inj (hbehind _) hy h
      exact absurd List.mem_cons_self (startsWithout_cons.mp hpoint')
    | some schema' =>
      simp only [hschema, hschema', hqualified] at h
      obtain ⟨hschemas, hnames⟩ := quoteChars_append_inj (hbehind _) (hbehind _) h
      obtain ⟨hname, rfl⟩ := quoteChars_append_inj hx hy (List.cons.inj hnames).2
      exact ⟨⟨by rw [hschema, hschema', String.toList_injective hschemas], String.toList_injective hname⟩, rfl⟩

end Dialect

/-! ## Ranges -/

namespace TableQuery

/-- limits that a range clause does not tell apart: the same, or none and the limit that stands for none -/
def LimitsAlike (dialect : Dialect) (limit limit' : Option Nat) : Prop :=
  limit = limit' ∨
    dialect = .mysql ∧ (limit = none ∧ limit' = some (2 ^ 64 - 1) ∨ limit = some (2 ^ 64 - 1) ∧ limit' = none)

/-- how a limit is asked for in front of an offset -/
def limitText (dialect : Dialect) : Option Nat → String
  | some limit => " LIMIT " ++ numeral limit
  | none =>
    match dialect with
    | .mysql => " LIMIT 18446744073709551615"
    | .sqlite => " LIMIT -1"
    | _ => ""

/-- how a limit is asked for behind an offset -/
def fetchText : Option Nat → String
  | some limit => " ROWS FETCH NEXT " ++ (numeral limit ++ " ROWS ONLY")
  | none => " ROWS"

theorem rangeClause_limitOffset {dialect : Dialect} (h : dialect.pagination = .limitOffset) (range : RowRange) :
    rangeClause dialect range = limitText dialect range.limit ++ " OFFSET " ++ numeral range.offset := by
  obtain ⟨offset, limit⟩ := range
  unfold rangeClause
  cases limit with
  | some limit => simp only [h, limitText]
  | none =>
    cases dialect with
    | sqlServer | oracle | derby => exact nomatch h
    | postgresql | h2 => simp only [Dialect.pagination, limitText, String.empty_append]
    | mysql | sqlite => rfl

theorem rangeClause_offsetFetch {dialect : Dialect} (h : dialect.pagination = .offsetFetch) (range : RowRange) :
    rangeClause dialect range = " OFFSET " ++ numeral range.offset ++ fetchText range.limit := by
  obtain ⟨offset, limit⟩ := range
  unfold rangeClause
  cases limit with
  | none =>
    simp only [h]
    rfl
  | some limit =>
    have hfetch : fetchText (some limit) = " ROWS FETCH NEXT " ++ (numeral limit ++ " ROWS ONLY") := rfl
    simp only [h]
    rw [hfetch, ← String.append_assoc, ← String.append_assoc]

/-- on the dialect whose offsets need a limit, none is asked for as the largest number of 64 bits -/
theorem limitText_mysql_none : limitText .mysql none = limitText .mysql (some (2 ^ 64 - 1)) := by
  have hdigits : Digits.ofNat (2 ^ 64 - 1) = "18446744073709551615".toList := by decide +kernel
  have hnumeral : numeral (2 ^ 64 - 1) = "18446744073709551615" := by rw [numeral, hdigits, String.ofList_toList]
  have hsome (n : Nat) : limitText .mysql (some n) = " LIMIT " ++ numeral n := rfl
  have htext : " LIMIT " ++ "18446744073709551615" = limitText .mysql none := by decide +kernel
  rw [hsome, hnumeral, htext]

/-- a limit in front of an offset is told from it -/
theorem limitText_append_inj {dialect : Dialect} {limit limit' : Option Nat} {x y : List Char}
    (h : (limitText dialect limit).toList ++ (" OFFSET ".toList ++ x) =
      (limitText dialect limit').toList ++ (" OFFSET ".toList ++ y)) :
    LimitsAlike dialect limit limit' ∧ x = y := by
  have hoffset (x : List Char) : " OFFSET ".toList ++ x = ' ' :: 'O' :: ("FFSET ".toList ++ x) := rfl
  have hlimit (n : Nat) (x : List Char) : (limitText dialect (some n)).toList ++ (" OFFSET ".toList ++ x) =
      ' ' :: 'L' :: ("IMIT ".toList ++ (Digits.ofNat n ++ ' ' :: 'O' :: ("FFSET ".toList ++ x))) := by
    simp only [limitText, numeral, String.toList_append, String.toList_ofList, List.append_assoc]
    rfl
  have hboth {n m : Nat} {x y : List Char} (h : (limitText dialect (some n)).toList ++ (" OFFSET ".toList ++ x) =
      (limitText dialect (some m)).toList ++ (" OFFSET ".toList ++ y)) : n = m ∧ x = y := by
    simp only [hlimit, List.cons.injEq, true_and, List.append_cancel_left_eq] at h
    obtain ⟨rfl, h⟩ := Digits.ofNat_append_inj (Digits.ended_cons (by decide) _) (Digits.ended_cons (by decide) _) h
    simp only [List.cons.injEq, true_and, List.append_cancel_left_eq] at h
    exact ⟨rfl, h⟩
  have hone {n : Nat} {x y : List Char} (h : (limitText dialect (some n)).toList ++ (" OFFSET ".toList ++ x) =
      (limitText dialect none).toList ++ (" OFFSET ".toList ++ y)) : dialect = .mysql ∧ n = 2 ^ 64 - 1 ∧ x = y := by
    cases dialect with
    | mysql =>
      rw [limitText_mysql_none] at h
      exact ⟨rfl, hboth h⟩
    | sqlite =>
      rw [hlimit] at h
      have hsign : (limitText .sqlite none).toList = ' ' :: 'L' :: ("IMIT ".toList ++ ['-', '1']) := rfl
      simp only [hsign, List.cons_append, List.append_assoc, List.cons.injEq, true_and, List.append_cancel_left_eq] at h
      obtain ⟨c, digits, hdigits⟩ := List.exists_cons_of_ne_nil (List.ne_nil_of_length_pos (Digits.length_ofNat_pos n))
      have hdigit : c.isDigit = true := Digits.isDigit_of_mem_ofNat (hdigits ▸ List.mem_cons_self)
      rw [hdigits, List.cons_append] at h
      exact absurd (hdigit.symm.trans (congrArg Char.isDigit (List.cons.inj h).1)) (by decide)
    | postgresql | h2 | sqlServer | oracle | derby =>
      rw [hlimit, hoffset] at h
      exact absurd (List.cons.inj (List.cons.inj h).2).1 (by decide)
  cases limit with
  | none =>
    cases limit' with
    | none =>
      simp only [List.append_cancel_left_eq] at h
      exact ⟨.inl rfl, h⟩
    | some m =>
      obtain ⟨hdialect, rfl, rfl⟩ := hone h.symm
      exact ⟨.inr ⟨hdialect, .inl ⟨rfl, rfl⟩⟩, rfl⟩
  | some n =>
    cases limit' with
    | none =>
      obtain ⟨hdialect, rfl, rfl⟩ := hone h
      exact ⟨.inr ⟨hdialect, .inr ⟨rfl, rfl⟩⟩, rfl⟩
    | some m =>
      obtain ⟨rfl, rfl⟩ := hboth h
      exact ⟨.inl rfl, rfl⟩

theorem toList_fetchText_none : (fetchText none).toList = " ROWS".toList ++ [] := rfl

theorem toList_fetchText_some (limit : Nat) : (fetchText (some limit)).toList =
    " ROWS".toList ++ ' ' :: ("FETCH NEXT ".toList ++ (Digits.ofNat limit ++ " ROWS ONLY".toList)) := by
  have htext : fetchText (some limit) = " ROWS FETCH NEXT " ++ (numeral limit ++ " ROWS ONLY") := rfl
  rw [htext, String.toList_append, String.toList_append, numeral, String.toList_ofList (l := Digits.ofNat limit)]
  rfl

theorem exists_fetchText (limit : Option Nat) : ∃ rest, (fetchText limit).toList = ' ' :: rest := by
  cases limit with
  | none => exact ⟨_, toList_fetchText_none⟩
  | some limit => exact ⟨_, toList_fetchText_some limit⟩

/-- a limit behind an offset is told from there being none -/
theorem fetchText_injective : Function.Injective fetchText := by
  intro limit limit' h
  replace h := congrArg String.toList h
  cases limit with
  | none =>
    cases limit' with
    | none => rfl
    | some m =>
      rw [toList_fetchText_none, toList_fetchText_some, List.append_cancel_left_eq] at h
      exact nomatch h
  | some n =>
    cases limit' with
    | none =>
      rw [toList_fetchText_none, toList_fetchText_some, List.append_cancel_left_eq] at h
      exact nomatch h
    | some m =>
      rw [toList_fetchText_some, toList_fetchText_some, List.append_cancel_left_eq, List.cons.injEq,
        List.append_cancel_left_eq, List.append_cancel_right_eq] at h
      exact congrArg some (Digits.ofNat_injective h.2)

theorem rangeClause_inj {dialect : Dialect} {range range' : RowRange}
    (h : rangeClause dialect range = rangeClause dialect range') :
    range.offset = range'.offset ∧ LimitsAlike dialect range.limit range'.limit := by
  replace h := congrArg String.toList h
  cases hpagination : dialect.pagination with
  | limitOffset =>
    rw [rangeClause_limitOffset hpagination, rangeClause_limitOffset hpagination] at h
    simp only [numeral, String.toList_append, String.toList_ofList, List.append_assoc] at h
    obtain ⟨hlimit, hoffset⟩ := limitText_append_inj h
    exact ⟨Digits.ofNat_injective hoffset, hlimit⟩
  | offsetFetch =>
    have hbehind (limit : Option Nat) : Digits.Ended (fetchText limit).toList := by
      obtain ⟨rest, hrest⟩ := exists_fetchText limit
      rw [hrest]
      exact Digits.ended_cons (by decide) rest
    rw [rangeClause_offsetFetch hpagination, rangeClause_offsetFetch hpagination] at h
    simp only [numeral, String.toList_append, String.toList_ofList, List.append_assoc, List.append_cancel_left_eq] at h
    obtain ⟨hoffset, hlimit⟩ := Digits.ofNat_append_inj (hbehind _) (hbehind _) h
    exact ⟨hoffset, .inl (fetchText_injective (String.toList_injective hlimit))⟩

/-- **Clauses for ranges** tell the range, except that on one dialect a limit stands for none -/
theorem rangeClause_eq_iff {dialect : Dialect} {range range' : RowRange} :
    rangeClause dialect range = rangeClause dialect range' ↔
      range.offset = range'.offset ∧ LimitsAlike dialect range.limit range'.limit := by
  refine ⟨rangeClause_inj, ?_⟩
  obtain ⟨offset, limit⟩ := range
  obtain ⟨offset', limit'⟩ := range'
  rintro ⟨rfl, rfl | ⟨rfl, ⟨rfl, rfl⟩ | ⟨rfl, rfl⟩⟩⟩
  · rfl
  · rw [rangeClause_limitOffset rfl, rangeClause_limitOffset rfl, limitText_mysql_none]
  · rw [rangeClause_limitOffset rfl, rangeClause_limitOffset rfl, limitText_mysql_none]

/-- a clause for a range starts with a space -/
theorem exists_rangeClause (dialect : Dialect) (range : RowRange) :
    ∃ rest, (rangeClause dialect range).toList = ' ' :: rest := by
  cases hpagination : dialect.pagination with
  | limitOffset =>
    have hlimit : ∃ rest, (limitText dialect range.limit).toList ++ " OFFSET ".toList = ' ' :: rest := by
      cases range.limit with
      | none => cases dialect <;> exact ⟨_, rfl⟩
      | some limit =>
        rw [limitText, String.toList_append]
        exact ⟨_, rfl⟩
    obtain ⟨rest, hrest⟩ := hlimit
    rw [rangeClause_limitOffset hpagination, String.toList_append, String.toList_append, hrest]
    exact ⟨_, rfl⟩
  | offsetFetch =>
    rw [rangeClause_offsetFetch hpagination, String.toList_append, String.toList_append]
    exact ⟨_, rfl⟩

/-! ## Queries -/

/-- the same range of the same rows: no range of either query, or ranges with one order, one offset and limits that are
alike -/
def SameRange (a b : TableQuery) : Option RowRange → Option RowRange → Prop
  | none, none => True
  | some range, some range' =>
    a.orderBy = b.orderBy ∧ range.offset = range'.offset ∧ LimitsAlike a.dialect range.limit range'.limit
  | _, _ => False

/-- the columns of a result, as characters -/
theorem toList_projection (query : TableQuery) :
    query.projection.toList = if query.columns.isEmpty then ['*'] else query.dialect.quoteList query.columns := by
  unfold projection
  split
  · rfl
  · exact query.dialect.toList_quoted query.columns

/-- the columns that order the rows, as characters; without any there are numbers, of which the first is one -/
theorem exists_ordering (count : Nat) : ∃ others, ∀ query : TableQuery, query.columns.length = count →
    query.ordering.toList =
      if query.orderBy.isEmpty then '1' :: others else query.dialect.quoteList query.orderBy := by
  have hfirst : List.range (max count 1) = 0 :: (List.range (max count 1 - 1)).map Nat.succ := by
    rw [← List.range_succ_eq_map, Nat.sub_add_cancel (le_max_right count 1)]
  obtain ⟨others, hothers⟩ : ∃ others,
      (", ".intercalate ((List.range (max count 1)).map fun k => numeral (k + 1))).toList = '1' :: others := by
    have hone : (numeral (0 + 1)).toList = ['1'] := by decide +kernel
    rw [hfirst, List.map_cons, String.toList_intercalate, List.map_cons, hone]
    cases List.map String.toList (List.map _ ((List.range (max count 1 - 1)).map Nat.succ)) with
    | nil => exact ⟨[], rfl⟩
    | cons next others => exact ⟨_, List.intercalate_cons_cons⟩
  refine ⟨others, fun query hcount => ?_⟩
  unfold ordering
  split
  · rw [hcount, hothers]
  · exact query.dialect.toList_quoted query.orderBy

/-- what a query asks for behind the name of its table -/
def rangeText (query : TableQuery) : Option RowRange → List Char
  | none => []
  | some range => ' ' :: ("ORDER BY ".toList ++ (query.ordering.toList ++ (rangeClause query.dialect range).toList))

theorem toList_sql (query : TableQuery) (range : Option RowRange) : (query.sql range).toList =
    "SELECT ".toList ++ (query.projection.toList ++
      ' ' :: ("FROM ".toList ++ ((query.dialect.quoteTable query.source).toList ++ query.rangeText range))) := by
  have hfrom : " FROM ".toList = ' ' :: "FROM ".toList := rfl
  have horder : " ORDER BY ".toList = ' ' :: "ORDER BY ".toList := rfl
  have hselect (s : List Char) :
      ("SELECT " ++ query.projection ++ " FROM " ++ query.dialect.quoteTable query.source).toList ++ s =
        "SELECT ".toList ++ (query.projection.toList ++
          ' ' :: ("FROM ".toList ++ ((query.dialect.quoteTable query.source).toList ++ s))) := by
    rw [String.toList_append, String.toList_append, String.toList_append, List.append_assoc, List.append_assoc,
      List.append_assoc, hfrom, List.cons_append]
  rw [← hselect]
  cases range with
  | none => exact (List.append_nil _).symm
  | some range =>
    unfold sql rangeText
    rw [String.toList_append, String.toList_append, String.toList_append, List.append_assoc, List.append_assoc, horder,
      List.cons_append]

/-- what is asked for behind the name of a table tells the range and, if there is one, the order -/
theorem rangeText_inj {a b : TableQuery} (hdialect : a.dialect = b.dialect) (hcolumns : a.columns = b.columns)
    {range range' : Option RowRange} (h : a.rangeText range = b.rangeText range') :
    SameRange a b range range' := by
  cases range with
  | none =>
    cases range' with
    | none => trivial
    | some range' => exact nomatch h
  | some range =>
    cases range' with
    | none => exact nomatch h
    | some range' =>
      obtain ⟨rest, hrest⟩ := exists_rangeClause b.dialect range
      obtain ⟨rest', hrest'⟩ := exists_rangeClause b.dialect range'
      obtain ⟨others, hordering⟩ := exists_ordering b.columns.length
      have hclauses := List.append_cancel_left (List.cons.inj h).2
      rw [hordering a (by rw [hcolumns]), hordering b rfl, hdialect, hrest, hrest'] at hclauses
      obtain ⟨horder, hclause⟩ := b.dialect.quoteListOr_append_inj (by cases b.dialect <;> decide)
        (b.dialect.startsWithout_quoteMark (by decide) _) (b.dialect.startsWithout_quoteMark (by decide) _)
        (startsWithout_cons.mpr (by decide)) (startsWithout_cons.mpr (by decide)) hclauses
      rw [← hrest, ← hrest'] at hclause
      obtain ⟨hoffset, hlimit⟩ := rangeClause_eq_iff.mp (String.toList_injective hclause)
      exact ⟨horder, hoffset, hdialect ▸ hlimit⟩

/-- **The text of a query tells the query.** Two queries of one dialect, over tables and columns of any names, have the
same text for some ranges exactly if they ask for the same columns of the same table, where an empty schema is the same as
none, and if neither asks for a range or both ask for one in the same order, with the same offset and with the same limit.
Only on the dialect whose offsets need a limit there is a number that stands for no limit. -/
theorem sql_eq_iff {a b : TableQuery} (hdialect : a.dialect = b.dialect) (range range' : Option RowRange) :
    a.sql range = b.sql range' ↔
      a.columns = b.columns ∧ a.source.Same b.source ∧ SameRange a b range range' := by
  constructor
  · intro h
    have htext := congrArg String.toList h
    rw [toList_sql, toList_sql, List.append_cancel_left_eq, toList_projection, toList_projection, hdialect] at htext
    obtain ⟨hcolumns, hfrom⟩ := b.dialect.quoteListOr_append_inj (by cases b.dialect <;> decide)
      (b.dialect.startsWithout_quoteMark (by decide) _) (b.dialect.startsWithout_quoteMark (by decide) _)
      (startsWithout_cons.mpr (by decide)) (startsWithout_cons.mpr (by decide)) htext
    have hbehind (query : TableQuery) (range : Option RowRange) :
        StartsWithout [b.dialect.quoteMark] (query.rangeText range) ∧ StartsWithout ['.'] (query.rangeText range) := by
      cases range with
      | none => exact ⟨startsWithout_nil _, startsWithout_nil _⟩
      | some range =>
        exact ⟨b.dialect.startsWithout_quoteMark (by decide) _, startsWithout_cons.mpr (by decide)⟩
    obtain ⟨hsource, hrange⟩ := b.dialect.quoteTable_append_inj (hbehind a range).1 (hbehind b range').1
      (hbehind a range).2 (hbehind b range').2 (List.append_cancel_left (List.cons.inj hfrom).2)
    exact ⟨hcolumns, hsource, rangeText_inj hdialect hcolumns hrange⟩
  · rintro ⟨hcolumns, ⟨hschema, hname⟩, hrange⟩
    have hprojection : a.projection = b.projection := by rw [projection, projection, hcolumns, hdialect]
    have htable : a.dialect.quoteTable a.source = b.dialect.quoteTable b.source := by
      rw [Dialect.quoteTable, Dialect.quoteTable, hschema, hname, hdialect]
    have htext : a.rangeText range = b.rangeText range' := by
      cases range with
      | none =>
        cases range' with
        | none => rfl
        | some range' => exact hrange.elim
      | some range =>
        cases range' with
        | none => exact hrange.elim
        | some range' =>
          obtain ⟨horder, hoffset, hlimit⟩ := hrange
          have hordering : a.ordering = b.ordering := by rw [ordering, ordering, hcolumns, horder, hdialect]
          rw [rangeText, rangeText, hordering, rangeClause_eq_iff.mpr ⟨hoffset, hlimit⟩, hdialect]
    refine String.toList_injective ?_
    rw [toList_sql, toList_sql, hprojection, htable, htext]

/-- a column whose name holds the rest of another query does not give that query, and on the dialect whose offsets need a
limit the largest number of 64 bits is asked for as no limit is -/
theorem sql_of_smuggled_columns :
    let plain : TableQuery := ⟨⟨none, "secret"⟩, ["id"], ["id"], .postgresql⟩
    let smuggled : TableQuery := ⟨⟨none, "note"⟩, ["id\" FROM \"secret"], ["id"], .postgresql⟩
    let whole : TableQuery := ⟨⟨none, "a\x60.\x60b"⟩, ["id"], ["id", "\x60"], .mysql⟩
    let also : TableQuery := ⟨⟨some "", "a\x60.\x60b"⟩, ["id"], ["id", "\x60"], .mysql⟩
    (plain.dialect = smuggled.dialect ∧ plain.sql none ≠ smuggled.sql none) ∧
      whole.dialect = also.dialect ∧ whole.sql (some ⟨7, none⟩) = also.sql (some ⟨7, some (2 ^ 64 - 1)⟩) := by
  intro plain smuggled whole also
  refine ⟨⟨rfl, fun h => ?_⟩, rfl, ?_⟩
  · obtain ⟨hcolumns, -, -⟩ := (sql_eq_iff (a := plain) (b := smuggled) rfl none none).mp h
    exact absurd hcolumns (by decide)
  · exact (sql_eq_iff rfl (some ⟨7, none⟩) (some ⟨7, some (2 ^ 64 - 1)⟩)).mpr
      ⟨rfl, ⟨rfl, rfl⟩, rfl, rfl, .inr ⟨rfl, .inl ⟨rfl, rfl⟩⟩⟩

end TableQuery

end TableGraph
