/-
JSON documents are read back from their texts.

Both forms of a text, on one line and over several, come from one printer, which is told what to write where a line may end
and after a colon. As long as that is white space, the reader gives the document back. A document is read back with its
numbers as they are written, so they have to be numbers (`Proper`).

Results:
- `Json.stringRest?_escaped`: a string is read back, whatever its characters.
- `Json.reads_written`: a document is read back, in any layout.
- `Json.ofText?_compact`, `Json.ofText?_pretty`: so is it from either of its texts, with white space after it or without.
-/
import TableGraph.Json.Printer
import TableGraph.Proofs.JsonNumbers
import TableGraph.Proofs.UuidReading

namespace TableGraph.Json

/-! ## White space -/

/-- white space of JSON -/
def isSpace (c : Char) : Bool := c == ' ' || c == '\t' || c == '\n' || c == '\r'

/-- nothing but white space -/
def IsBlank (s : List Char) : Prop := ∀ c ∈ s, isSpace c = true

theorem isBlank_nil : IsBlank [] := nofun

variable {space rest s : List Char} {c : Char} {steps : Nat}

theorem skipSpace_append (h : IsBlank space) (s : List Char) : skipSpace (space ++ s) = skipSpace s :=
  List.dropWhile_append_of_pos h

theorem skipSpace_cons (h : isSpace c = false) (s : List Char) : skipSpace (c :: s) = c :: s :=
  List.dropWhile_cons_of_neg (Bool.eq_false_iff.mp h)

theorem skipSpace_eq_nil (h : IsBlank s) : skipSpace s = [] := by
  rw [← List.append_nil s, skipSpace_append h]
  rfl

/-- white space ends a number -/
theorem endsNumber_append (h : IsBlank space) (hrest : EndsNumber rest) : EndsNumber (space ++ rest) := by
  cases space with
  | nil => exact hrest
  | cons c space =>
    rintro d ⟨⟩
    have hc : isSpace c = true := h c List.mem_cons_self
    simp only [isSpace, Bool.or_eq_true, beq_iff_eq] at hc
    rcases hc with ((rfl | rfl) | rfl) | rfl <;> decide

theorem endsNumber_cons (h : c ∈ [',', ']', '\x7d']) (rest : List Char) : EndsNumber (c :: rest) := by
  rintro d ⟨⟩
  simp only [List.mem_cons, List.not_mem_nil, or_false] at h
  rcases h with rfl | rfl | rfl <;> decide

/-! ## Strings -/

/-- a code of four hexadecimal digits -/
theorem codeUnit?_hexPadded {n : Nat} (h : n < 16 ^ 4) (rest : List Char) :
    codeUnit? (Digits.hexPadded 4 n ++ rest) = some (n, rest) := by
  obtain ⟨digits, hread, hvalue⟩ := Digits.readsHex_hexPadded 4 n
  obtain ⟨a, b, c, d, hcode⟩ := List.length_eq_four.mp (Digits.length_hexPadded (by decide) h)
  rw [hcode] at hread
  simp only [hcode, List.cons_append, List.nil_append, codeUnit?, hread, Option.map_some, hvalue]

/-- **A character** is read back -/
theorem stringRest?_escapedChar (c : Char) (steps : Nat) (s : List Char) :
    stringRest? (steps + 1) (escapedChar c ++ s) = (stringRest? steps s).map fun (more, rest) => (c :: more, rest) := by
  have hescape {escape : List Char} (h : escape? (escape ++ s) = some (c, s)) :
      stringRest? (steps + 1) ('\\' :: escape ++ s) = (stringRest? steps s).map fun (more, rest) => (c :: more, rest) := by
    rw [List.cons_append, stringRest?, if_neg (by decide), if_pos rfl, h, Option.bind_eq_bind, Option.bind_some]
    dsimp only
    cases stringRest? steps s <;> rfl
  unfold escapedChar
  split_ifs with hquote hbackslash hbackspace hfeed hline hreturn htab hcontrol
  · subst hquote; exact hescape rfl
  · subst hbackslash; exact hescape rfl
  · subst hbackspace; exact hescape rfl
  · subst hfeed; exact hescape rfl
  · subst hline; exact hescape rfl
  · subst hreturn; exact hescape rfl
  · subst htab; exact hescape rfl
  · have hcode := codeUnit?_hexPadded (by omega : c.toNat < 16 ^ 4) s
    have hread : escape? ('u' :: Digits.hexPadded 4 c.toNat ++ s) = some (c, s) := by
      rw [List.cons_append, escape?, hcode]
      simp only [Option.bind_eq_bind, Option.bind_some]
      rw [if_neg (by omega), if_neg (by omega), Char.ofNat_toNat]
      rfl
    exact hescape hread
  · rw [List.singleton_append, stringRest?, if_neg hquote, if_neg hbackslash, if_neg hcontrol]
    cases stringRest? steps s <;> rfl

/-- **A string is read back**, whatever its characters -/
theorem stringRest?_escaped {text : List Char} (hsteps : text.length < steps) (rest : List Char) :
    stringRest? steps (text.flatMap escapedChar ++ '"' :: rest) = some (text, rest) := by
  induction text generalizing steps with
  | nil =>
    obtain ⟨steps, rfl⟩ : ∃ k, steps = k + 1 := ⟨steps - 1, by simp at hsteps; omega⟩
    rfl
  | cons c text ih =>
    rw [List.length_cons] at hsteps
    obtain ⟨steps, rfl⟩ : ∃ k, steps = k + 1 := ⟨steps - 1, by omega⟩
    rw [List.flatMap_cons, List.append_assoc, stringRest?_escapedChar, ih (by omega)]
    rfl

/-- a text is not shorter when it is escaped -/
theorem length_le_escaped (text : List Char) : text.length ≤ (text.flatMap escapedChar).length := by
  induction text with
  | nil => exact Nat.le_refl _
  | cons c text ih =>
    have hsome : 0 < (escapedChar c).length := by
      unfold escapedChar
      split_ifs <;> simp
    rw [List.flatMap_cons, List.length_append, List.length_cons]
    omega

/-! ## Layouts -/

/-- what the printer writes between the parts of a document -/
structure Layout where
  /-- before the items of a level, and before the bracket that closes the level below -/
  line : Nat → List Char
  /-- after a colon -/
  gap : List Char
  isBlank_line : ∀ level, IsBlank (line level)
  isBlank_gap : IsBlank gap

namespace Layout

/-- everything on one line, without spaces -/
def oneLine : Layout := ⟨fun _ => [], [], fun _ => isBlank_nil, isBlank_nil⟩

/-- two spaces per level -/
def indented : Layout where
  line := newLine
  gap := [' ']
  isBlank_line level := List.forall_mem_cons.mpr ⟨rfl, fun c hc => by rw [List.eq_of_mem_replicate hc]; rfl⟩
  isBlank_gap := List.forall_mem_singleton.mpr rfl

end Layout

mutual

/-- the text of a document in a layout; `level` is the depth of nesting -/
def written (layout : Layout) (level : Nat) : Json → List Char
  | .null => ['n', 'u', 'l', 'l']
  | .bool true => ['t', 'r', 'u', 'e']
  | .bool false => ['f', 'a', 'l', 's', 'e']
  | .number literal => literal.toList
  | .string text => stringLiteral text
  | .array [] => ['[', ']']
  | .array (item :: rest) =>
    '[' :: (layout.line (level + 1) ++ (written layout (level + 1) item ++ writtenItems layout level rest))
  | .object [] => ['\x7b', '\x7d']
  | .object ((name, value) :: rest) =>
    '\x7b' :: (layout.line (level + 1) ++ (stringLiteral name ++ ':' :: (layout.gap ++
      (written layout (level + 1) value ++ writtenFields layout level rest))))

/-- what follows an item: the other items and the closing bracket -/
def writtenItems (layout : Layout) (level : Nat) : List Json → List Char
  | [] => layout.line level ++ [']']
  | item :: rest =>
    ',' :: (layout.line (level + 1) ++ (written layout (level + 1) item ++ writtenItems layout level rest))

/-- what follows a field: the other fields and the closing brace -/
def writtenFields (layout : Layout) (level : Nat) : List (String × Json) → List Char
  | [] => layout.line level ++ ['\x7d']
  | (name, value) :: rest =>
    ',' :: (layout.line (level + 1) ++ (stringLiteral name ++ ':' :: (layout.gap ++
      (written layout (level + 1) value ++ writtenFields layout level rest))))

end

/-- the items of a list and its closing bracket -/
def itemsText (layout : Layout) (level : Nat) (first : Json) (rest : List Json) : List Char :=
  written layout (level + 1) first ++ writtenItems layout level rest

/-- the fields of an object and its closing brace -/
def fieldsText (layout : Layout) (level : Nat) (first : String × Json) (rest : List (String × Json)) : List Char :=
  stringLiteral first.1 ++ ':' :: (layout.gap ++
    (written layout (level + 1) first.2 ++ writtenFields layout level rest))

/-- what holds of all parts of a document, if it holds of each one whose parts it holds of -/
theorem byParts {motive : Json → Prop} (null : motive .null) (bool : ∀ value, motive (.bool value))
    (number : ∀ literal, motive (.number literal)) (string : ∀ text, motive (.string text))
    (array : ∀ items, (∀ item ∈ items, motive item) → motive (.array items))
    (object : ∀ fields, (∀ field ∈ fields, motive field.2) → motive (.object fields)) (json : Json) : motive json :=
  @Json.rec motive (fun items => ∀ item ∈ items, motive item) (fun fields => ∀ field ∈ fields, motive field.2)
    (fun field => motive field.2) null bool number string array object nofun
    (fun _ _ hitem hrest => List.forall_mem_cons.mpr ⟨hitem, hrest⟩) nofun
    (fun _ _ hfield hrest => List.forall_mem_cons.mpr ⟨hfield, hrest⟩) (fun _ _ h => h) json

/-- the text on one line, in its layout -/
theorem compact_eq_written (level : Nat) (json : Json) : json.compact = written .oneLine level json := by
  induction json using byParts generalizing level with
  | null | number | string => rfl
  | bool value => cases value <;> rfl
  | array items ih =>
    cases items with
    | nil => rfl
    | cons first rest =>
      have hitems : compactItems (first :: rest) ++ [']'] =
          written .oneLine (level + 1) first ++ writtenItems .oneLine level rest := by
        induction rest generalizing first with
        | nil =>
          rw [compactItems, ih first List.mem_cons_self (level + 1)]
          rfl
        | cons next rest hrest =>
          obtain ⟨hfirst, hothers⟩ := List.forall_mem_cons.mp ih
          rw [compactItems, List.append_assoc, List.cons_append, hrest next hothers, hfirst (level + 1)]
          · rfl
          · exact List.cons_ne_nil _ _
      exact congrArg _ hitems
  | object fields ih =>
    cases fields with
    | nil => rfl
    | cons first rest =>
      have hfields : compactFields (first :: rest) ++ ['\x7d'] =
          stringLiteral first.1 ++ ':' :: (written .oneLine (level + 1) first.2 ++ writtenFields .oneLine level rest) := by
        induction rest generalizing first with
        | nil =>
          rw [compactFields, ih first List.mem_cons_self (level + 1), List.append_assoc]
          rfl
        | cons next rest hrest =>
          obtain ⟨hfirst, hothers⟩ := List.forall_mem_cons.mp ih
          rw [compactFields, List.append_assoc, List.cons_append, List.append_assoc, List.cons_append, hrest next hothers,
            hfirst (level + 1)]
          · rfl
          · exact List.cons_ne_nil _ _
      exact congrArg _ hfields

/-- the text over several lines, in its layout -/
theorem pretty_eq_written (level : Nat) (json : Json) : json.pretty level = written .indented level json := by
  induction json using byParts generalizing level with
  | null | number | string => rfl
  | bool value => cases value <;> rfl
  | array items ih =>
    cases items with
    | nil => rfl
    | cons first rest =>
      obtain ⟨hfirst, hothers⟩ := List.forall_mem_cons.mp ih
      have hitems : prettyItems (level + 1) rest ++ (newLine level ++ [']']) = writtenItems .indented level rest := by
        clear hfirst ih
        induction rest with
        | nil => rfl
        | cons item rest hrest =>
          obtain ⟨hitem, hothers⟩ := List.forall_mem_cons.mp hothers
          rw [prettyItems, hitem, writtenItems, ← hrest hothers]
          simp only [List.cons_append, List.append_assoc]
          rfl
      rw [pretty, hfirst, written, ← hitems]
      simp only [List.append_assoc]
      rfl
  | object fields ih =>
    cases fields with
    | nil => rfl
    | cons first rest =>
      obtain ⟨hfirst, hothers⟩ := List.forall_mem_cons.mp ih
      have hfields : prettyFields (level + 1) rest ++ (newLine level ++ ['\x7d']) = writtenFields .indented level rest := by
        clear hfirst ih
        induction rest with
        | nil => rfl
        | cons field rest hrest =>
          obtain ⟨hfield, hothers⟩ := List.forall_mem_cons.mp hothers
          rw [prettyFields, hfield, writtenFields, ← hrest hothers]
          simp only [List.cons_append, List.append_assoc]
          rfl
      rw [pretty, hfirst, written, ← hfields]
      simp only [List.append_assoc]
      rfl

/-! ## Rules of the reader -/

section Rules

variable {opened inner closed more after : List Char} {item value : Json} {items : List Json} {name text : List Char}
  {fields : List (String × Json)}

theorem value?_string (hs : skipSpace s = '"' :: inner) (htext : stringRest? steps inner = some (text, after)) :
    value? (steps + 1) s = some (.string (String.ofList text), after) := by
  rw [value?, hs]
  change (stringRest? steps inner).map _ = _
  rw [htext]
  rfl

theorem value?_number {literal : List Char} (h : IsNumber literal) (hs : skipSpace s = literal ++ after)
    (hafter : EndsNumber after) : value? (steps + 1) s = some (.number (String.ofList literal), after) := by
  have hlength := numberLength?_append h hafter
  obtain ⟨c, rest, rfl, hc⟩ := h.exists_cons
  have hstarts {d : Char} {t : List Char} (hminus : d ≠ '-') (hdigit : d.isDigit = false) : c :: rest ++ after ≠ d :: t := by
    intro heq
    obtain rfl : c = d := (List.cons.inj heq).1
    exact hc.elim hminus fun h => Bool.false_ne_true (hdigit.symm.trans h)
  rw [value?, hs]
  split
  · next heq => exact absurd heq (hstarts (by decide) (by decide))
  · next heq => exact absurd heq (hstarts (by decide) (by decide))
  · next heq => exact absurd heq (hstarts (by decide) (by decide))
  · next heq => exact absurd heq (hstarts (by decide) (by decide))
  · next heq => exact absurd heq (hstarts (by decide) (by decide))
  · next heq => exact absurd heq (hstarts (by decide) (by decide))
  · rw [hlength, Option.map_some, List.take_left, List.drop_left]

/-- reads the rest of a list after its opening bracket -/
def listRest? (steps : Nat) (s : List Char) : Option (Json × List Char) :=
  match skipSpace s with
  | ']' :: rest => some (.array [], rest)
  | rest => (items? steps rest).map fun (items, rest) => (.array items, rest)

/-- reads the rest of an object after its opening brace -/
def objectRest? (steps : Nat) (s : List Char) : Option (Json × List Char) :=
  match skipSpace s with
  | '\x7d' :: rest => some (.object [], rest)
  | rest => (fields? steps rest).map fun (fields, rest) => (.object fields, rest)

theorem value?_list (hs : skipSpace s = '[' :: inner) : value? (steps + 1) s = listRest? steps inner := by
  rw [value?, hs]
  rfl

theorem value?_object (hs : skipSpace s = '\x7b' :: inner) : value? (steps + 1) s = objectRest? steps inner := by
  rw [value?, hs]
  rfl

theorem listRest?_nil (hinner : skipSpace inner = ']' :: after) : listRest? steps inner = some (.array [], after) := by
  rw [listRest?, hinner]
  rfl

theorem listRest?_cons (hinner : skipSpace inner = more) (hmore : more.head? ≠ some ']')
    (hitems : items? steps more = some (items, after)) : listRest? steps inner = some (.array items, after) := by
  rw [listRest?, hinner]
  split
  · exact absurd rfl hmore
  · rw [hitems]
    rfl

theorem objectRest?_nil (hinner : skipSpace inner = '\x7d' :: after) :
    objectRest? steps inner = some (.object [], after) := by
  rw [objectRest?, hinner]
  rfl

theorem objectRest?_cons (hinner : skipSpace inner = more) (hmore : more.head? ≠ some '\x7d')
    (hfields : fields? steps more = some (fields, after)) : objectRest? steps inner = some (.object fields, after) := by
  rw [objectRest?, hinner]
  split
  · exact absurd rfl hmore
  · rw [hfields]
    rfl

theorem items?_last (hitem : value? steps s = some (item, closed)) (hclosed : skipSpace closed = ']' :: after) :
    items? (steps + 1) s = some ([item], after) := by
  rw [items?, hitem, Option.bind_eq_bind, Option.bind_some]
  dsimp only
  rw [hclosed]
  rfl

theorem items?_next (hitem : value? steps s = some (item, closed)) (hclosed : skipSpace closed = ',' :: more)
    (hitems : items? steps more = some (items, after)) : items? (steps + 1) s = some (item :: items, after) := by
  rw [items?, hitem, Option.bind_eq_bind, Option.bind_some]
  dsimp only
  rw [hclosed]
  change (items? steps more).bind _ = _
  rw [hitems]
  rfl

/-- a field is read up to the end of its value -/
theorem fields?_eq (hs : skipSpace s = '"' :: opened) (hname : stringRest? steps opened = some (name, ':' :: inner))
    (hvalue : value? steps inner = some (value, closed)) :
    fields? (steps + 1) s =
      match skipSpace closed with
      | '\x7d' :: rest => return ([(String.ofList name, value)], rest)
      | ',' :: rest => do
        let (fields, rest) ← fields? steps rest
        return ((String.ofList name, value) :: fields, rest)
      | _ => none := by
  rw [fields?, hs]
  change (stringRest? steps opened).bind _ = _
  rw [hname, Option.bind_some]
  dsimp only
  rw [skipSpace_cons rfl]
  change (value? steps inner).bind _ = _
  rw [hvalue]
  rfl

end Rules

/-! ## Documents -/

/-- what stands for numbers in a document are numbers -/
inductive Proper : Json → Prop
  | null : Proper .null
  | bool (value : Bool) : Proper (.bool value)
  | number {literal : String} (h : IsNumber literal.toList) : Proper (.number literal)
  | string (text : String) : Proper (.string text)
  | array {items : List Json} (h : ∀ item ∈ items, Proper item) : Proper (.array items)
  | object {fields : List (String × Json)} (h : ∀ field ∈ fields, Proper field.2) : Proper (.object fields)

/-- a text is read as a document, with white space before it, and whatever follows it -/
def Reads (text : List Char) (json : Json) : Prop :=
  ∀ ⦃steps : Nat⦄ ⦃space rest : List Char⦄, text.length ≤ steps → IsBlank space → EndsNumber rest →
    value? steps (space ++ (text ++ rest)) = some (json, rest)

theorem isSpace_of_isDigit (h : c.isDigit = true) : isSpace c = false := by
  by_contra hspace
  simp only [isSpace, Bool.not_eq_false, Bool.or_eq_true, beq_iff_eq] at hspace
  rcases hspace with ((rfl | rfl) | rfl) | rfl <;> exact absurd h (by decide)

variable {layout : Layout} {level : Nat}

/-- no text of a document starts with white space or like the end of a list -/
theorem exists_written_cons {json : Json} (h : json.Proper) (layout : Layout) (level : Nat) :
    ∃ c s, written layout level json = c :: s ∧ isSpace c = false ∧ c ≠ ']' := by
  cases h with
  | null => exact ⟨_, _, rfl, by decide, by decide⟩
  | bool value => cases value <;> exact ⟨_, _, rfl, by decide, by decide⟩
  | number h =>
    obtain ⟨c, s, hcons, rfl | hdigit⟩ := h.exists_cons
    · exact ⟨_, s, hcons, by decide, by decide⟩
    · refine ⟨c, s, hcons, isSpace_of_isDigit hdigit, ?_⟩
      rintro rfl
      exact absurd hdigit (by decide)
  | string text => exact ⟨_, _, rfl, by decide, by decide⟩
  | @array items => cases items <;> exact ⟨_, _, rfl, by decide, by decide⟩
  | @object fields => cases fields <;> exact ⟨_, _, rfl, by decide, by decide⟩

theorem skipSpace_written {json : Json} (h : json.Proper) (level : Nat) (hspace : IsBlank space) (after : List Char) :
    skipSpace (space ++ (written layout level json ++ after)) = written layout level json ++ after ∧
      (written layout level json ++ after).head? ≠ some ']' := by
  obtain ⟨c, s, hcons, hc, hne⟩ := exists_written_cons h layout level
  rw [skipSpace_append hspace, hcons, List.cons_append, skipSpace_cons hc]
  exact ⟨rfl, fun heq => hne (Option.some.inj heq)⟩

theorem endsNumber_writtenItems (layout : Layout) (level : Nat) (items : List Json) (after : List Char) :
    EndsNumber (writtenItems layout level items ++ after) := by
  cases items with
  | nil =>
    rw [writtenItems, List.append_assoc]
    exact endsNumber_append (layout.isBlank_line level) (endsNumber_cons (by decide) after)
  | cons => exact endsNumber_cons (by decide) _

theorem endsNumber_writtenFields (layout : Layout) (level : Nat) (fields : List (String × Json)) (after : List Char) :
    EndsNumber (writtenFields layout level fields ++ after) := by
  cases fields with
  | nil =>
    rw [writtenFields, List.append_assoc]
    exact endsNumber_append (layout.isBlank_line level) (endsNumber_cons (by decide) after)
  | cons => exact endsNumber_cons (by decide) _

/-- **Items** are read back if each one is -/
theorem items?_itemsText {first : Json} {rest : List Json}
    (h : ∀ item ∈ first :: rest, ∀ level, Reads (written layout level item) item)
    (hsteps : (itemsText layout level first rest).length ≤ steps) (hspace : IsBlank space) (after : List Char) :
    items? steps (space ++ (itemsText layout level first rest ++ after)) = some (first :: rest, after) := by
  have hends := endsNumber_writtenItems layout level rest after
  obtain ⟨hfirst, hothers⟩ := List.forall_mem_cons.mp h
  induction rest generalizing first steps space with
  | nil =>
    rw [itemsText, writtenItems, List.length_append, List.length_append, List.length_singleton] at hsteps
    obtain ⟨steps, rfl⟩ : ∃ k, steps = k + 1 := ⟨steps - 1, by omega⟩
    rw [itemsText, List.append_assoc]
    refine items?_last (hfirst (level + 1) (by omega) hspace hends) ?_
    rw [writtenItems, List.append_assoc, skipSpace_append (layout.isBlank_line level)]
    exact skipSpace_cons rfl after
  | cons next rest ih =>
    have hrest : writtenItems layout level (next :: rest) ++ after =
        ',' :: (layout.line (level + 1) ++ (itemsText layout level next rest ++ after)) := by
      rw [writtenItems, List.cons_append, List.append_assoc, itemsText]
    rw [itemsText, writtenItems, ← itemsText, List.length_append, List.length_cons, List.length_append] at hsteps
    obtain ⟨steps, rfl⟩ : ∃ k, steps = k + 1 := ⟨steps - 1, by omega⟩
    obtain ⟨hnext, hlast⟩ := List.forall_mem_cons.mp hothers
    have hmore := ih hothers (by omega : _ ≤ steps) (layout.isBlank_line (level + 1))
      (endsNumber_writtenItems layout level rest after) hnext hlast
    rw [itemsText, List.append_assoc]
    refine items?_next (hfirst (level + 1) (by omega) hspace hends) ?_ hmore
    rw [hrest, skipSpace_cons rfl]

theorem length_stringLiteral (text : String) : text.toList.length + 2 ≤ (stringLiteral text).length := by
  have hescaped := length_le_escaped text.toList
  rw [stringLiteral, List.length_cons, List.length_append, List.length_singleton]
  omega

theorem stringLiteral_append (text : String) (after : List Char) :
    stringLiteral text ++ after = '"' :: (text.toList.flatMap escapedChar ++ '"' :: after) := by
  rw [stringLiteral, List.cons_append, List.append_assoc, List.singleton_append]

theorem skipSpace_stringLiteral (hspace : IsBlank space) (text : String) (after : List Char) :
    skipSpace (space ++ (stringLiteral text ++ after)) = '"' :: (text.toList.flatMap escapedChar ++ '"' :: after) := by
  rw [skipSpace_append hspace, stringLiteral_append, skipSpace_cons rfl]

theorem fieldsText_append (first : String × Json) (rest : List (String × Json)) (after : List Char) :
    fieldsText layout level first rest ++ after =
      stringLiteral first.1 ++ ':' :: (layout.gap ++
        (written layout (level + 1) first.2 ++ (writtenFields layout level rest ++ after))) := by
  simp only [fieldsText, List.append_assoc, List.cons_append]

/-- **Fields** are read back if the value of each one is -/
theorem fields?_fieldsText {first : String × Json} {rest : List (String × Json)}
    (h : ∀ field ∈ first :: rest, ∀ level, Reads (written layout level field.2) field.2)
    (hsteps : (fieldsText layout level first rest).length ≤ steps) (hspace : IsBlank space) (after : List Char) :
    fields? steps (space ++ (fieldsText layout level first rest ++ after)) = some (first :: rest, after) := by
  have hname := length_stringLiteral first.1
  have hends := endsNumber_writtenFields layout level rest after
  obtain ⟨hfirst, hothers⟩ := List.forall_mem_cons.mp h
  induction rest generalizing first steps space with
  | nil =>
    simp only [fieldsText, writtenFields, List.length_append, List.length_cons] at hsteps
    obtain ⟨steps, rfl⟩ : ∃ k, steps = k + 1 := ⟨steps - 1, by omega⟩
    rw [fieldsText_append, fields?_eq (skipSpace_stringLiteral hspace _ _) (stringRest?_escaped (by omega) _)
      (hfirst (level + 1) (by omega) layout.isBlank_gap hends), writtenFields, List.append_assoc,
      skipSpace_append (layout.isBlank_line level), List.singleton_append, skipSpace_cons rfl, String.ofList_toList]
    rfl
  | cons next rest ih =>
    have hrest : writtenFields layout level (next :: rest) =
        ',' :: (layout.line (level + 1) ++ fieldsText layout level next rest) := rfl
    rw [fieldsText, hrest] at hsteps
    simp only [List.length_append, List.length_cons] at hsteps
    obtain ⟨steps, rfl⟩ : ∃ k, steps = k + 1 := ⟨steps - 1, by omega⟩
    obtain ⟨hnext, hlast⟩ := List.forall_mem_cons.mp hothers
    have hmore := ih hothers (by omega : _ ≤ steps) (layout.isBlank_line (level + 1)) (length_stringLiteral next.1)
      (endsNumber_writtenFields layout level rest after) hnext hlast
    rw [fieldsText_append, fields?_eq (skipSpace_stringLiteral hspace _ _) (stringRest?_escaped (by omega) _)
      (hfirst (level + 1) (by omega) layout.isBlank_gap hends), hrest, List.cons_append, skipSpace_cons rfl,
      List.append_assoc, String.ofList_toList]
    change (fields? steps _).bind (fun found => some (first :: found.1, found.2)) = _
    rw [hmore]
    rfl

/-- no text is read in no steps, so the first step is there to be taken -/
theorem reads_of_succ {text : List Char} {json : Json} (htext : text ≠ [])
    (h : ∀ {steps : Nat} {space rest : List Char}, text.length ≤ steps + 1 → IsBlank space → EndsNumber rest →
      value? (steps + 1) (space ++ (text ++ rest)) = some (json, rest)) : Reads text json := by
  intro steps space rest hsteps hspace hrest
  have hsome := List.length_pos_of_ne_nil htext
  obtain ⟨steps, rfl⟩ : ∃ k, steps = k + 1 := ⟨steps - 1, by omega⟩
  exact h hsteps hspace hrest

/-- **A document is read back**, in any layout -/
theorem reads_written (layout : Layout) {json : Json} (h : json.Proper) (level : Nat) :
    Reads (written layout level json) json := by
  induction h generalizing level with
  | null =>
    refine reads_of_succ (List.cons_ne_nil _ _) fun hsteps hspace hrest => ?_
    rw [value?, skipSpace_append hspace]
    rfl
  | bool value =>
    cases value <;>
    · refine reads_of_succ (List.cons_ne_nil _ _) fun hsteps hspace hrest => ?_
      rw [value?, skipSpace_append hspace]
      rfl
  | @number literal h =>
    obtain ⟨c, s, hcons, -⟩ := h.exists_cons
    have hne : written layout level (.number literal) ≠ [] := by
      rw [written, hcons]
      exact List.cons_ne_nil c s
    refine reads_of_succ hne fun {steps space rest} hsteps hspace hrest => ?_
    rw [value?_number h (skipSpace_written (.number h) level hspace rest).1 hrest, String.ofList_toList]
  | string text =>
    refine reads_of_succ (List.cons_ne_nil _ _) fun hsteps hspace hrest => ?_
    have hlength := length_stringLiteral text
    rw [written] at hsteps ⊢
    rw [value?_string (skipSpace_stringLiteral hspace text _) (stringRest?_escaped (by omega) _), String.ofList_toList]
  | @array items h ih =>
    cases items with
    | nil =>
      refine reads_of_succ (List.cons_ne_nil _ _) fun hsteps hspace hrest => ?_
      exact (value?_list (skipSpace_append hspace _)).trans (listRest?_nil (skipSpace_cons rfl _))
    | cons first rest =>
      have htext : written layout level (.array (first :: rest)) =
          '[' :: (layout.line (level + 1) ++ itemsText layout level first rest) := rfl
      rw [htext]
      refine reads_of_succ (List.cons_ne_nil _ _) fun {steps space after} hsteps hspace hrest => ?_
      have hlength : (itemsText layout level first rest).length ≤ steps := by
        rw [List.length_cons, List.length_append] at hsteps
        omega
      have hitems := items?_itemsText ih hlength isBlank_nil after
      obtain ⟨hfirst, hclosing⟩ := skipSpace_written (h first List.mem_cons_self) (level + 1)
        (layout.isBlank_line (level + 1)) (writtenItems layout level rest ++ after)
      rw [← List.append_assoc (written layout (level + 1) first), ← itemsText] at hfirst hclosing
      rw [List.cons_append, List.append_assoc,
        value?_list ((skipSpace_append hspace _).trans (skipSpace_cons rfl _)), listRest?_cons hfirst hclosing hitems]
  | @object fields h ih =>
    cases fields with
    | nil =>
      refine reads_of_succ (List.cons_ne_nil _ _) fun hsteps hspace hrest => ?_
      exact (value?_object (skipSpace_append hspace _)).trans (objectRest?_nil (skipSpace_cons rfl _))
    | cons first rest =>
      have htext : written layout level (.object (first :: rest)) =
          '\x7b' :: (layout.line (level + 1) ++ fieldsText layout level first rest) := rfl
      rw [htext]
      refine reads_of_succ (List.cons_ne_nil _ _) fun {steps space after} hsteps hspace hrest => ?_
      have hlength : (fieldsText layout level first rest).length ≤ steps := by
        rw [List.length_cons, List.length_append] at hsteps
        omega
      have hfields := fields?_fieldsText ih hlength isBlank_nil after
      have hfirst : skipSpace (layout.line (level + 1) ++ (fieldsText layout level first rest ++ after)) =
          fieldsText layout level first rest ++ after := by
        rw [skipSpace_append (layout.isBlank_line (level + 1)), fieldsText_append, stringLiteral_append, skipSpace_cons rfl]
      have hclosing : (fieldsText layout level first rest ++ after).head? ≠ some '\x7d' := by
        rw [fieldsText_append, stringLiteral_append]
        simp
      rw [List.cons_append, List.append_assoc,
        value?_object ((skipSpace_append hspace _).trans (skipSpace_cons rfl _)), objectRest?_cons hfirst hclosing hfields]

/-- **A text is a document**, with white space after it or without -/
theorem ofText?_written (layout : Layout) {json : Json} (h : json.Proper) (level : Nat) (hspace : IsBlank space) :
    ofText? (written layout level json ++ space) = some json := by
  have hlength : (written layout level json).length ≤ (written layout level json ++ space).length + 1 := by
    rw [List.length_append]
    omega
  have hends : EndsNumber space := List.append_nil space ▸ endsNumber_append hspace nofun
  have hread := reads_written layout h level hlength isBlank_nil hends
  rw [List.nil_append] at hread
  rw [ofText?, hread]
  simp [skipSpace_eq_nil hspace]

theorem ofText?_compact {json : Json} (h : json.Proper) (hspace : IsBlank space) :
    ofText? (json.compact ++ space) = some json := by
  rw [compact_eq_written 0, ofText?_written .oneLine h 0 hspace]

theorem ofText?_pretty {json : Json} (h : json.Proper) (hspace : IsBlank space) :
    ofText? (json.pretty 0 ++ space) = some json := by
  rw [pretty_eq_written, ofText?_written .indented h 0 hspace]

end TableGraph.Json
