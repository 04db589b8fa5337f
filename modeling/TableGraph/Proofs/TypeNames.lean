/-
Names of types, up to spelling. Letter case, white space and modifiers in parentheses do not change the type that a name
stands for, wherever they stand in the name.

Two spellings of a name are related by `Respelled`, one character or one run of white space at a time. The relation is kept
when texts are turned around, and so when white space is removed at either end. What is left has small letters and single
spaces only, where related names are equal. A modifier is cut out before, so that a name with one reduces to the two parts
around it.

Results:
- `Text.lowerCase_eq_map`: ASCII letters with white space of any kind are made small one by one.
- `Text.Respelled.collapseBlanks_eq`: two spellings have one normal form.
- `ColumnType.withoutModifiers_append`: the first modifier is cut out with the white space before it.
- `ColumnType.normalName_respelled`, `ColumnType.normalName_modifier`: the normal name depends on neither.
- `ColumnType.ofName_spelling`: so the type does not.
Witness:
- `ColumnType.ofName_bits`: a type in capitals, with other kinds of white space, and with a modifier that opens a
  parenthesis itself.
-/
import Mathlib.Data.Bool.AllAny
import Mathlib.Data.List.DropRight
import Mathlib.Tactic
import TableGraph.Schema.ColumnType

namespace TableGraph

namespace Text

/-! ## Small letters -/

/-- an ASCII character or white space of any kind -/
def IsPlain (c : Char) : Prop := c.toNat < 128 ∨ isBlank c = true

instance (c : Char) : Decidable (IsPlain c) := inferInstanceAs (Decidable (_ ∨ _))

theorem forall_ascii {p : Char → Prop} (h : ∀ code < 128, p (Char.ofNat code)) {c : Char} (hc : c.toNat < 128) : p c := by
  have hcode := h c.toNat hc
  rwa [Char.ofNat_toNat] at hcode

theorem toLower_eq_self {c : Char} (h : 128 ≤ c.toNat) : c.toLower = c := by
  have hlast : ¬c.val ≤ 'Z'.val := fun hle => by
    have hcode : c.toNat ≤ 90 := hle
    omega
  exact dif_neg fun hrange => hlast hrange.2

/-- what holds of ASCII characters in small letters, and of every character that is left as it is, holds of small letters -/
theorem toLower_cases {p : Char → Char → Prop} (hascii : ∀ code < 128, p (Char.ofNat code) (Char.ofNat code).toLower)
    (hself : ∀ c, p c c) (c : Char) : p c c.toLower := by
  by_cases hc : c.toNat < 128
  · exact forall_ascii (p := fun c => p c c.toLower) hascii hc
  · rw [toLower_eq_self (Nat.le_of_not_lt hc)]
    exact hself c

theorem isBlank_toLower (c : Char) : isBlank c.toLower = isBlank c :=
  toLower_cases (p := fun c d => isBlank d = isBlank c) (by decide) (fun _ => rfl) c

theorem toLower_lt_iff (c : Char) : c.toLower.toNat < 128 ↔ c.toNat < 128 :=
  toLower_cases (p := fun c d => d.toNat < 128 ↔ c.toNat < 128) (by decide) (fun _ => Iff.rfl) c

/-- only letters have another case -/
theorem toLower_eq_iff {mark : Char} (hmark : mark = '(' ∨ mark = ')') (c : Char) : c.toLower = mark ↔ c = mark := by
  rcases hmark with rfl | rfl
  · exact toLower_cases (p := fun c d => d = '(' ↔ c = '(') (by decide) (fun _ => Iff.rfl) c
  · exact toLower_cases (p := fun c d => d = ')' ↔ c = ')') (by decide) (fun _ => Iff.rfl) c

theorem not_mem_map_toLower {mark : Char} (hmark : mark = '(' ∨ mark = ')') {s : List Char} (h : mark ∉ s) :
    mark ∉ s.map Char.toLower := by
  intro hmem
  obtain ⟨c, hc, heq⟩ := List.mem_map.mp hmem
  obtain rfl : c = mark := (toLower_eq_iff hmark c).mp heq
  exact h hc

theorem isPlain_toLower (c : Char) : IsPlain c.toLower ↔ IsPlain c := by
  rw [IsPlain, IsPlain, isBlank_toLower, toLower_lt_iff]

/-- white space has no case -/
theorem smallLetters_of_isBlank {c : Char} (h : isBlank c = true) : smallLetters c = [c] := by
  have hall : ∀ run ∈ blankRanges, ∀ code ∈ List.range' run.1 (run.2 + 1 - run.1),
      smallLetters (Char.ofNat code) = [Char.ofNat code] := by decide +kernel
  obtain ⟨run, hrun, hfirst, hlast⟩ := CodeRange.covers_iff.mp h
  have hcode := hall run hrun c.toNat (List.mem_range'_1.mpr (by omega))
  rwa [Char.ofNat_toNat] at hcode

theorem smallLetters_of_isPlain {c : Char} (h : IsPlain c) : smallLetters c = [c.toLower] := by
  by_cases hc : c.toNat < 128
  · exact forall_ascii (p := fun c => smallLetters c = [c.toLower]) (by decide) hc
  · rw [toLower_eq_self (Nat.le_of_not_lt hc), smallLetters_of_isBlank (h.resolve_left hc)]

theorem ne_sigma_of_isPlain {c : Char} (h : IsPlain c) : c ≠ 'Σ' := by
  rintro rfl
  exact absurd h (by decide)

/-- **ASCII letters are made small one by one** -/
theorem lowerCase_eq_map {s : List Char} (h : ∀ c ∈ s, IsPlain c) : lowerCase s = s.map Char.toLower := by
  have hafter (before : List Char) : lowerCaseAfter before s = s.map Char.toLower := by
    induction s generalizing before with
    | nil => rfl
    | cons c s ih =>
      obtain ⟨hc, hs⟩ := List.forall_mem_cons.mp h
      rw [lowerCaseAfter, if_neg (ne_sigma_of_isPlain hc), smallLetters_of_isPlain hc, ih hs, List.map_cons,
        List.singleton_append]
  exact hafter []

theorem trim_map_toLower (s : List Char) : trim (s.map Char.toLower) = (trim s).map Char.toLower := by
  have hblank : isBlank ∘ Char.toLower = isBlank := funext isBlank_toLower
  simp only [trim, trimStart, trimEnd, List.dropWhile_map, ← List.map_reverse, hblank]

theorem exists_trimStart (s : List Char) :
    ∃ before rest, (∀ c ∈ before, isBlank c = true) ∧ s = before ++ rest ∧ ∀ c ∈ rest.head?, isBlank c = false := by
  refine ⟨s.takeWhile isBlank, trimStart s, fun _ => isBlank_of_mem_takeWhile,
    List.takeWhile_append_dropWhile.symm, fun c hc => ?_⟩
  have hstop := List.head?_dropWhile_not isBlank s
  rw [← trimStart, hc] at hstop
  simpa using hstop

theorem exists_trimEnd (s : List Char) :
    ∃ rest after, (∀ c ∈ after, isBlank c = true) ∧ s = rest ++ after ∧ ∀ c ∈ rest.getLast?, isBlank c = false := by
  obtain ⟨after, rest, hblank, hs, hfirst⟩ := exists_trimStart s.reverse
  refine ⟨rest.reverse, after.reverse, fun c hc => hblank c (List.mem_reverse.mp hc), ?_, ?_⟩
  · rw [← List.reverse_append, ← hs, List.reverse_reverse]
  · rwa [List.getLast?_reverse]

/-! ## Single spaces -/

theorem trimStart_trimStart (s : List Char) : trimStart (trimStart s) = trimStart s := List.dropWhile_idempotent _ _

theorem trimStart_cons_of_blank {c : Char} (h : isBlank c = true) (s : List Char) : trimStart (c :: s) = trimStart s :=
  List.dropWhile_cons_of_pos h

theorem trimStart_cons_of_not_blank {c : Char} (h : isBlank c = false) (s : List Char) : trimStart (c :: s) = c :: s :=
  List.dropWhile_cons_of_neg (by simp [h])

/-- runs of white space are collapsed one character at a time: white space swallows the space that follows it -/
theorem collapseBlanks_cons (c : Char) (s : List Char) :
    collapseBlanks (c :: s) = if isBlank c then ' ' :: trimStart (collapseBlanks s) else c :: collapseBlanks s := by
  induction s generalizing c with
  | nil => simp only [collapseBlanks]; rfl
  | cons d s ih =>
    rw [collapseBlanks]
    by_cases hc : isBlank c = true
    · rw [if_pos hc, if_pos hc, ih d]
      by_cases hd : isBlank d = true
      · rw [if_pos hd, if_pos hd, trimStart_cons_of_blank (by decide), trimStart_trimStart]
      · rw [if_neg hd, if_neg hd, trimStart_cons_of_not_blank (by simpa using hd)]
    · rw [if_neg hc, if_neg hc]

/-- a run of white space -/
def IsGap (s : List Char) : Prop := s ≠ [] ∧ ∀ c ∈ s, isBlank c = true

theorem IsGap.reverse {s : List Char} (h : IsGap s) : IsGap s.reverse :=
  ⟨by simpa using h.1, fun c hc => h.2 c (List.mem_reverse.mp hc)⟩

theorem IsGap.map_toLower {s : List Char} (h : IsGap s) : IsGap (s.map Char.toLower) := by
  refine ⟨by simpa using h.1, fun c hc => ?_⟩
  obtain ⟨d, hd, rfl⟩ := List.mem_map.mp hc
  rw [isBlank_toLower, h.2 d hd]

/-- a run of white space becomes one space, with all white space that follows it -/
theorem collapseBlanks_gap {gap : List Char} (h : IsGap gap) (s : List Char) :
    collapseBlanks (gap ++ s) = ' ' :: trimStart (collapseBlanks s) := by
  obtain ⟨hne, hblank⟩ := h
  induction gap with
  | nil => exact absurd rfl hne
  | cons c gap ih =>
    obtain ⟨hc, hgap⟩ := List.forall_mem_cons.mp hblank
    rw [List.cons_append, collapseBlanks_cons, if_pos hc]
    by_cases hmore : gap = []
    · rw [hmore, List.nil_append]
    · rw [ih hmore hgap, trimStart_cons_of_blank (by decide), trimStart_trimStart]

/-! ## Spellings -/

/-- another spelling of a text: its letters in any case, and white space of any kind and length in place of white space -/
inductive Respelled : List Char → List Char → Prop
  | nil : Respelled [] []
  | letter {c d : Char} {s t : List Char} (hcase : c.toLower = d.toLower) (h : Respelled s t) :
    Respelled (c :: s) (d :: t)
  | gap {b b' s t : List Char} (hb : IsGap b) (hb' : IsGap b') (h : Respelled s t) : Respelled (b ++ s) (b' ++ t)

namespace Respelled

variable {s t s' t' : List Char}

theorem append (h : Respelled s t) (h' : Respelled s' t') : Respelled (s ++ s') (t ++ t') := by
  induction h with
  | nil => exact h'
  | letter hcase _ ih => exact .letter hcase ih
  | gap hb hb' _ ih =>
    rw [List.append_assoc, List.append_assoc]
    exact .gap hb hb' ih

/-- letters in another case -/
theorem of_map_eq (h : s.map Char.toLower = t.map Char.toLower) : Respelled s t := by
  induction s generalizing t with
  | nil =>
    obtain rfl : t = [] := List.map_eq_nil_iff.mp h.symm
    exact .nil
  | cons c s ih =>
    obtain ⟨d, t, rfl, hcase, hrest⟩ := List.map_eq_cons_iff.mp h.symm
    exact .letter hcase.symm (ih hrest.symm)

theorem reverse (h : Respelled s t) : Respelled s.reverse t.reverse := by
  induction h with
  | nil => exact .nil
  | letter hcase _ ih =>
    rw [List.reverse_cons, List.reverse_cons]
    exact ih.append (.letter hcase .nil)
  | gap hb hb' _ ih =>
    rw [List.reverse_append, List.reverse_append]
    refine ih.append ?_
    have hgap := Respelled.gap hb.reverse hb'.reverse .nil
    rwa [List.append_nil, List.append_nil] at hgap

theorem trimStart (h : Respelled s t) : Respelled (Text.trimStart s) (Text.trimStart t) := by
  induction h with
  | nil => exact .nil
  | @letter c d s t hcase h ih =>
    have hblank : isBlank c = isBlank d := by rw [← isBlank_toLower, hcase, isBlank_toLower]
    cases hd : isBlank d with
    | true =>
      rw [trimStart_cons_of_blank (hblank.trans hd), trimStart_cons_of_blank hd]
      exact ih
    | false =>
      rw [trimStart_cons_of_not_blank (hblank.trans hd), trimStart_cons_of_not_blank hd]
      exact .letter hcase h
  | gap hb hb' _ ih =>
    rw [trimStart_append hb.2, trimStart_append hb'.2]
    exact ih

theorem trimEnd (h : Respelled s t) : Respelled (Text.trimEnd s) (Text.trimEnd t) := h.reverse.trimStart.reverse

theorem trim (h : Respelled s t) : Respelled (Text.trim s) (Text.trim t) := h.trimStart.trimEnd

/-- **Spellings of one text** in small letters and with single spaces are the same -/
theorem collapseBlanks_eq (h : Respelled s t) :
    collapseBlanks (s.map Char.toLower) = collapseBlanks (t.map Char.toLower) := by
  induction h with
  | nil => rfl
  | letter hcase _ ih => rw [List.map_cons, List.map_cons, collapseBlanks_cons, collapseBlanks_cons, hcase, ih]
  | gap hb hb' _ ih =>
    rw [List.map_append, List.map_append, collapseBlanks_gap hb.map_toLower, collapseBlanks_gap hb'.map_toLower, ih]

end Respelled

end Text

namespace ColumnType

open Text

/-! ## Modifiers -/

theorem withoutModifiers_eq_self {s : List Char} (h : '(' ∉ s) : withoutModifiers s = s := by
  have hnone : s.dropWhile (· != '(') = [] :=
    List.dropWhile_eq_nil_iff.mpr fun c hc => by simpa using fun heq : c = '(' => h (heq ▸ hc)
  rw [withoutModifiers]
  split
  · rfl
  · next hopen => exact absurd (hnone.symm.trans hopen) (List.cons_ne_nil _ _).symm

/-- what stands before the first character that is marked, and what it starts -/
theorem takeWhile_append_mark {s : List Char} {mark : Char} (h : mark ∉ s) (t : List Char) :
    (s ++ mark :: t).takeWhile (· != mark) = s ∧ (s ++ mark :: t).dropWhile (· != mark) = mark :: t := by
  have hall : ∀ c ∈ s, (c != mark) = true := fun c hc => by simpa using fun heq : c = mark => h (heq ▸ hc)
  constructor
  · rw [List.takeWhile_append_of_pos hall]
    simp
  · rw [List.dropWhile_append_of_pos hall]
    simp

/-- **The first modifier is cut out**, with the white space before it -/
theorem withoutModifiers_append {u m : List Char} (hu : '(' ∉ u) (hm : ')' ∉ m) (v : List Char) :
    withoutModifiers (u ++ '(' :: (m ++ ')' :: v)) = trimEnd u ++ withoutModifiers v := by
  obtain ⟨htake, hdrop⟩ := takeWhile_append_mark hu (m ++ ')' :: v)
  obtain ⟨-, hclose⟩ := takeWhile_append_mark hm v
  rw [withoutModifiers]
  split
  · next hopen => exact absurd (hdrop.symm.trans hopen) (List.cons_ne_nil _ _)
  · next inside hopen =>
    obtain ⟨-, rfl⟩ := List.cons.inj (hdrop.symm.trans hopen)
    split
    · next hnone => exact absurd (hclose.symm.trans hnone) (List.cons_ne_nil _ _)
    · next rest hrest =>
      obtain ⟨-, rfl⟩ := List.cons.inj (hclose.symm.trans hrest)
      rw [htake]

/-! ## Normal names -/

/-- a name in ASCII, with white space of any kind, and without modifiers -/
def IsBare (s : List Char) : Prop := ∀ c ∈ s, IsPlain c ∧ c ≠ '('

namespace IsBare

variable {s t : List Char}

theorem isPlain (h : IsBare s) : ∀ c ∈ s, IsPlain c := fun c hc => (h c hc).1

theorem of_subset (h : IsBare s) (hsubset : t ⊆ s) : IsBare t := fun c hc => h c (hsubset hc)

theorem append (hs : IsBare s) (ht : IsBare t) : IsBare (s ++ t) := List.forall_mem_append.mpr ⟨hs, ht⟩

theorem map_toLower (h : IsBare s) : '(' ∉ s.map Char.toLower :=
  not_mem_map_toLower (.inl rfl) fun hmem => (h '(' hmem).2 rfl

/-- another spelling of a bare name is bare -/
theorem respelled (hs : IsBare s) (h : Respelled s t) : IsBare t := by
  induction h with
  | nil => exact hs
  | @letter c d s t hcase _ ih =>
    obtain ⟨⟨hplain, hmark⟩, hs⟩ := List.forall_mem_cons.mp hs
    refine List.forall_mem_cons.mpr ⟨⟨?_, ?_⟩, ih hs⟩
    · rw [← isPlain_toLower, ← hcase, isPlain_toLower]
      exact hplain
    · rw [← (toLower_eq_iff (.inl rfl) d).ne, ← hcase, (toLower_eq_iff (.inl rfl) c).ne]
      exact hmark
  | gap _ hb' _ ih =>
    refine List.forall_mem_append.mpr ⟨fun c hc => ⟨.inr (hb'.2 c hc), ?_⟩, ih (List.forall_mem_append.mp hs).2⟩
    rintro rfl
    exact absurd (hb'.2 _ hc) (by decide)

end IsBare

/-- white space around a name does not count -/
theorem normalName_congr {s t : List Char} (h : trim s = trim t) : normalName s = normalName t := by
  rw [normalName, normalName, h]

/-- a name without modifiers -/
theorem normalName_of_isBare {s : List Char} (h : IsBare s) :
    normalName s = withoutZoneSuffix (collapseBlanks ((trim s).map Char.toLower)) := by
  have hbare : IsBare (trim s) := h.of_subset (trim_subset s)
  rw [normalName, lowerCase_eq_map hbare.isPlain, withoutModifiers_eq_self hbare.map_toLower, trim_map_toLower, trim_trim]

/-- **Spellings of a name** have one normal name -/
theorem normalName_respelled {s t before after : List Char} (hs : IsBare s) (h : Respelled s t)
    (hpadded : Padded t (before ++ t ++ after)) : normalName (before ++ t ++ after) = normalName s := by
  rw [normalName_congr hpadded.trim_eq, normalName_of_isBare hs, normalName_of_isBare (hs.respelled h),
    h.trim.collapseBlanks_eq]

theorem head?_append_mark {s : List Char} {mark : Char} (hmark : isBlank mark = false)
    (h : ∀ c ∈ s.head?, isBlank c = false) (t : List Char) : ∀ c ∈ (s ++ mark :: t).head?, isBlank c = false := by
  cases s with
  | nil => simpa using hmark
  | cons d s => exact h

theorem getLast?_append_mark {t : List Char} {mark : Char} (hmark : isBlank mark = false) (s : List Char)
    (h : ∀ c ∈ t.getLast?, isBlank c = false) : ∀ c ∈ (s ++ mark :: t).getLast?, isBlank c = false := by
  have hback := head?_append_mark hmark (s := t.reverse) (by rwa [List.head?_reverse]) s.reverse
  rwa [← List.head?_reverse, List.reverse_append, List.reverse_cons, List.append_assoc, List.singleton_append]

/-- a name with a modifier, without white space around it -/
theorem normalName_trimmed {u m v : List Char} (hu : IsBare u) (hm : ∀ c ∈ m, IsPlain c ∧ c ≠ ')') (hv : IsBare v)
    (hfirst : ∀ c ∈ u.head?, isBlank c = false) (hend : ∀ c ∈ u.getLast?, isBlank c = false)
    (hlast : ∀ c ∈ v.getLast?, isBlank c = false) :
    normalName (u ++ '(' :: (m ++ ')' :: v)) = normalName (u ++ v) := by
  have htrim : trim (u ++ '(' :: (m ++ ')' :: v)) = u ++ '(' :: (m ++ ')' :: v) := by
    refine trim_eq_self (head?_append_mark (by decide) hfirst _) ?_
    have hback := getLast?_append_mark (show isBlank ')' = false by decide) (u ++ '(' :: m) hlast
    rwa [List.append_assoc, List.cons_append] at hback
  have hplain : ∀ c ∈ u ++ '(' :: (m ++ ')' :: v), IsPlain c := by
    simp only [List.forall_mem_append, List.forall_mem_cons]
    exact ⟨hu.isPlain, by decide, fun c hc => (hm c hc).1, by decide, hv.isPlain⟩
  have hclose : ')' ∉ m.map Char.toLower := not_mem_map_toLower (.inr rfl) fun hmem => (hm ')' hmem).2 rfl
  have hlower : ∀ c ∈ (u.map Char.toLower).getLast?, isBlank c = false := by
    rw [List.getLast?_map]
    intro c hc
    obtain ⟨d, hd, rfl⟩ := Option.map_eq_some_iff.mp hc
    rw [isBlank_toLower, hend d hd]
  have hcut : withoutModifiers ((u ++ '(' :: (m ++ ')' :: v)).map Char.toLower) = (u ++ v).map Char.toLower := by
    simp only [List.map_append, List.map_cons]
    rw [show '('.toLower = '(' from rfl, show ')'.toLower = ')' from rfl, withoutModifiers_append hu.map_toLower hclose,
      withoutModifiers_eq_self hv.map_toLower, trimEnd_eq_self hlower]
  rw [normalName_of_isBare (hu.append hv), normalName, htrim, lowerCase_eq_map hplain, hcut, trim_map_toLower]

/-- **A modifier does not count** behind anything but white space -/
theorem normalName_modifier {u m v : List Char} (hu : IsBare u) (hm : ∀ c ∈ m, IsPlain c ∧ c ≠ ')') (hv : IsBare v)
    (hend : ∀ c ∈ u.getLast?, isBlank c = false) :
    normalName (u ++ '(' :: (m ++ ')' :: v)) = normalName (u ++ v) := by
  -- white space in front of the first part and behind the second is around the whole name, with the modifier or without
  obtain ⟨before, u, hbefore, rfl, hfirst⟩ := exists_trimStart u
  obtain ⟨v, after, hafter, rfl, hlast⟩ := exists_trimEnd v
  have hpadded (s : List Char) : Padded s (before ++ s ++ after) := ⟨before, after, rfl, hbefore, hafter⟩
  have hlastOfFirst : ∀ c ∈ u.getLast?, isBlank c = false := by
    intro c hc
    refine hend c ?_
    rw [List.getLast?_append, hc]
    rfl
  obtain ⟨-, hu⟩ := List.forall_mem_append.mp hu
  obtain ⟨hv, -⟩ := List.forall_mem_append.mp hv
  calc normalName (before ++ u ++ '(' :: (m ++ ')' :: (v ++ after)))
      = normalName (before ++ (u ++ '(' :: (m ++ ')' :: v)) ++ after) := by simp
    _ = normalName (u ++ '(' :: (m ++ ')' :: v)) := normalName_congr (hpadded _).trim_eq
    _ = normalName (u ++ v) := normalName_trimmed hu hm hv hfirst hlastOfFirst hlast
    _ = normalName (before ++ (u ++ v) ++ after) := normalName_congr (hpadded _).trim_eq.symm
    _ = normalName (before ++ u ++ (v ++ after)) := by simp

/-! ## Types -/

/-- **The type of a name does not depend on its spelling.** Take a name in ASCII without parentheses. In letters of any
case, with white space of any kind added around it and in place of the white space in it, it stands for the same type; and
so it does with any modifier in parentheses, put in behind anything but white space. -/
theorem ofName_spelling {s : List Char} (hascii : ∀ c ∈ s, c.toNat < 128) (hparentheses : '(' ∉ s ∧ ')' ∉ s) :
    (∀ t before after : List Char, Respelled s t → (∀ c ∈ before, isBlank c = true) → (∀ c ∈ after, isBlank c = true) →
      ofName (String.ofList (before ++ t ++ after)) = ofName (String.ofList s)) ∧
    ∀ u v m : List Char, s = u ++ v → (∀ c ∈ u.getLast?, isBlank c = false) → (∀ c ∈ m, c.toNat < 128 ∧ c ≠ ')') →
      ofName (String.ofList (u ++ '(' :: (m ++ ')' :: v))) = ofName (String.ofList s) := by
  have hbare : IsBare s := fun c hc => ⟨.inl (hascii c hc), fun heq => hparentheses.1 (heq ▸ hc)⟩
  simp only [ofName, String.toList_ofList]
  constructor
  · intro t before after hrespelled hbefore hafter
    rw [normalName_respelled hbare hrespelled ⟨before, after, rfl, hbefore, hafter⟩]
  · intro u v m hs hend hm
    obtain ⟨hu, hv⟩ := List.forall_mem_append.mp (hs ▸ hbare)
    rw [normalName_modifier hu (fun c hc => ⟨.inl (hm c hc).1, (hm c hc).2⟩) hv hend, hs]

/-- a type in capitals, with a tab and a wide space in it, and with a modifier that opens a parenthesis itself -/
theorem ofName_bits :
    let name := "bit varying".toList
    let spelling := "BIT".toList ++ (['\t', '\u3000'] ++ "Varying".toList)
    (∀ c ∈ name, c.toNat < 128) ∧ ('(' ∉ name ∧ ')' ∉ name) ∧ Respelled name spelling ∧
      ofName (String.ofList name) = .binary ∧ ofName (String.ofList ([' '] ++ spelling ++ ['\n'])) = .binary ∧
      ofName (String.ofList ("bit".toList ++ '(' :: ("( 6".toList ++ ')' :: " varying".toList))) = .binary := by
  intro name spelling
  have hascii : ∀ c ∈ name, c.toNat < 128 := List.all_iff_forall_prop.mp (by decide)
  have hparentheses : '(' ∉ name ∧ ')' ∉ name := by decide
  have hbit : Respelled "bit".toList "BIT".toList := .of_map_eq (by decide)
  have hvarying : Respelled "varying".toList "Varying".toList := .of_map_eq (by decide)
  have hgap : Respelled ([' '] ++ "varying".toList) (['\t', '\u3000'] ++ "Varying".toList) :=
    .gap ⟨by decide, List.all_eq_true.mp (by decide)⟩ ⟨by decide, List.all_eq_true.mp (by decide)⟩ hvarying
  have hspelling : Respelled name spelling := hbit.append hgap
  have hbinary : ofName (String.ofList name) = .binary := by decide +kernel
  have hend : ∀ c ∈ "bit".toList.getLast?, isBlank c = false := by
    intro c hc
    obtain rfl : 't' = c := by simpa using hc
    decide
  have hmodifier : ∀ c ∈ "( 6".toList, c.toNat < 128 ∧ c ≠ ')' := List.all_iff_forall_prop.mp (by decide)
  obtain ⟨hspelled, hmodified⟩ := ofName_spelling hascii hparentheses
  have hpadded := hspelled spelling [' '] ['\n'] hspelling (List.all_eq_true.mp (by decide))
    (List.all_eq_true.mp (by decide))
  exact ⟨hascii, hparentheses, hspelling, hbinary, hpadded.trans hbinary,
    (hmodified "bit".toList " varying".toList "( 6".toList (by decide) hend hmodifier).trans hbinary⟩

end ColumnType

end TableGraph
