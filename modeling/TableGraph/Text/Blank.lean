/-
White space: the property White_Space of characters, and the removal of white space at the ends of a text.

`trim_eq_self` says that a text with no white space at either end is left alone; `padded_trim`, `Padded.trim_eq` and
`trim_eq_of_padded` say that what is removed is the white space around a word; `isBlank_eq_ascii` gives the property on ASCII
in closed form.
-/
import TableGraph.Text.CodeRange

namespace TableGraph.Text

/-- the code points with the property White_Space; a byte order mark is not among them -/
def blankRanges : List CodeRange := [
  (0x09, 0x0D), (0x20, 0x20), (0x85, 0x85), (0xA0, 0xA0), (0x1680, 0x1680), (0x2000, 0x200A), (0x2028, 0x2029),
  (0x202F, 0x202F), (0x205F, 0x205F), (0x3000, 0x3000)]

/-- whether a character is white space -/
def isBlank (c : Char) : Bool := CodeRange.covers blankRanges c.toNat

/-- a text without the white space it begins with -/
def trimStart (s : List Char) : List Char := s.dropWhile isBlank

/-- a text without the white space it ends with -/
def trimEnd (s : List Char) : List Char := (s.reverse.dropWhile isBlank).reverse

/-- a text without the white space at its ends -/
def trim (s : List Char) : List Char := trimEnd (trimStart s)

/-- each run of white space becomes one space -/
def collapseBlanks : List Char → List Char
  | [] => []
  | [c] => if isBlank c then [' '] else [c]
  | c :: d :: rest =>
    if isBlank c then
      if isBlank d then collapseBlanks (d :: rest) else ' ' :: collapseBlanks (d :: rest)
    else c :: collapseBlanks (d :: rest)

theorem isBlank_eq_ascii {c : Char} (h : c.toNat < 128) :
    isBlank c = (decide (9 ≤ c.toNat ∧ c.toNat ≤ 13) || decide (c.toNat = 32)) := by
  rw [Bool.eq_iff_iff]
  simp only [isBlank, CodeRange.covers_iff, blankRanges, List.mem_cons, List.not_mem_nil, or_false,
    exists_eq_or_imp, exists_eq_left, Bool.or_eq_true, decide_eq_true_eq]
  omega

theorem trimStart_eq_self {s : List Char} (h : ∀ c ∈ s.head?, isBlank c = false) : trimStart s = s := by
  cases s with
  | nil => rfl
  | cons c r => exact List.dropWhile_cons_of_neg (by simp [h c (by simp)])

theorem trimEnd_eq_self {s : List Char} (h : ∀ c ∈ s.getLast?, isBlank c = false) : trimEnd s = s := by
  have hstart : trimStart s.reverse = s.reverse :=
    trimStart_eq_self fun c hc => h c (by rwa [List.getLast?_eq_head?_reverse])
  rw [trimEnd, ← trimStart, hstart, List.reverse_reverse]

theorem trim_eq_self {s : List Char} (hfirst : ∀ c ∈ s.head?, isBlank c = false)
    (hlast : ∀ c ∈ s.getLast?, isBlank c = false) : trim s = s := by
  rw [trim, trimStart_eq_self hfirst, trimEnd_eq_self hlast]

/-- a text that is a word with white space around it -/
def Padded (word s : List Char) : Prop :=
  ∃ before after, s = before ++ word ++ after ∧ (∀ c ∈ before, isBlank c = true) ∧ ∀ c ∈ after, isBlank c = true

theorem isBlank_of_mem_takeWhile {s : List Char} {c : Char} (h : c ∈ s.takeWhile isBlank) : isBlank c = true :=
  List.all_eq_true.mp (List.all_takeWhile) c h

theorem padded_trim (s : List Char) : Padded (trim s) s := by
  refine ⟨s.takeWhile isBlank, ((trimStart s).reverse.takeWhile isBlank).reverse, ?_,
    fun c hc => isBlank_of_mem_takeWhile hc, fun c hc => isBlank_of_mem_takeWhile (List.mem_reverse.mp hc)⟩
  rw [List.append_assoc, trim, trimEnd, ← List.reverse_append, List.takeWhile_append_dropWhile, List.reverse_reverse,
    trimStart, List.takeWhile_append_dropWhile]

theorem trimStart_append {before : List Char} (h : ∀ c ∈ before, isBlank c = true) (s : List Char) :
    trimStart (before ++ s) = trimStart s := List.dropWhile_append_of_pos h

theorem trimEnd_append {after : List Char} (h : ∀ c ∈ after, isBlank c = true) (s : List Char) :
    trimEnd (s ++ after) = trimEnd s := by
  rw [trimEnd, List.reverse_append, List.dropWhile_append_of_pos fun c hc => h c (List.mem_reverse.mp hc), trimEnd]

/-- white space around a text does not count -/
theorem Padded.trim_eq {word s : List Char} (h : Padded word s) : trim s = trim word := by
  obtain ⟨before, after, rfl, hbefore, hafter⟩ := h
  rw [trim, List.append_assoc, trimStart_append hbefore, trimStart, List.dropWhile_append]
  split
  · next hempty =>
    -- the word is white space itself, and nothing is left
    have hnothing : trimStart (after ++ []) = [] := trimStart_append hafter []
    rw [List.append_nil, trimStart] at hnothing
    rw [hnothing, trim, trimStart, List.isEmpty_iff.mp hempty]
  · rw [trimEnd_append hafter]
    rfl

theorem trim_eq_of_padded {word s : List Char} (hfirst : ∀ c ∈ word.head?, isBlank c = false)
    (hlast : ∀ c ∈ word.getLast?, isBlank c = false) (h : Padded word s) : trim s = word :=
  h.trim_eq.trans (trim_eq_self hfirst hlast)

theorem trim_subset (s : List Char) : trim s ⊆ s := by
  obtain ⟨before, after, hs, -, -⟩ := padded_trim s
  intro c hc
  rw [hs]
  exact List.mem_append_left after (List.mem_append_right before hc)

theorem trim_trim (s : List Char) : trim (trim s) = trim s := (padded_trim s).trim_eq.symm

end TableGraph.Text
