/-
Whole numbers in text, by what their spellings denote. A spelling is a run of decimal digits, perhaps with a sign before
it; leading zeros are allowed. A text is read if it spells a number within the limits, and then as this number.

The digits are read from the left, and the limit is looked at after each of them. That the number read so far never
exceeds the number in the end is what makes the early end harmless (`le_ofDigitChars`).

Results:
- `Whole.signedIn_eq_ok_iff`, `Whole.unsignedIn_eq_ok_iff`: what is read between two limits, and up to one.
- `Whole.int64?_eq_some_iff`: what is read as a number of 64 bits.
- `Whole.Spells.unique`, `Whole.spells_text`: a text spells at most one number, and a number is spelled by its text.
-/
import Mathlib.Tactic
import TableGraph.Number.Whole
import TableGraph.Proofs.Calls
import TableGraph.Text.Blank

namespace TableGraph

open Text

/-! ## Digits -/

namespace Digits

/-- further digits only make a number larger -/
theorem le_ofDigitChars (s : List Char) (found : Nat) : found ≤ Nat.ofDigitChars 10 s found := by
  induction s generalizing found with
  | nil => exact Nat.le_refl _
  | cons c rest ih =>
    rw [Nat.ofDigitChars_cons]
    have hrest := ih (10 * found + (c.toNat - '0'.toNat))
    omega

/-- the decimal digits are the digits of base ten -/
theorem digitIn?_ten (c : Char) : digitIn? 10 c = if c.isDigit then some (c.toNat - '0'.toNat) else none := by
  have hdigit : c.isDigit = decide ('0'.toNat ≤ c.toNat ∧ c.toNat ≤ '9'.toNat) := by
    rw [Bool.eq_iff_iff, decide_eq_true_iff]
    exact Char.isDigit_iff_toNat
  unfold digitIn?
  rw [hdigit]
  simp only [decide_eq_true_eq, show '0'.toNat = 48 from rfl, show '9'.toNat = 57 from rfl, show 'a'.toNat = 97 from rfl,
    show 'z'.toNat = 122 from rfl, show 'A'.toNat = 65 from rfl, show 'Z'.toNat = 90 from rfl]
  split_ifs <;> simp [Option.filter]
  omega

end Digits

namespace Whole

/-- digits are read if all of them are decimal digits and the number they end in is within the limit -/
theorem digits_eq_ok_iff {limit : Nat} {overflow : WholeError} {s : List Char} {found n : Nat} (hfound : found ≤ limit) :
    digits 10 limit overflow found s = .ok n ↔
      (∀ c ∈ s, c.isDigit = true) ∧ n = Nat.ofDigitChars 10 s found ∧ n ≤ limit := by
  induction s generalizing found with
  | nil => simp only [digits, Except.ok.injEq, Nat.ofDigitChars_nil, List.not_mem_nil]; grind
  | cons c rest ih =>
    rw [digits, Digits.digitIn?_ten, Nat.ofDigitChars_cons]
    by_cases hdigit : c.isDigit = true
    · rw [if_pos hdigit]
      by_cases hlimit : 10 * found + (c.toNat - '0'.toNat) ≤ limit
      · simp only [if_pos hlimit, ih hlimit, List.forall_mem_cons, hdigit, true_and]
      · -- the number read so far is too large, and so is the one that the digits end in
        have hlarge := Digits.le_ofDigitChars rest (10 * found + (c.toNat - '0'.toNat))
        simp only [if_neg hlimit, reduceCtorEq, false_iff]
        rintro ⟨-, rfl, hle⟩
        exact hlimit (hlarge.trans hle)
    · simp [hdigit]

/-- a run of decimal digits that is not empty -/
def IsNumeral (s : List Char) : Prop := s ≠ [] ∧ ∀ c ∈ s, c.isDigit = true

theorem not_isNumeral_of_sign {c : Char} {s : List Char} (hsign : c.isDigit = false) : ¬IsNumeral (c :: s) := fun h =>
  Bool.false_ne_true (hsign.symm.trans (h.2 c List.mem_cons_self))

/-- what stands after a sign is read if it is a numeral within the limit -/
theorem afterSign_eq_ok_iff {limit : Nat} {overflow : WholeError} {s : List Char} {n : Nat} :
    afterSign 10 limit overflow s = .ok n ↔
      IsNumeral s ∧ n = Digits.value s ∧ n ≤ limit := by
  unfold afterSign IsNumeral
  cases s with
  | nil => simp
  | cons c rest =>
    simp only [List.isEmpty_cons, Bool.false_eq_true, if_false, digits_eq_ok_iff (Nat.zero_le limit), Digits.value,
      ne_eq, reduceCtorEq, not_false_eq_true, true_and]

/-! ## Spellings -/

/-- a text spells a whole number: a numeral, perhaps after a sign -/
inductive Spells : List Char → Int → Prop
  | unsigned {s : List Char} (h : IsNumeral s) : Spells s (Digits.value s)
  | plus {s : List Char} (h : IsNumeral s) : Spells ('+' :: s) (Digits.value s)
  | minus {s : List Char} (h : IsNumeral s) : Spells ('-' :: s) (-Digits.value s)

theorem not_spells_nil {n : Int} : ¬Spells [] n := by
  rintro ⟨h⟩
  exact h.1 rfl

theorem spells_plus_iff {s : List Char} {n : Int} :
    Spells ('+' :: s) n ↔ IsNumeral s ∧ n = Digits.value s := by
  constructor
  · intro h
    cases h with
    | unsigned hdigits => exact absurd hdigits (not_isNumeral_of_sign (by decide))
    | plus hdigits => exact ⟨hdigits, rfl⟩
  · rintro ⟨hdigits, rfl⟩
    exact .plus hdigits

theorem spells_minus_iff {s : List Char} {n : Int} :
    Spells ('-' :: s) n ↔ IsNumeral s ∧ n = -Digits.value s := by
  constructor
  · intro h
    cases h with
    | unsigned hdigits => exact absurd hdigits (not_isNumeral_of_sign (by decide))
    | minus hdigits => exact ⟨hdigits, rfl⟩
  · rintro ⟨hdigits, rfl⟩
    exact .minus hdigits

theorem spells_unsigned_iff {s : List Char} {n : Int} (hplus : ∀ rest, s ≠ '+' :: rest)
    (hminus : ∀ rest, s ≠ '-' :: rest) :
    Spells s n ↔ IsNumeral s ∧ n = Digits.value s := by
  constructor
  · intro h
    cases h with
    | unsigned hdigits => exact ⟨hdigits, rfl⟩
    | plus => exact absurd rfl (hplus _)
    | minus => exact absurd rfl (hminus _)
  · rintro ⟨hdigits, rfl⟩
    exact .unsigned hdigits

/-- **Reading between limits**: a text is read as the number that it spells -/
theorem signedIn_eq_ok_iff {least most : Nat} {s : List Char} {n : Int} :
    signedIn 10 least most s = .ok n ↔ Spells s n ∧ -least ≤ n ∧ n ≤ most := by
  unfold signedIn
  split
  · simp [not_spells_nil]
  · rw [spells_plus_iff, map_eq_ok_iff]
    simp only [afterSign_eq_ok_iff]
    grind
  · rw [spells_minus_iff, map_eq_ok_iff]
    simp only [afterSign_eq_ok_iff]
    grind
  · next hplus hminus =>
    rw [spells_unsigned_iff hplus hminus, map_eq_ok_iff]
    simp only [afterSign_eq_ok_iff]
    grind

/-- **Reading up to a limit**: a text is read as the number that it spells, if there is no minus in front -/
theorem unsignedIn_eq_ok_iff {limit : Nat} {s : List Char} {n : Nat} :
    unsignedIn 10 limit s = .ok n ↔ Spells s n ∧ s.head? ≠ some '-' ∧ n ≤ limit := by
  unfold unsignedIn
  split
  · simp [not_spells_nil]
  · rw [spells_plus_iff, afterSign_eq_ok_iff]
    simp [and_assoc, Nat.cast_inj]
  · next _ hplus =>
    rw [afterSign_eq_ok_iff]
    by_cases hminus : s.head? = some '-'
    · obtain ⟨rest, rfl⟩ := List.head?_eq_some_iff.mp hminus
      simp [not_isNumeral_of_sign (show '-'.isDigit = false by decide)]
    · have hfirst (rest : List Char) : s ≠ '-' :: rest := by
        rintro rfl
        exact hminus rfl
      rw [spells_unsigned_iff hplus hfirst]
      simp [hminus, and_assoc, Nat.cast_inj]

/-- **Reading a number of 64 bits**: a text is read as the number that it spells, if this is a number of 64 bits -/
theorem int64?_eq_some_iff {s : List Char} {n : Int64} : int64? s = some n ↔ Spells s n.toInt := by
  have hlow := n.le_toInt
  have hhigh := n.toInt_lt
  have hread (m : Int) : signedIn 10 (Nat.pow 2 63) (Nat.pow 2 63 - 1) s = .ok m ↔
      Spells s m ∧ -2 ^ 63 ≤ m ∧ m < 2 ^ 63 := by
    rw [signedIn_eq_ok_iff]
    norm_num
    omega
  unfold int64?
  constructor
  · intro h
    split at h
    · next m hm =>
      obtain ⟨hspells, hlow, hhigh⟩ := (hread m).mp hm
      rw [← Option.some.inj h, Int64.toInt_ofInt_of_le hlow hhigh]
      exact hspells
    · exact nomatch h
  · intro hspells
    rw [(hread n.toInt).mpr ⟨hspells, hlow, hhigh⟩]
    exact congrArg some (Int64.ofInt_toInt n)

/-! ## Spellings in texts -/

theorem isBlank_of_isDigit {c : Char} (h : c.isDigit = true) : isBlank c = false := by
  have hcode := Char.isDigit_iff_toNat.mp h
  rw [show '0'.toNat = 48 from rfl, show '9'.toNat = 57 from rfl] at hcode
  rw [isBlank_eq_ascii (by omega)]
  simp only [Bool.or_eq_false_iff, decide_eq_false_iff_not]
  omega

/-- there is no white space in a spelling -/
theorem Spells.isBlank {s : List Char} {n : Int} (h : Spells s n) : ∀ c ∈ s, isBlank c = false := by
  cases h with
  | unsigned h => exact fun c hc => isBlank_of_isDigit (h.2 c hc)
  | plus h => exact List.forall_mem_cons.mpr ⟨by decide, fun c hc => isBlank_of_isDigit (h.2 c hc)⟩
  | minus h => exact List.forall_mem_cons.mpr ⟨by decide, fun c hc => isBlank_of_isDigit (h.2 c hc)⟩

/-- **A text spells one number** at most -/
theorem Spells.unique {s : List Char} {n m : Int} (hn : Spells s n) (hm : Spells s m) : n = m := by
  cases hn with
  | unsigned hdigits =>
    cases hm with
    | unsigned => rfl
    | plus => exact absurd hdigits (not_isNumeral_of_sign (by decide))
    | minus => exact absurd hdigits (not_isNumeral_of_sign (by decide))
  | plus => exact (spells_plus_iff.mp hm).2.symm
  | minus => exact (spells_minus_iff.mp hm).2.symm

/-- a text spells a number with white space around the spelling -/
def SpelledIn (s : List Char) (n : Int) : Prop := ∃ word, Padded word s ∧ Spells word n

theorem spelledIn_iff_spells_trim {s : List Char} {n : Int} : SpelledIn s n ↔ Spells (trim s) n := by
  constructor
  · rintro ⟨word, hpadded, h⟩
    have hfirst (c) (hc : c ∈ word.head?) := h.isBlank c (List.mem_of_head? hc)
    have hlast (c) (hc : c ∈ word.getLast?) := h.isBlank c (List.mem_of_getLast? hc)
    rwa [trim_eq_of_padded hfirst hlast hpadded]
  · exact fun h => ⟨trim s, padded_trim s, h⟩

theorem SpelledIn.unique {s : List Char} {n m : Int} (hn : SpelledIn s n) (hm : SpelledIn s m) : n = m :=
  (spelledIn_iff_spells_trim.mp hn).unique (spelledIn_iff_spells_trim.mp hm)

/-- the text of a number spells it -/
theorem spells_text (n : Int) : Spells (text n) n := by
  have hdigits : IsNumeral (Digits.ofNat n.natAbs) :=
    ⟨Nat.toDigits_ne_nil, fun c hc => Nat.isDigit_of_mem_toDigits (by decide) (by decide) hc⟩
  have hvalue : (Digits.value (Digits.ofNat n.natAbs) : Int) = |n| := by rw [Digits.value_ofNat, Int.abs_eq_natAbs]
  unfold text
  split
  · next hneg =>
    have h := Spells.minus hdigits
    rwa [hvalue, abs_of_neg hneg, neg_neg] at h
  · next hneg =>
    have h := Spells.unsigned hdigits
    rwa [hvalue, abs_of_nonneg (by omega)] at h

theorem text_injective : Function.Injective text := fun n m h => (spells_text n).unique (h ▸ spells_text m)

end Whole

end TableGraph
