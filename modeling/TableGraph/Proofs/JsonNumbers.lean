/-
Numbers in JSON: a sign, digits without a needless zero, a fraction and an exponent.

What a literal denotes is said by its parts, and by no reader: the digits on both sides of the point are a coefficient, and
its last digit stands at the place that the fraction and the exponent give. A literal has no mark at its end. It is read as
far as it can be, and so it is read back from a text that goes on with something that is in no number.

Results:
- `Json.numberLength?_append`: a number is read to its end.
- `Json.writtenOut_text`, `Json.writtenOut_sizeText`: whole numbers and decimals are written with all their digits.
- `Json.denotes_float`: floating-point numbers are written as numbers, unless they are infinite or undefined.
- `Binary64.ofText?_of_denotes`, `Binary64.ofText?_text`: literals are read as what they denote, and so these numbers are
  read back.
-/
import TableGraph.Json.Reader
import TableGraph.Proofs.FloatTexts
import TableGraph.Proofs.NearestNumbers

namespace TableGraph

namespace Json

/-! ## Numbers -/

/-- one or more digits -/
structure IsRun (s : List Char) : Prop where
  ne_nil : s ≠ []
  isDigit : ∀ c ∈ s, c.isDigit = true

/-- the digits of a whole number; only zero starts with a zero -/
structure IsWhole (s : List Char) : Prop extends IsRun s where
  of_zero : s.head? = some '0' → s.length = 1

/-- a fraction with its digits; it may be missing -/
inductive IsFraction : List Char → List Char → Prop
  | none : IsFraction [] []
  | point {digits : List Char} (h : IsRun digits) : IsFraction digits ('.' :: digits)

/-- an exponent with its number; it may be missing, and a positive one need not have a sign -/
inductive IsExponent : Int → List Char → Prop
  | none : IsExponent 0 []
  | unsigned {mark : Char} {digits : List Char} (hmark : mark = 'e' ∨ mark = 'E') (h : IsRun digits) :
      IsExponent (Digits.value digits) (mark :: digits)
  | plus {mark : Char} {digits : List Char} (hmark : mark = 'e' ∨ mark = 'E') (h : IsRun digits) :
      IsExponent (Digits.value digits) (mark :: '+' :: digits)
  | minus {mark : Char} {digits : List Char} (hmark : mark = 'e' ∨ mark = 'E') (h : IsRun digits) :
      IsExponent (-Digits.value digits) (mark :: '-' :: digits)

/-- the minus of a negative number -/
def sign (negative : Bool) : List Char := if negative then ['-'] else []

/-- a text is a number with all its digits: a sign, and a coefficient of which so many digits stand after the point as the
scale says -/
inductive WrittenOut (negative : Bool) : (coefficient scale : Nat) → List Char → Prop
  | parts {whole digits fraction : List Char} (hwhole : IsWhole whole) (hfraction : IsFraction digits fraction) :
      WrittenOut negative (Digits.value (whole ++ digits)) digits.length (sign negative ++ (whole ++ fraction))

/-- a literal denotes a number: a sign, and a coefficient times the power of ten that its last digit stands for -/
inductive Denotes (negative : Bool) : (coefficient : Nat) → (place : Int) → List Char → Prop
  | scaled {coefficient scale : Nat} {power : Int} {mantissa exponent : List Char}
      (hmantissa : WrittenOut negative coefficient scale mantissa) (hexponent : IsExponent power exponent) :
      Denotes negative coefficient (power - scale) (mantissa ++ exponent)

/-- the literal of a number -/
def IsNumber (s : List Char) : Prop := ∃ negative coefficient place, Denotes negative coefficient place s

/-- a text does not go on with anything of a number -/
def EndsNumber (rest : List Char) : Prop := ∀ c ∈ rest.head?, c.isDigit = false ∧ c ≠ '.' ∧ c ≠ 'e' ∧ c ≠ 'E'

theorem EndsNumber.ended {rest : List Char} (h : EndsNumber rest) : Digits.Ended rest := fun c hc => (h c hc).1

variable {s digits after : List Char}

/-- a run starts with a digit -/
theorem IsRun.exists_cons (h : IsRun s) : ∃ c rest, s = c :: rest ∧ c.isDigit = true := by
  obtain ⟨c, rest, rfl⟩ := List.exists_cons_of_ne_nil h.ne_nil
  exact ⟨c, rest, rfl, h.isDigit c List.mem_cons_self⟩

/-- what follows the digits of a mantissa is no digit -/
theorem IsExponent.ended {power : Int} (h : IsExponent power s) (hafter : EndsNumber after) :
    Digits.Ended (s ++ after) ∧ (s ++ after).head? ≠ some '.' := by
  cases h with
  | none => exact ⟨hafter.ended, fun hpoint => (hafter '.' hpoint).2.1 rfl⟩
  | unsigned hmark | plus hmark | minus hmark =>
    rcases hmark with rfl | rfl
    · exact ⟨Digits.ended_cons (by decide) _, by simp⟩
    · exact ⟨Digits.ended_cons (by decide) _, by simp⟩

theorem IsFraction.ended (h : IsFraction digits s) (hafter : Digits.Ended after) : Digits.Ended (s ++ after) := by
  cases h with
  | none => exact hafter
  | point => exact Digits.ended_cons (by decide) _

/-! ## Reading -/

/-- the length of the run of digits at a place -/
def digitsAt (s : List Char) (start : Nat) : Nat := ((s.drop start).takeWhile Char.isDigit).length

/-- where the fraction ends that may be at a place; a point needs digits -/
def fractionEnd? (s : List Char) (start : Nat) : Option Nat :=
  if s[start]? = some '.' then
    if digitsAt s (start + 1) = 0 then none else some (start + 1 + digitsAt s (start + 1))
  else some start

/-- where the digits of an exponent start, after its mark and its sign -/
def exponentStart (s : List Char) (mark : Nat) : Nat :=
  if s[mark + 1]? = some '+' ∨ s[mark + 1]? = some '-' then mark + 2 else mark + 1

/-- where the exponent ends that may be at a place; its mark needs digits -/
def exponentEnd? (s : List Char) (start : Nat) : Option Nat :=
  if s[start]? = some 'e' ∨ s[start]? = some 'E' then
    if digitsAt s (exponentStart s start) = 0 then none
    else some (exponentStart s start + digitsAt s (exponentStart s start))
  else some start

/-- a number is read part by part -/
theorem numberLength?_eq {sign : Nat} (hsign : sign = if s.head? == some '-' then 1 else 0) (hsome : 0 < digitsAt s sign)
    (hzero : s[sign]? = some '0' → digitsAt s sign = 1) :
    numberLength? s = (fractionEnd? s (sign + digitsAt s sign)).bind (exponentEnd? s) := by
  have hwhole : ¬(digitsAt s sign = 0 ∨ 1 < digitsAt s sign ∧ s[sign]? = some '0') := by
    rintro (hnone | ⟨hmore, hfirst⟩)
    · omega
    · have hone := hzero hfirst
      omega
  unfold numberLength?
  simp only [← hsign]
  simp only [← digitsAt.eq_def]
  rw [if_neg hwhole]
  unfold fractionEnd? exponentEnd? exponentStart
  by_cases hpoint : s[sign + digitsAt s sign]? = some '.'
  · by_cases hdigits : digitsAt s (sign + digitsAt s sign + 1) = 0
    · simp [hpoint, hdigits]
    · simp only [hpoint, hdigits, if_true, if_false, true_and, Option.bind_some]
  · simp only [hpoint, if_true, if_false, false_and, Option.bind_some]

theorem getElem?_at_end (before after : List Char) : (before ++ after)[before.length]? = after.head? := by
  rw [List.getElem?_append_right (Nat.le_refl _), Nat.sub_self, List.head?_eq_getElem?]

theorem digitsAt_append (before : List Char) (hdigits : ∀ c ∈ digits, c.isDigit = true) (hafter : Digits.Ended after) :
    digitsAt (before ++ (digits ++ after)) before.length = digits.length := by
  rw [digitsAt, List.drop_left, (Digits.span_digits hdigits hafter).1]

/-- **A fraction** is read to its end -/
theorem fractionEnd?_append (before : List Char) {fraction : List Char} (h : IsFraction digits fraction)
    (hafter : Digits.Ended after) (hpoint : after.head? ≠ some '.') :
    fractionEnd? (before ++ (fraction ++ after)) before.length = some (before ++ fraction).length := by
  unfold fractionEnd?
  rw [getElem?_at_end]
  cases h with
  | none => rw [List.nil_append, if_neg hpoint, List.append_nil]
  | point h =>
    have hread := digitsAt_append (before ++ ['.']) h.isDigit hafter
    rw [List.length_append, List.length_singleton, List.append_assoc, List.singleton_append] at hread
    have hsome : digits.length ≠ 0 := mt List.length_eq_zero_iff.mp h.ne_nil
    rw [List.cons_append, List.head?_cons, if_pos rfl, hread, if_neg hsome, List.length_append, List.length_cons]
    congr 1
    omega

theorem getElem?_after_mark (before : List Char) (mark : Char) (rest : List Char) :
    (before ++ mark :: rest)[before.length + 1]? = rest.head? := by
  have hplace := getElem?_at_end (before ++ [mark]) rest
  rwa [List.length_append, List.length_singleton, List.append_assoc, List.singleton_append] at hplace

section Exponents

variable (before : List Char) {mark : Char} (hmark : mark = 'e' ∨ mark = 'E') (h : IsRun digits) (hafter : EndsNumber after)
include hmark h hafter

/-- an exponent with a sign is read to its end -/
theorem exponentEnd?_signed {sign : Char} (hsign : sign = '+' ∨ sign = '-') :
    exponentEnd? (before ++ (mark :: sign :: digits ++ after)) before.length =
      some (before ++ mark :: sign :: digits).length := by
  have hread : digitsAt (before ++ mark :: sign :: (digits ++ after)) (before.length + 2) = digits.length := by
    have hread := digitsAt_append (before ++ [mark, sign]) h.isDigit hafter.ended
    rwa [List.length_append, List.append_assoc] at hread
  have hsome : digits.length ≠ 0 := mt List.length_eq_zero_iff.mp h.ne_nil
  unfold exponentEnd? exponentStart
  rw [getElem?_at_end, List.cons_append, List.cons_append, List.head?_cons,
    if_pos (hmark.imp (congrArg some) (congrArg some)), getElem?_after_mark, List.head?_cons,
    if_pos (hsign.imp (congrArg some) (congrArg some)), hread, if_neg hsome, List.length_append, List.length_cons,
    List.length_cons]
  congr 1
  omega

/-- an exponent without a sign is read to its end -/
theorem exponentEnd?_unsigned :
    exponentEnd? (before ++ (mark :: digits ++ after)) before.length = some (before ++ mark :: digits).length := by
  have hread := digitsAt_append (before ++ [mark]) h.isDigit hafter.ended
  rw [List.length_append, List.length_singleton, List.append_assoc, List.singleton_append] at hread
  have hsome : digits.length ≠ 0 := mt List.length_eq_zero_iff.mp h.ne_nil
  have hsign : ¬((digits ++ after).head? = some '+' ∨ (digits ++ after).head? = some '-') := by
    obtain ⟨c, rest, rfl, hc⟩ := h.exists_cons
    intro hsign
    rcases hsign with hsign | hsign
    · cases hsign
      exact absurd hc (by decide)
    · cases hsign
      exact absurd hc (by decide)
  unfold exponentEnd? exponentStart
  rw [getElem?_at_end, List.cons_append, List.head?_cons, if_pos (hmark.imp (congrArg some) (congrArg some)),
    getElem?_after_mark, if_neg hsign, hread, if_neg hsome, List.length_append, List.length_cons]
  congr 1
  omega

end Exponents

/-- **An exponent** is read to its end -/
theorem exponentEnd?_append (before : List Char) {exponent : List Char} {power : Int} (h : IsExponent power exponent)
    (hafter : EndsNumber after) :
    exponentEnd? (before ++ (exponent ++ after)) before.length = some (before ++ exponent).length := by
  cases h with
  | none =>
    have hmark : ¬(after.head? = some 'e' ∨ after.head? = some 'E') := by
      intro hmark
      rcases hmark with hmark | hmark
      · exact (hafter 'e' hmark).2.2.1 rfl
      · exact (hafter 'E' hmark).2.2.2 rfl
    unfold exponentEnd?
    rw [getElem?_at_end, List.nil_append, if_neg hmark, List.append_nil]
  | unsigned hmark h => exact exponentEnd?_unsigned before hmark h hafter
  | plus hmark h => exact exponentEnd?_signed before hmark h hafter (.inl rfl)
  | minus hmark h => exact exponentEnd?_signed before hmark h hafter (.inr rfl)

/-- **A number is read to its end** -/
theorem numberLength?_append (h : IsNumber s) (hafter : EndsNumber after) : numberLength? (s ++ after) = some s.length := by
  obtain ⟨negative, coefficient, place, hmantissa, hexponent⟩ := h
  cases hmantissa with
  | @parts whole digits fraction hwhole hfraction =>
    next exponent =>
    obtain ⟨hended, hpoint⟩ := hexponent.ended hafter
    have hrest := hfraction.ended hended
    generalize hsign : sign negative = sign
    have htext : sign ++ (whole ++ fraction) ++ exponent ++ after =
        sign ++ (whole ++ (fraction ++ (exponent ++ after))) := by
      simp only [List.append_assoc]
    obtain ⟨c, rest, hcons, hc⟩ := hwhole.exists_cons
    have hlength : sign.length =
        if (sign ++ (whole ++ (fraction ++ (exponent ++ after)))).head? == some '-' then 1 else 0 := by
      subst hsign
      cases negative with
      | true => rfl
      | false =>
        have hminus : c ≠ '-' := by
          rintro rfl
          exact absurd hc (by decide)
        simp [Json.sign, hcons, hminus]
    have hdigits := digitsAt_append sign hwhole.isDigit hrest
    have hfirst : (sign ++ (whole ++ (fraction ++ (exponent ++ after))))[sign.length]? = whole.head? := by
      rw [getElem?_at_end, List.head?_append_of_ne_nil _ hwhole.ne_nil]
    rw [htext, numberLength?_eq hlength, hdigits]
    · have hfractionEnd := fractionEnd?_append (sign ++ whole) hfraction hended hpoint
      have hexponentEnd := exponentEnd?_append (sign ++ whole ++ fraction) hexponent hafter
      simp only [List.append_assoc] at hfractionEnd hexponentEnd ⊢
      rw [← List.length_append, hfractionEnd, Option.bind_some, hexponentEnd]
    · rw [hdigits]
      exact List.length_pos_of_ne_nil hwhole.ne_nil
    · rw [hdigits, hfirst]
      exact hwhole.of_zero

/-- a number starts with a minus or a digit -/
theorem IsNumber.exists_cons (h : IsNumber s) : ∃ c rest, s = c :: rest ∧ (c = '-' ∨ c.isDigit = true) := by
  obtain ⟨negative, coefficient, place, ⟨hwhole, -⟩, -⟩ := h
  obtain ⟨c, rest, rfl, hc⟩ := hwhole.exists_cons
  cases negative with
  | true => exact ⟨'-', _, rfl, .inl rfl⟩
  | false => exact ⟨c, _, rfl, .inr hc⟩

/-! ## Writing -/

end Json

namespace Digits

/-- a positive number does not start with a zero -/
theorem head?_ofNat_ne {n : Nat} (h : 0 < n) : (ofNat n).head? ≠ some '0' := by
  induction n using Nat.strong_induction_on with
  | h n ih =>
    rw [ofNat, Nat.toDigits_eq_if (by decide)]
    split
    · simpa using h.ne'
    · have hne : Nat.toDigits 10 (n / 10) ≠ [] := List.ne_nil_of_length_pos (length_ofNat_pos (n / 10))
      rw [List.head?_append_of_ne_nil _ hne]
      exact ih (n / 10) (by omega) (by omega)

theorem isRun_ofNat (n : Nat) : Json.IsRun (ofNat n) where
  ne_nil := List.ne_nil_of_length_pos (length_ofNat_pos n)
  isDigit _ := isDigit_of_mem_ofNat

theorem isWhole_ofNat (n : Nat) : Json.IsWhole (ofNat n) where
  toIsRun := isRun_ofNat n
  of_zero h := by
    rcases Nat.eq_zero_or_pos n with rfl | hpos
    · rfl
    · exact absurd h (head?_ofNat_ne hpos)

end Digits

namespace Json

/-- a number written out denotes its coefficient without the point, at the place of its last digit -/
theorem WrittenOut.denotes {negative : Bool} {coefficient scale : Nat} (h : WrittenOut negative coefficient scale s) :
    Denotes negative coefficient (-scale) s := by
  have hscaled := Denotes.scaled h .none
  rwa [List.append_nil, zero_sub] at hscaled

theorem writtenOut_ofNat (negative : Bool) (n : Nat) : WrittenOut negative n 0 (sign negative ++ Digits.ofNat n) := by
  have hparts : WrittenOut negative _ _ _ := .parts (Digits.isWhole_ofNat n) .none
  rwa [List.append_nil, Digits.value_ofNat] at hparts

/-- digits up to the point are a whole number, however far they are padded -/
theorem isWhole_take_padded (coefficient scale : Nat) :
    IsWhole ((Digits.padded (scale + 1) coefficient).take ((Digits.padded (scale + 1) coefficient).length - scale)) := by
  have hlength := Digits.length_padded_eq_max (scale + 1) coefficient
  by_cases hshort : (Digits.ofNat coefficient).length ≤ scale
  · -- all digits come after the point
    have hzeros : scale + 1 - (Digits.ofNat coefficient).length = scale - (Digits.ofNat coefficient).length + 1 := by omega
    have hone : (Digits.padded (scale + 1) coefficient).length - scale = 1 := by omega
    rw [hone, Digits.padded, hzeros, List.replicate_succ]
    exact Digits.isWhole_ofNat 0
  · have hfull : Digits.padded (scale + 1) coefficient = Digits.ofNat coefficient := by
      have hzeros : scale + 1 - (Digits.ofNat coefficient).length = 0 := by omega
      rw [Digits.padded, hzeros, List.replicate_zero, List.nil_append]
    obtain ⟨k, hk⟩ : ∃ k, (Digits.ofNat coefficient).length - scale = k + 1 :=
      ⟨(Digits.ofNat coefficient).length - scale - 1, by omega⟩
    have hwhole := Digits.isWhole_ofNat coefficient
    rw [hfull, hk]
    obtain ⟨c, rest, hcons, -⟩ := hwhole.exists_cons
    rw [hcons] at hwhole ⊢
    refine ⟨⟨List.cons_ne_nil _ _, fun d hd => hwhole.isDigit d (List.mem_of_mem_take hd)⟩, fun hzero => ?_⟩
    have hone := hwhole.of_zero hzero
    rw [List.length_take, hone]
    omega

/-- **Decimals are written out** -/
theorem writtenOut_sizeText (negative : Bool) (coefficient scale : Nat) :
    WrittenOut negative coefficient scale (sign negative ++ Decimal.sizeText coefficient scale) := by
  by_cases hscale : scale = 0
  · rw [hscale]
    exact writtenOut_ofNat negative coefficient
  · obtain ⟨digits, hdigits⟩ : ∃ digits, digits = Digits.padded (scale + 1) coefficient := ⟨_, rfl⟩
    have hwhole := isWhole_take_padded coefficient scale
    have hlength := Digits.length_padded_eq_max (scale + 1) coefficient
    have hfraction : (digits.drop (digits.length - scale)).length = scale := by
      rw [List.length_drop, hdigits]
      omega
    have hrun : IsRun (digits.drop (digits.length - scale)) := by
      refine ⟨List.ne_nil_of_length_pos (by omega), fun c hc => ?_⟩
      exact Digits.isDigit_of_mem_padded (hdigits ▸ List.mem_of_mem_drop hc)
    rw [← hdigits] at hwhole
    have hparts : WrittenOut negative _ _ _ := .parts hwhole (.point hrun)
    rw [List.take_append_drop, hfraction, hdigits, Digits.value_padded, ← hdigits] at hparts
    rw [Decimal.sizeText, if_neg hscale]
    simp only [← hdigits]
    exact hparts

/-- **Whole numbers** are written out -/
theorem writtenOut_text (n : Int) : WrittenOut (n < 0) n.natAbs 0 (Whole.text n) := by
  have hwritten := writtenOut_ofNat (n < 0) n.natAbs
  unfold Whole.text
  unfold sign at hwritten
  split <;> simpa [*] using hwritten

/-! ## Floating-point numbers -/

section Floats

open Binary64

/-- a whole number gets a fraction of zero, a fraction stays as it is -/
theorem pointed_true (form : DecimalForm) : pointed true form = pointed false form ∨
    ∃ k, form.leading = .ofNat k ∧ form.digits.length ≤ k + 1 ∧ pointed true form = pointed false form ++ ['.', '0'] := by
  obtain ⟨digits, leading⟩ := form
  cases leading with
  | negSucc k => exact .inl rfl
  | ofNat k =>
    cases hdrop : digits.drop (k + 1) with
    | nil =>
      refine .inr ⟨k, rfl, List.drop_eq_nil_iff.mp hdrop, ?_⟩
      simp only [pointed, hdrop, if_true, Bool.false_eq_true, if_false]
    | cons d rest =>
      refine .inl ?_
      simp only [pointed, hdrop]

/-- **Digits with a point** are a number written out -/
theorem writtenOut_pointed (negative : Bool) {c : Nat} (hc : c % 10 ≠ 0) (leading : Int) :
    ∃ coefficient scale, WrittenOut negative coefficient scale (sign negative ++ pointed true ⟨Digits.ofNat c, leading⟩) ∧
      (coefficient : ℚ) / 10 ^ scale = c * 10 ^ (leading - (Digits.ofNat c).length + 1) := by
  rcases pointed_true ⟨Digits.ofNat c, leading⟩ with hsame | ⟨k, hleading, hle, hpoint⟩
  · obtain ⟨coefficient, scale, -, htext, hvalue⟩ := pointed_eq hc leading
    refine ⟨coefficient, scale, ?_, hvalue⟩
    rw [hsame, htext]
    exact writtenOut_sizeText negative coefficient scale
  · obtain rfl : leading = .ofNat k := hleading
    have hpos : 0 < c := Nat.pos_of_ne_zero fun hzero => hc (by rw [hzero])
    generalize hwhole : c * 10 ^ (k + 1 - (Digits.ofNat c).length) = n
    have hn : 0 < n := hwhole ▸ Nat.mul_pos hpos (Nat.pow_pos (by decide))
    have hparts : WrittenOut negative _ _ _ := .parts (Digits.isWhole_ofNat n) (.point (Digits.isRun_ofNat 0))
    have hzero : Digits.ofNat 0 = ['0'] := rfl
    rw [hzero, ← Digits.ofNat_mul_ten hn, Digits.value_ofNat] at hparts
    refine ⟨n * 10, 1, ?_, ?_⟩
    · rw [hpoint, pointed_whole hpos hle, hwhole]
      exact hparts
    · have hplace : Int.ofNat k - (Digits.ofNat c).length + 1 = (k + 1 - (Digits.ofNat c).length : Nat) := by
        have hle : (Digits.ofNat c).length ≤ k + 1 := hle
        rw [Int.ofNat_eq_natCast]
        omega
      rw [hplace, zpow_natCast, ← hwhole]
      push_cast
      ring

/-- **Digits with an exponent** denote the number -/
theorem denotes_scientific (negative : Bool) (c : Nat) (leading : Int) :
    Denotes negative c (leading - (Digits.ofNat c).length + 1)
      (sign negative ++ scientific true ⟨Digits.ofNat c, leading⟩) := by
  have hvalue := Digits.value_ofNat c
  obtain ⟨hne, hdigits⟩ := Digits.isRun_ofNat c
  generalize Digits.ofNat c = digits at hvalue hne hdigits
  subst hvalue
  have hexponent : ∃ exponent, IsExponent leading exponent ∧ ∀ d, scientific true ⟨[d], leading⟩ = [d] ++ exponent ∧
      ∀ d' rest, scientific true ⟨d :: d' :: rest, leading⟩ = [d] ++ '.' :: d' :: rest ++ exponent := by
    cases leading with
    | ofNat k =>
      have hplus := IsExponent.plus (.inl rfl) (Digits.isRun_ofNat k)
      rw [Digits.value_ofNat] at hplus
      exact ⟨_, hplus, fun d => ⟨rfl, fun d' rest => rfl⟩⟩
    | negSucc k =>
      have hminus := IsExponent.minus (.inl rfl) (Digits.isRun_ofNat (k + 1))
      rw [Digits.value_ofNat] at hminus
      exact ⟨_, hminus, fun d => ⟨rfl, fun d' rest => rfl⟩⟩
  obtain ⟨exponent, hexponent, hform⟩ := hexponent
  obtain ⟨d, rest, rfl⟩ := List.exists_cons_of_ne_nil hne
  obtain ⟨hd, hrest⟩ := List.forall_mem_cons.mp hdigits
  have hwhole : IsWhole [d] := ⟨⟨List.cons_ne_nil d [], List.forall_mem_singleton.mpr hd⟩, fun _ => rfl⟩
  cases rest with
  | nil =>
    rw [(hform d).1, ← List.append_assoc]
    have hscaled : Denotes negative _ _ _ := .scaled (.parts hwhole .none) hexponent
    simpa using hscaled
  | cons d' rest =>
    rw [(hform d).2 d' rest, ← List.append_assoc]
    have hfraction : IsFraction (d' :: rest) ('.' :: d' :: rest) := .point ⟨List.cons_ne_nil d' rest, hrest⟩
    have hscaled : Denotes negative _ _ _ := .scaled (.parts hwhole hfraction) hexponent
    have hplace : leading - ((d :: d' :: rest).length : Nat) + 1 = leading - ((d' :: rest).length : Nat) := by
      simp only [List.length_cons]
      omega
    rw [hplace]
    exact hscaled

/-- **Finite numbers** are written as literals; these denote decimals to which no floating-point number is nearer -/
theorem denotes_float {x : Binary64} (h : x.isFinite = true) :
    ∃ negative coefficient place, Denotes negative coefficient place (x.text .json) ∧
      ofScientific negative coefficient place = x := by
  cases x with
  | undefined => exact nomatch h
  | infinite => exact nomatch h
  | finite negative significand exponent canonical =>
    by_cases hzero : significand = 0
    · subst hzero
      obtain rfl : exponent = -1074 := canonical.2.2.2.resolve_left (by decide)
      refine ⟨negative, 0, -1, (writtenOut_sizeText negative 0 1).denotes, ?_⟩
      unfold ofScientific
      exact if_pos (.inl rfl)
    · have hpos := Nat.pos_of_ne_zero hzero
      have hround : ∀ n d, Layout.json.round n d = n / d ∨ Layout.json.round n d = n / d + 1 := Rounding.nearestEven_eq_or
      obtain ⟨c, leading, hlast, hform, hholds⟩ := exists_shortest_eq exponent hpos canonical.1 hround
      have hc : 0 < c := Nat.pos_of_ne_zero fun hzero => hlast (by rw [hzero])
      rw [text, if_neg hzero, hform]
      simp only
      by_cases hplace : Layout.json.positional leading = true
      · obtain ⟨coefficient, scale, hwritten, hvalue⟩ := writtenOut_pointed negative hlast leading
        rw [if_pos hplace]
        refine ⟨negative, coefficient, -scale, hwritten.denotes, ?_⟩
        have hcoefficient : 0 < coefficient := by
          apply Nat.pos_of_ne_zero
          rintro rfl
          have hsome : (0 : ℚ) < c * 10 ^ (leading - (Digits.ofNat c).length + 1) := by positivity
          rw [← hvalue, Nat.cast_zero, zero_div] at hsome
          exact hsome.false
        have hplace : (coefficient : ℚ) / 10 ^ scale = coefficient * 10 ^ (-scale : Int) := by
          rw [zpow_neg, zpow_natCast, div_eq_mul_inv]
        rw [← hvalue, hplace] at hholds
        exact ofScientific_of_holds canonical hpos hcoefficient hholds
      · rw [if_neg hplace]
        exact ⟨negative, c, _, denotes_scientific negative c leading, ofScientific_of_holds canonical hpos hc hholds⟩

end Floats

end Json

/-! ## Reading back -/

namespace Binary64

open Json

/-- a digit has no smaller form -/
theorem toLower_digit {c : Char} (h : c.isDigit = true) : c.toLower = c := by
  simp only [Char.isDigit, Bool.and_eq_true, decide_eq_true_eq] at h
  have hupper : ¬(c.val ≥ 'A'.val ∧ c.val ≤ 'Z'.val) := by
    rintro ⟨hlow, -⟩
    exact absurd (UInt32.le_trans hlow h.2) (by decide)
  exact dif_neg hupper

/-- what starts with a digit is no name of a value that is no number -/
theorem name_ne_of_digit {c : Char} (h : c.isDigit = true) (rest : List Char) {name : String}
    (hname : name.toList.head?.any Char.isDigit = false) : String.ofList ((c :: rest).map Char.toLower) ≠ name := by
  intro hsame
  rw [← hsame, String.toList_ofList, List.map_cons, toLower_digit h] at hname
  exact Bool.false_ne_true (hname.symm.trans h)

/-- digits with a sign are read as a size -/
theorem ofText?_sign_digit (negative : Bool) {c : Char} (h : c.isDigit = true) (rest : List Char) :
    ofText? (sign negative ++ c :: rest) = sizeOfText? negative (c :: rest) := by
  have hnan : String.ofList ((c :: rest).map Char.toLower) ≠ "nan" := name_ne_of_digit h rest (by decide)
  have hinf : String.ofList ((c :: rest).map Char.toLower) ≠ "inf" := name_ne_of_digit h rest (by decide)
  have hinfinity : String.ofList ((c :: rest).map Char.toLower) ≠ "infinity" := name_ne_of_digit h rest (by decide)
  have hread : (if String.ofList ((c :: rest).map Char.toLower) = "nan" then some .undefined
      else if String.ofList ((c :: rest).map Char.toLower) = "inf" ∨
        String.ofList ((c :: rest).map Char.toLower) = "infinity" then some (.infinite negative)
      else sizeOfText? negative (c :: rest)) = sizeOfText? negative (c :: rest) := by
    rw [if_neg hnan, if_neg (not_or.mpr ⟨hinf, hinfinity⟩)]
  cases negative with
  | true => exact hread
  | false =>
    refine Eq.trans ?_ hread
    unfold ofText? sign
    rw [if_neg Bool.false_ne_true, List.nil_append]
    split
    next heq =>
    split at heq
    · next hcons => exact absurd ((List.cons.inj hcons).1 ▸ h) (by decide)
    · next hcons => exact absurd ((List.cons.inj hcons).1 ▸ h) (by decide)
    · obtain ⟨rfl, rfl⟩ := Prod.mk.inj heq
      rfl

/-- the digits after a point, and what follows them -/
def fractionParts (s : List Char) : List Char × List Char :=
  match s with
  | '.' :: rest => (rest.takeWhile Char.isDigit, rest.dropWhile Char.isDigit)
  | _ => ([], s)

/-- the exponent that is left behind the digits -/
def power? : List Char → Option Int
  | [] => some 0
  | c :: rest => if c = 'e' ∨ c = 'E' then exponentOfText? rest else none

/-- a number is read part by part -/
theorem sizeOfText?_eq (negative : Bool) (s : List Char) :
    sizeOfText? negative s =
      if (s.takeWhile Char.isDigit).isEmpty && (fractionParts (s.dropWhile Char.isDigit)).1.isEmpty then none
      else (power? (fractionParts (s.dropWhile Char.isDigit)).2).map fun exponent =>
        ofScientific negative
          (Digits.value (s.takeWhile Char.isDigit ++ (fractionParts (s.dropWhile Char.isDigit)).1))
          (exponent - (fractionParts (s.dropWhile Char.isDigit)).1.length) := by
  unfold sizeOfText? fractionParts power?
  rfl

theorem fractionParts_append {digits fraction after : List Char} (h : IsFraction digits fraction)
    (hafter : Digits.Ended after) (hpoint : after.head? ≠ some '.') :
    fractionParts (fraction ++ after) = (digits, after) := by
  cases h with
  | none =>
    rw [List.nil_append]
    unfold fractionParts
    split
    · exact absurd rfl hpoint
    · rfl
  | point h =>
    obtain ⟨htake, hdrop⟩ := Digits.span_digits h.isDigit hafter
    rw [List.cons_append, fractionParts, htake, hdrop]

/-- an exponent is read with its sign -/
theorem power?_of_isExponent {power : Int} {exponent : List Char} (h : IsExponent power exponent) :
    power? exponent = some power := by
  have hdigits {digits : List Char} (h : IsRun digits) : (digits.isEmpty || !digits.all Char.isDigit) = false := by
    simp [h.ne_nil, List.all_eq_true.mpr h.isDigit]
  cases h with
  | none => rfl
  | unsigned hmark h =>
    rw [power?, if_pos hmark]
    unfold exponentOfText?
    simp only
    obtain ⟨c, rest, rfl, hc⟩ := h.exists_cons
    split
    · next heq =>
      obtain rfl := (List.cons.inj heq).1
      exact absurd hc (by decide)
    · next heq =>
      obtain rfl := (List.cons.inj heq).1
      exact absurd hc (by decide)
    · rw [hdigits h]
      rfl
  | plus hmark h =>
    rw [power?, if_pos hmark]
    simp only [exponentOfText?, hdigits h]
    rfl
  | minus hmark h =>
    rw [power?, if_pos hmark]
    simp only [exponentOfText?, hdigits h]
    rfl

/-- **A literal is read** as the floating-point number nearest to the decimal that it denotes -/
theorem ofText?_of_denotes {negative : Bool} {coefficient : Nat} {place : Int} {literal : List Char}
    (h : Denotes negative coefficient place literal) : ofText? literal = some (ofScientific negative coefficient place) := by
  obtain ⟨⟨hwhole, hfraction⟩, hexponent⟩ := h
  next power exponent whole digits fraction =>
  obtain ⟨hended, hpoint⟩ : Digits.Ended exponent ∧ exponent.head? ≠ some '.' := by
    have hends := hexponent.ended (nofun : EndsNumber [])
    rwa [List.append_nil] at hends
  have hfractionParts := fractionParts_append hfraction hended hpoint
  obtain ⟨htake, hdrop⟩ := Digits.span_digits hwhole.isDigit (hfraction.ended hended)
  have hsome : whole.isEmpty = false := List.isEmpty_eq_false_iff.mpr hwhole.ne_nil
  have hsize : sizeOfText? negative (whole ++ (fraction ++ exponent)) =
      some (ofScientific negative (Digits.value (whole ++ digits)) (power - digits.length)) := by
    rw [sizeOfText?_eq, htake, hdrop, hfractionParts, hsome, power?_of_isExponent hexponent]
    rfl
  obtain ⟨c, rest, rfl, hc⟩ := hwhole.exists_cons
  rw [List.append_assoc, List.append_assoc, List.cons_append, ofText?_sign_digit negative hc]
  exact hsize

/-- **Finite numbers are read back** -/
theorem ofText?_text {x : Binary64} (h : x.isFinite = true) : ofText? (x.text .json) = some x := by
  obtain ⟨negative, coefficient, place, hdenotes, hvalue⟩ := denotes_float h
  rw [ofText?_of_denotes hdenotes, hvalue]

end Binary64

end TableGraph
