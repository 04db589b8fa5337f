/-
Days, times of day and moments are determined by their texts.

Most fields have a fixed width and are read off one after the other. The fields of varying width stand at the ends: the
year comes first, with a sign outside the first ten thousand years, and the fraction of a second comes last, in as many
digits as it needs.

Results:
- `Date.text_injective`, `Time.text_injective`: one text, one day or time of day. A leap second has a text of its own.
- `DateTime.textWith_injective`: one text, one moment, for any mark between day and time that is in neither of them.
-/
import Mathlib.Tactic
import TableGraph.Calendar.DateTime
import TableGraph.Proofs.Numerals

namespace TableGraph

/-! ## Days -/

namespace Date

/-- there are twelve months, of at most 31 days each -/
theorem daysInMonth_le (year : Int) (month : Nat) :
    daysInMonth year month ≤ 31 ∧ (0 < daysInMonth year month → month ≤ 12) := by
  unfold daysInMonth
  split
  case h_12 => split <;> omega
  all_goals omega

theorem month_le (d : Date) : d.month ≤ 12 :=
  (daysInMonth_le d.year d.month).2 (d.valid.2.2.1.trans d.valid.2.2.2)

theorem day_le (d : Date) : d.day ≤ 31 := d.valid.2.2.2.trans (daysInMonth_le d.year d.month).1

/-- the sign tells on which side of the first ten thousand years a year lies -/
theorem yearText_injective : Function.Injective yearText := by
  intro y z h
  have hfield (h : Digits.padded 4 y.natAbs = Digits.padded 4 z.natAbs) : y.natAbs = z.natAbs := Digits.padded_injective h
  unfold yearText at h
  simp only at h
  split_ifs at h with hy hz hz hy' hz hz' hz hz'
  · have := hfield (List.cons.inj h).2
    omega
  · exact absurd h.symm (Digits.padded_ne_cons (by decide) _ _ _)
  · exact absurd (List.cons.inj h).1 (by decide)
  · exact absurd h (Digits.padded_ne_cons (by decide) _ _ _)
  · have := hfield h
    omega
  · exact absurd h (Digits.padded_ne_cons (by decide) _ _ _)
  · exact absurd (List.cons.inj h).1 (by decide)
  · exact absurd h.symm (Digits.padded_ne_cons (by decide) _ _ _)
  · have := hfield (List.cons.inj h).2
    omega

/-- **One text, one day** -/
theorem text_injective : Function.Injective text := by
  intro d e h
  have hwidth {n : Nat} (hn : n ≤ 31) : (Digits.padded 2 n).length = 2 := Digits.length_padded (by decide) (by omega)
  have hmonth (d : Date) : (Digits.padded 2 d.month).length = 2 := hwidth (d.month_le.trans (by decide))
  have hday (d : Date) : (Digits.padded 2 d.day).length = 2 := hwidth d.day_le
  -- behind the year six characters are left
  obtain ⟨hyear, hrest⟩ := List.append_inj' h (by simp only [List.length_cons, List.length_append, hmonth, hday])
  obtain ⟨hm, hrest⟩ := List.append_inj (List.cons.inj hrest).2 (by rw [hmonth, hmonth])
  have hyear := yearText_injective hyear
  have hm := Digits.padded_injective hm
  have hd := Digits.padded_injective (List.cons.inj hrest).2
  cases d
  cases e
  rw [Date.mk.injEq]
  exact ⟨hyear, hm, hd⟩

theorem mem_text {d : Date} {c : Char} (h : c ∈ d.text) : c.isDigit = true ∨ c = '-' ∨ c = '+' := by
  have hyear (h : c ∈ yearText d.year) : c.isDigit = true ∨ c = '-' ∨ c = '+' := by
    unfold yearText at h
    simp only at h
    split_ifs at h
    · exact (List.mem_cons.mp h).elim (fun h => .inr (.inl h)) fun h => .inl (Digits.isDigit_of_mem_padded h)
    · exact .inl (Digits.isDigit_of_mem_padded h)
    · exact (List.mem_cons.mp h).elim (fun h => .inr (.inr h)) fun h => .inl (Digits.isDigit_of_mem_padded h)
  rcases List.mem_append.mp h with h | h
  · exact hyear h
  · rcases List.mem_cons.mp h with h | h
    · exact .inr (.inl h)
    · rcases List.mem_append.mp h with h | h
      · exact .inl (Digits.isDigit_of_mem_padded h)
      · exact (List.mem_cons.mp h).elim (fun h => .inr (.inl h)) fun h => .inl (Digits.isDigit_of_mem_padded h)

end Date

/-! ## Times of day -/

namespace Time

/-- a fraction is written to a number of places that is enough for it -/
theorem fractionText_eq {nano : Nat} (h : nano < 10 ^ 9) :
    nano = 0 ∧ fractionText nano = [] ∨
      ∃ places, 0 < places ∧ fractionText nano = '.' :: Digits.padded places (nano / 10 ^ (9 - places)) ∧
        nano / 10 ^ (9 - places) < 10 ^ places ∧ nano / 10 ^ (9 - places) * 10 ^ (9 - places) = nano ∧ places ≤ 9 := by
  unfold fractionText
  simp only [Nat.pow_eq]
  split_ifs with hzero hmilli hmicro
  · exact .inl ⟨hzero, rfl⟩
  · exact .inr ⟨3, by decide, rfl, by omega, by omega, by decide⟩
  · exact .inr ⟨6, by decide, rfl, by omega, by omega, by decide⟩
  · exact .inr ⟨9, by decide, by simp, by simpa using h, by simp, by decide⟩

/-- the number of places is the length, and so the digits tell the fraction -/
theorem fractionText_injective {n m : Nat} (hn : n < 10 ^ 9) (hm : m < 10 ^ 9) (h : fractionText n = fractionText m) :
    n = m := by
  rcases fractionText_eq hn with ⟨hzero, htext⟩ | ⟨places, hpos, htext, hlt, hvalue, -⟩
  · rcases fractionText_eq hm with ⟨hzero', -⟩ | ⟨places', -, htext', -⟩
    · rw [hzero, hzero']
    · rw [htext, htext'] at h
      exact nomatch h
  · rcases fractionText_eq hm with ⟨-, htext'⟩ | ⟨places', hpos', htext', hlt', hvalue', -⟩
    · rw [htext, htext'] at h
      exact nomatch h
    · rw [htext, htext'] at h
      have hdigits := (List.cons.inj h).2
      have hplaces : places = places' := by
        rw [← Digits.length_padded hpos hlt, hdigits, Digits.length_padded hpos' hlt']
      subst hplaces
      rw [← hvalue, Digits.padded_injective hdigits, hvalue']

/-- **One text, one time of day** -/
theorem text_injective : Function.Injective text := by
  intro t u h
  obtain ⟨hhour, hminute, hsecond, hnano⟩ := t.valid
  obtain ⟨hhour', hminute', hsecond', hnano'⟩ := u.valid
  obtain ⟨hh, hrest⟩ := Digits.padded_append_inj (by decide) (by omega) (by omega) h
  obtain ⟨hm, hrest⟩ := Digits.padded_append_inj (by decide) (by omega) (by omega) (List.cons.inj hrest).2
  obtain ⟨hs, hrest⟩ := Digits.padded_append_inj (by decide) (by omega) (by omega) (List.cons.inj hrest).2
  have hn := fractionText_injective hnano hnano' hrest
  cases t
  cases u
  rw [Time.mk.injEq]
  exact ⟨hh, hm, hs, hn⟩

theorem mem_text {t : Time} {c : Char} (h : c ∈ t.text) : c.isDigit = true ∨ c = ':' ∨ c = '.' := by
  have hfraction (h : c ∈ fractionText t.nano) : c.isDigit = true ∨ c = ':' ∨ c = '.' := by
    rcases fractionText_eq t.valid.2.2.2 with ⟨-, htext⟩ | ⟨places, -, htext, -⟩
    · rw [htext] at h
      exact nomatch h
    · rw [htext] at h
      exact (List.mem_cons.mp h).elim (fun h => .inr (.inr h)) fun h => .inl (Digits.isDigit_of_mem_padded h)
  simp only [text, List.mem_append, List.mem_cons] at h
  rcases h with h | h | h | h | h | h
  · exact .inl (Digits.isDigit_of_mem_padded h)
  · exact .inr (.inl h)
  · exact .inl (Digits.isDigit_of_mem_padded h)
  · exact .inr (.inl h)
  · exact .inl (Digits.isDigit_of_mem_padded h)
  · exact hfraction h

end Time

/-! ## Moments -/

namespace DateTime

/-- **One text, one moment**, if the mark between day and time is told from their characters -/
theorem textWith_injective {mark : Char} (hdate : ∀ d : Date, mark ∉ d.text) (htime : ∀ t : Time, mark ∉ t.text) :
    Function.Injective (textWith mark) := by
  intro t u h
  rw [textWith, textWith, List.append_cons_inj_of_notMem (hdate t.date) (htime t.time)] at h
  obtain ⟨hday, -, hclock⟩ := h
  have hday := Date.text_injective hday
  have hclock := Time.text_injective hclock
  cases t
  cases u
  rw [DateTime.mk.injEq]
  exact ⟨hday, hclock⟩

theorem spacedText_injective : Function.Injective spacedText :=
  textWith_injective (fun _ h => by simpa using Date.mem_text h) fun _ h => by simpa using Time.mem_text h

theorem markedText_injective : Function.Injective markedText :=
  textWith_injective (fun _ h => by simpa using Date.mem_text h) fun _ h => by simpa using Time.mem_text h

end DateTime

end TableGraph
