/-
Days, times of day and moments are read back from their texts.

Each field is read off the front of a text and leaves the rest alone, so the lemmas say what is read of a printed field
with anything after it. A field of a fixed width needs nothing of what follows. A year with a sign, and the fraction of a
second, may have any number of digits, and what follows must not go on with one (`Digits.Ended`).

Results:
- `Digits.take?_padded`: a field of a fixed width.
- `Calendar.date?_text`, `Calendar.fullTime?_text`: days with anything after them, and times of day.
- `Date.ofText?_text`, `Time.ofText?_text`, `DateTime.ofText?_spacedText`: whole texts.
- `DateTime.universalOfText?_markedText`: moments in universal time, for years of four digits.
-/
import Mathlib.Tactic
import TableGraph.Calendar.Reading
import TableGraph.Proofs.CalendarTexts
import TableGraph.Proofs.WholeNumbers

namespace TableGraph

open Text

/-! ## Fields -/

namespace Digits

theorem prefixLength_of_ended {limit : Nat} {rest : List Char} (h : Ended rest) : prefixLength limit rest = 0 := by
  cases limit with
  | zero => rfl
  | succ limit =>
    cases rest with
    | nil => rfl
    | cons c rest =>
      have hc : c.isDigit = false := h c rfl
      simp [prefixLength, hc]

/-- a run of digits is counted up to its end, or up to the limit if it is as long as that -/
theorem prefixLength_append {limit : Nat} {s rest : List Char} (hdigits : ∀ c ∈ s, c.isDigit = true)
    (hlimit : s.length ≤ limit) (hend : s.length = limit ∨ Ended rest) : prefixLength limit (s ++ rest) = s.length := by
  induction s generalizing limit with
  | nil =>
    rcases hend with hfull | hend
    · rw [← hfull]
      rfl
    · exact prefixLength_of_ended hend
  | cons c s ih =>
    obtain ⟨hc, hs⟩ := List.forall_mem_cons.mp hdigits
    obtain ⟨limit, rfl⟩ : ∃ less, limit = less + 1 := ⟨limit - 1, by simp at hlimit; omega⟩
    have hrest : prefixLength limit (s ++ rest) = s.length :=
      ih hs (by simpa using hlimit) (hend.imp_left fun hfull => by simpa using hfull)
    rw [List.cons_append, prefixLength, if_pos hc, hrest, List.length_cons]

/-- a run of digits within the bounds is read as its number -/
theorem take?_append {least most : Nat} {s rest : List Char} (hdigits : ∀ c ∈ s, c.isDigit = true)
    (hleast : least ≤ s.length) (hmost : s.length ≤ most) (hend : s.length = most ∨ Ended rest) :
    take? least most (s ++ rest) = some (value s, rest) := by
  simp only [take?, prefixLength_append hdigits hmost hend, if_pos hleast, List.take_left, List.drop_left]

/-- **A field of a fixed width** is read, whatever follows -/
theorem take?_padded {least width n : Nat} (hleast : least ≤ width) (hwidth : 0 < width) (hn : n < 10 ^ width)
    (rest : List Char) : take? least width (padded width n ++ rest) = some (n, rest) := by
  have hlength := length_padded hwidth hn
  rw [take?_append (fun _ => isDigit_of_mem_padded) (by omega) (by omega) (.inl hlength), value_padded]

/-- a field starts with a digit -/
theorem exists_padded_eq_cons (width n : Nat) : ∃ c s, padded width n = c :: s ∧ c.isDigit = true := by
  have hlength := length_padded_eq_max width n
  have hpos := length_ofNat_pos n
  obtain ⟨c, s, hcons⟩ := List.exists_cons_of_length_pos (by omega : 0 < (padded width n).length)
  exact ⟨c, s, hcons, isDigit_of_mem_padded (hcons ▸ List.mem_cons_self)⟩

end Digits

namespace Text

theorem trimStart_of_not_isBlank {c : Char} (h : isBlank c = false) (s : List Char) : trimStart (c :: s) = c :: s :=
  List.dropWhile_cons_of_neg (by simp [h])

/-- no white space stands before a field -/
theorem trimStart_padded (width n : Nat) (rest : List Char) :
    trimStart (Digits.padded width n ++ rest) = Digits.padded width n ++ rest := by
  obtain ⟨c, s, hcons, hc⟩ := Digits.exists_padded_eq_cons width n
  rw [hcons, List.cons_append, trimStart_of_not_isBlank (Whole.isBlank_of_isDigit hc)]

end Text

namespace Calendar

open Digits

@[simp] theorem mark?_cons (c : Char) (rest : List Char) : mark? c (c :: rest) = some rest := if_pos rfl

theorem field?_padded {n : Nat} (hn : n < 100) (rest : List Char) : field? 2 (padded 2 n ++ rest) = some (n, rest) := by
  rw [field?, trimStart_padded, take?_padded (by decide) (by decide) hn]

/-! ## Days -/

/-- digits after a sign are read up to their end -/
theorem take?_signed (n : Nat) {rest : List Char} (hrest : Ended rest) :
    take? 1 (padded 4 n ++ rest).length (padded 4 n ++ rest) = some (n, rest) := by
  have hlength := length_padded_eq_max 4 n
  rw [take?_append (fun _ => isDigit_of_mem_padded) (by omega) (by simp) (.inr hrest), value_padded]

/-- a text that starts with a digit is read as a year without a sign -/
theorem year?_of_isDigit {c : Char} (hc : c.isDigit = true) (s : List Char) :
    year? (c :: s) = (take? 1 4 (c :: s)).map fun (n, rest) => ((n : Int), rest) := by
  unfold year?
  rw [trimStart_of_not_isBlank (Whole.isBlank_of_isDigit hc)]
  split
  · next hminus => exact absurd (List.cons.inj hminus).1 (by rintro rfl; exact absurd hc (by decide))
  · next hplus => exact absurd (List.cons.inj hplus).1 (by rintro rfl; exact absurd hc (by decide))
  · rfl

/-- **A year** is read with or without a sign -/
theorem year?_yearText (year : Int) {rest : List Char} (hrest : Ended rest) :
    year? (Date.yearText year ++ rest) = some (year, rest) := by
  unfold Date.yearText
  simp only
  split_ifs with hneg hsmall
  · have hyear : -(year.natAbs : Int) = year := by omega
    rw [List.cons_append, year?, trimStart_of_not_isBlank (by decide)]
    simp only [take?_signed _ hrest, Option.map_some, hyear]
  · have hyear : (year.natAbs : Int) = year := by omega
    obtain ⟨c, s, hcons, hc⟩ := exists_padded_eq_cons 4 year.natAbs
    rw [hcons, List.cons_append, year?_of_isDigit hc, ← List.cons_append, ← hcons,
      take?_padded (by decide) (by decide) (by omega)]
    simp only [Option.map_some, hyear]
  · have hyear : (year.natAbs : Int) = year := by omega
    rw [List.cons_append, year?, trimStart_of_not_isBlank (by decide)]
    simp only [take?_signed _ hrest, Option.map_some, hyear]

theorem ofParts?_date (d : Date) : Date.ofParts? d.year d.month d.day = some d := dif_pos d.valid

/-- **A day** is read, whatever follows -/
theorem date?_text (d : Date) (rest : List Char) : date? (d.text ++ rest) = some (d, rest) := by
  have hmonth : d.month < 100 := by have := d.month_le; omega
  have hday : d.day < 100 := by have := d.day_le; omega
  have htext : d.text ++ rest =
      Date.yearText d.year ++ '-' :: (padded 2 d.month ++ '-' :: (padded 2 d.day ++ rest)) := by simp [Date.text]
  rw [htext, date?, year?_yearText _ (ended_cons (by decide) _)]
  simp only [Option.bind_eq_bind, Option.bind_some, mark?_cons, field?_padded hmonth, field?_padded hday,
    ofParts?_date, Option.pure_def]

/-! ## Times of day -/

/-- a fraction is read to the nanosecond from nine digits or fewer -/
theorem nanos?_padded {places n : Nat} (hpos : 0 < places) (hplaces : places ≤ 9) (hn : n < 10 ^ places)
    {rest : List Char} (hrest : Ended rest) :
    nanos? (padded places n ++ rest) = some (n * 10 ^ (9 - places), rest) := by
  have hlength := length_padded hpos hn
  obtain ⟨htake, hdrop⟩ := span_digits (fun _ => isDigit_of_mem_padded) hrest (s := padded places n)
  have hne : (padded places n).isEmpty = false := by
    rw [List.isEmpty_eq_false_iff, ← List.length_pos_iff]
    omega
  -- no digit is skipped
  have hkept : (padded places n).take 9 = padded places n := List.take_of_length_le (by omega)
  simp only [nanos?, htake, hdrop, hne, hkept, value_padded, hlength, Nat.pow_eq, Bool.false_eq_true, if_false]

/-- **A fraction of a second** is read, if it does not go on -/
theorem fraction?_fractionText {nano : Nat} (hnano : nano < 10 ^ 9) {rest : List Char} (hrest : Ended rest)
    (hpoint : '.' ∉ rest.head?) : fraction? (Time.fractionText nano ++ rest) = some (nano, rest) := by
  rcases Time.fractionText_eq hnano with ⟨hzero, htext⟩ | ⟨places, hpos, htext, hlt, hvalue, hplaces⟩
  · rw [htext, hzero, List.nil_append]
    unfold fraction?
    split
    · exact absurd rfl hpoint
    · rfl
  · rw [htext, List.cons_append, fraction?, nanos?_padded hpos hplaces hlt hrest, hvalue]

/-- hours and minutes are read, whatever follows -/
theorem hourMinute?_padded {hour minute : Nat} (hhour : hour < 100) (hminute : minute < 100) (rest : List Char) :
    hourMinute? (padded 2 hour ++ ':' :: (padded 2 minute ++ rest)) = some (hour, minute, rest) := by
  simp only [hourMinute?, Option.bind_eq_bind, field?_padded hhour, field?_padded hminute, Option.bind_some, mark?_cons,
    Option.pure_def]

/-- seconds are read with their fraction -/
theorem seconds?_padded {second nano : Nat} (hsecond : second < 100) (hnano : nano < 10 ^ 9) :
    seconds? (':' :: (padded 2 second ++ Time.fractionText nano)) = some (second, nano, []) := by
  have hfraction := fraction?_fractionText hnano ended_nil (by simp)
  rw [List.append_nil] at hfraction
  simp only [seconds?, Option.bind_eq_bind, mark?_cons, field?_padded hsecond, hfraction, Option.bind_some,
    Option.pure_def]

theorem ofParts?_time (t : Time) : Time.ofParts? t.hour t.minute t.second t.nano = some t := dif_pos t.valid

/-- **A time of day** is read -/
theorem fullTime?_text (t : Time) : fullTime? t.text = some t := by
  obtain ⟨hhour, hminute, hsecond, hnano⟩ := t.valid
  rw [fullTime?, Time.text, hourMinute?_padded (by omega) (by omega)]
  simp only [Option.bind_eq_bind, Option.bind_some, seconds?_padded (show t.second < 100 by omega) hnano,
    List.isEmpty_nil, if_true, ofParts?_time]

theorem trimStart_timeText (t : Time) : trimStart t.text = t.text := trimStart_padded 2 t.hour _

end Calendar

open Calendar Digits

theorem Date.ofText?_text (d : Date) : Date.ofText? d.text = some d := by
  have hread := date?_text d []
  rw [List.append_nil] at hread
  rw [Date.ofText?, hread]

theorem Time.ofText?_text (t : Time) : Time.ofText? t.text = some t := by
  obtain ⟨hhour, hminute, hsecond, hnano⟩ := t.valid
  have hcolon (rest : List Char) : trimStart (':' :: rest) = ':' :: rest := trimStart_of_not_isBlank (by decide) rest
  have hseconds := seconds?_padded (show t.second < 100 by omega) hnano
  simp only [Time.ofText?, Time.text, Option.bind_eq_bind, field?_padded (show t.hour < 100 by omega),
    field?_padded (show t.minute < 100 by omega), Option.bind_some, hcolon, mark?_cons, hseconds, Option.getD_some]
  exact ofParts?_time t

namespace DateTime

/-! ## Moments -/

/-- **A moment** is read with a space between day and time -/
theorem ofText?_spacedText (t : DateTime) : ofText? t.spacedText = some t := by
  have htrim : trimStart (' ' :: t.time.text) = t.time.text := trimStart_timeText t.time
  simp only [ofText?, spacedText, textWith, date?_text, Option.bind_eq_bind, Option.bind_some, htrim, fullTime?_text,
    Option.some_or, Option.pure_def]

/-- no time earlier is the same moment -/
theorem earlier?_zero (t : DateTime) : t.earlier? 0 = some t := by
  obtain ⟨hhour, hminute, -, -⟩ := t.time.valid
  -- the minutes of the day are neither before nor behind the day
  have hday : ((((t.time.hour * 60 + t.time.minute : Nat) : Int) - 0) % 1440).toNat =
      t.time.hour * 60 + t.time.minute := by omega
  have hhour' : (t.time.hour * 60 + t.time.minute) / 60 = t.time.hour := by omega
  have hminute' : (t.time.hour * 60 + t.time.minute) % 60 = t.time.minute := by omega
  have hlow : ¬(((t.time.hour * 60 + t.time.minute : Nat) : Int) - 0 < 0) := by omega
  have hhigh : ¬(1440 ≤ ((t.time.hour * 60 + t.time.minute : Nat) : Int) - 0) := by omega
  simp only [earlier?, hday, hhour', hminute', if_neg hlow, if_neg hhigh, ofParts?_time, Option.bind_some,
    Option.map_some]

/-- a year of the first ten thousand is a field of four digits -/
theorem yearText_eq_padded {year : Int} (hlow : 0 ≤ year) (hhigh : year ≤ 9999) :
    Date.yearText year = padded 4 year.natAbs := by
  simp only [Date.yearText]
  rw [if_neg (by omega), if_pos (by omega)]

/-- a moment with no offset from universal time is read if its year has four digits -/
theorem withOffset?_markedText (t : DateTime) (hlow : 0 ≤ t.date.year) (hhigh : t.date.year ≤ 9999) :
    withOffset? (t.markedText ++ "+00:00".toList) = some t := by
  obtain ⟨hhour, hminute, hsecond, hnano⟩ := t.time.valid
  have hyear : (t.date.year.natAbs : Int) = t.date.year := by omega
  have hmonth : t.date.month < 10 ^ 2 := by have := t.date.month_le; omega
  have hday : t.date.day < 10 ^ 2 := by have := t.date.day_le; omega
  have htext : t.markedText ++ "+00:00".toList = padded 4 t.date.year.natAbs ++ '-' :: (padded 2 t.date.month ++
      '-' :: (padded 2 t.date.day ++ 'T' :: (padded 2 t.time.hour ++ ':' :: (padded 2 t.time.minute ++
        ':' :: (padded 2 t.time.second ++ (Time.fractionText t.time.nano ++ "+00:00".toList)))))) := by
    simp [markedText, textWith, Date.text, Time.text, yearText_eq_padded hlow hhigh]
  have hfour (n : Nat) (hn : n < 10 ^ 4) := take?_padded (Nat.le_refl 4) (by decide) hn
  have htwo (n : Nat) (hn : n < 10 ^ 2) := take?_padded (Nat.le_refl 2) (by decide) hn
  have hfraction : fraction? (Time.fractionText t.time.nano ++ "+00:00".toList) = some (t.time.nano, "+00:00".toList) :=
    fraction?_fractionText hnano (ended_cons (by decide) _) (by decide)
  have hoffset : offset? "+00:00".toList = some (0, []) := by decide
  rw [htext]
  -- field by field, as the text is read
  refine Option.bind_eq_some_iff.mpr ⟨_, hfour _ (by omega) _, ?_⟩
  refine Option.bind_eq_some_iff.mpr ⟨_, mark?_cons '-' _, ?_⟩
  refine Option.bind_eq_some_iff.mpr ⟨_, htwo _ hmonth _, ?_⟩
  refine Option.bind_eq_some_iff.mpr ⟨_, mark?_cons '-' _, ?_⟩
  refine Option.bind_eq_some_iff.mpr ⟨_, htwo _ hday _, ?_⟩
  refine Option.bind_eq_some_iff.mpr ⟨_, congrArg (Option.or · _) (mark?_cons 'T' _), ?_⟩
  refine Option.bind_eq_some_iff.mpr ⟨_, htwo _ (by omega) _, ?_⟩
  refine Option.bind_eq_some_iff.mpr ⟨_, mark?_cons ':' _, ?_⟩
  refine Option.bind_eq_some_iff.mpr ⟨_, htwo _ (by omega) _, ?_⟩
  refine Option.bind_eq_some_iff.mpr ⟨_, mark?_cons ':' _, ?_⟩
  refine Option.bind_eq_some_iff.mpr ⟨_, htwo _ (by omega) _, ?_⟩
  refine Option.bind_eq_some_iff.mpr ⟨_, hfraction, ?_⟩
  refine Option.bind_eq_some_iff.mpr ⟨_, hoffset, ?_⟩
  simp only [hyear, Option.bind_eq_bind, ofParts?_date, ofParts?_time, Option.bind_some, List.isEmpty_nil, if_true]
  exact earlier?_zero t

/-- **A moment in universal time** is read if its year has four digits -/
theorem universalOfText?_markedText (t : DateTime) (hlow : 0 ≤ t.date.year) (hhigh : t.date.year ≤ 9999) :
    universalOfText? (t.markedText ++ "+00:00".toList) = some t := by
  rw [universalOfText?, withOffset?_markedText t hlow hhigh, Option.some_or]

end DateTime

end TableGraph
