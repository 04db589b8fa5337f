/-
Identifiers are read back from their texts.

A text has as many hexadecimal digits as 128 bits need, leading zeros included, so the groups are cut at fixed places and
put together again. That the digits denote the number is shown for any number, by induction on its last digit.

Results:
- `Digits.readsHex_hexPadded`: hexadecimal digits denote the number that they were written for.
- `Uuid.ofGroups?_joined`: groups joined by hyphens are read as their digits.
- `Uuid.ofText?_text`: an identifier is read back.
-/
import Mathlib.Tactic
import TableGraph.Proofs.WholeNumbers
import TableGraph.Uuid

namespace TableGraph

/-! ## Hexadecimal digits -/

namespace Digits

/-- a text consists of hexadecimal digits that denote a number -/
def ReadsHex (s : List Char) (n : Nat) : Prop :=
  ∃ digits, s.mapM (digitIn? 16) = some digits ∧ digits.foldl (fun found digit => 16 * found + digit) 0 = n

theorem digitIn?_digitChar {d : Nat} (h : d < 16) : digitIn? 16 (Nat.digitChar d) = some d := by
  interval_cases d <;> rfl

/-- another digit after a number is its last one -/
theorem ReadsHex.concat {s : List Char} {n d : Nat} (h : ReadsHex s n) (hd : d < 16) :
    ReadsHex (s ++ [Nat.digitChar d]) (16 * n + d) := by
  obtain ⟨digits, hread, hvalue⟩ := h
  refine ⟨digits ++ [d], ?_, ?_⟩
  · rw [List.mapM_append, hread]
    simp [digitIn?_digitChar hd]
  · rw [List.foldl_append, hvalue]
    rfl

/-- the digits of a number denote it -/
theorem readsHex_toDigits (n : Nat) : ReadsHex (Nat.toDigits 16 n) n := by
  induction n using Nat.strong_induction_on with
  | h n ih =>
    rw [Nat.toDigits_eq_if (by decide)]
    split
    · next hlt => exact ⟨[n], by simp [digitIn?_digitChar hlt], by simp⟩
    · next hge =>
      have hlast := (ih (n / 16) (by omega)).concat (Nat.mod_lt n (by decide : 0 < 16))
      rwa [Nat.div_add_mod] at hlast

/-- leading zeros do not count -/
theorem ReadsHex.zeros {s : List Char} {n : Nat} (h : ReadsHex s n) (k : Nat) :
    ReadsHex (List.replicate k '0' ++ s) n := by
  induction k with
  | zero => exact h
  | succ k ih =>
    obtain ⟨digits, hread, hvalue⟩ := ih
    refine ⟨0 :: digits, ?_, hvalue⟩
    have hzero : digitIn? 16 '0' = some 0 := rfl
    rw [List.replicate_succ, List.cons_append, List.mapM_cons, hread, hzero]
    rfl

/-- **Hexadecimal digits** denote the number that they were written for -/
theorem readsHex_hexPadded (width n : Nat) : ReadsHex (hexPadded width n) n := (readsHex_toDigits n).zeros _

/-- hexadecimal digits are letters and decimal digits -/
theorem isBlank_of_digitIn? {base : Nat} {c : Char} (h : (digitIn? base c).isSome = true) : Text.isBlank c = false := by
  have hcode : 48 ≤ c.toNat ∧ c.toNat ≤ 122 := by
    unfold digitIn? at h
    simp only [show '0'.toNat = 48 from rfl, show '9'.toNat = 57 from rfl, show 'a'.toNat = 97 from rfl,
      show 'z'.toNat = 122 from rfl, show 'A'.toNat = 65 from rfl, show 'Z'.toNat = 90 from rfl] at h
    split_ifs at h
    · omega
    · omega
    · omega
    · exact absurd h (by simp)
  rw [Text.isBlank_eq_ascii (by omega)]
  simp only [Bool.or_eq_false_iff, decide_eq_false_iff_not]
  omega

theorem ReadsHex.isBlank {s : List Char} {n : Nat} (h : ReadsHex s n) : ∀ c ∈ s, Text.isBlank c = false := by
  obtain ⟨digits, hread, -⟩ := h
  have hall : (s.any fun c => (digitIn? 16 c).isNone) = false := by
    rw [← isNone_mapM, hread]
    rfl
  intro c hc
  have hsome : (digitIn? 16 c).isSome = true := by simpa [Option.isSome_iff_ne_none] using List.any_eq_false.mp hall c hc
  exact isBlank_of_digitIn? hsome

/-- there are as many digits as asked for if the number fits -/
theorem length_hexPadded {width n : Nat} (hwidth : 0 < width) (h : n < 16 ^ width) : (hexPadded width n).length = width := by
  have hle : (Nat.toDigits 16 n).length ≤ width := (Nat.length_toDigits_le_iff (by decide) hwidth).mpr h
  rw [hexPadded, List.length_append, List.length_replicate]
  omega

end Digits

namespace Uuid

open Digits

/-- hexadecimal digits are read as the identifier of their number -/
theorem ofDigits?_of_readsHex {s : List Char} {n : Nat} (hlength : s.length = 32) (h : ReadsHex s n) :
    ofDigits? s = some (ofNat n) := by
  obtain ⟨digits, hread, hvalue⟩ := h
  rw [ofDigits?, if_pos hlength, hread, Option.map_some, hvalue]

/-- **Groups joined by hyphens** are read as the digits in them -/
theorem ofGroups?_joined {a b c d e : List Char} (ha : a.length = 8) (hb : b.length = 4) (hc : c.length = 4)
    (hd : d.length = 4) (he : e.length = 12) :
    ofGroups? (a ++ '-' :: (b ++ '-' :: (c ++ '-' :: (d ++ '-' :: e)))) = ofDigits? (a ++ b ++ c ++ d ++ e) := by
  simp (disch := omega) [ofGroups?, List.drop_append, List.take_of_length_le, List.drop_of_length_le, List.getElem?_append,
    List.getElem?_cons_zero, ha, hb, hc, hd, he]

/-- the groups of 32 digits are all of them -/
theorem groups_append {digits : List Char} (hlength : digits.length = 32) :
    (digits.drop 0).take 8 ++ (digits.drop 8).take 4 ++ (digits.drop 12).take 4 ++ (digits.drop 16).take 4 ++
      (digits.drop 20).take 12 = digits := by
  rw [List.drop_zero, ← List.take_add, ← List.take_add, ← List.take_add, ← List.take_add]
  exact List.take_of_length_le hlength.le

/-- **An identifier is read back** from its text -/
theorem ofText?_text (id : Uuid) : ofText? id.text = some id := by
  have hlength : (hexPadded 32 id.bits.toNat).length = 32 := length_hexPadded (by decide) id.bits.isLt
  have hread := ofDigits?_of_readsHex hlength (readsHex_hexPadded 32 id.bits.toNat)
  unfold text
  generalize hexPadded 32 id.bits.toNat = digits at hlength hread
  have hgroup (start count : Nat) (h : start + count ≤ 32) : ((digits.drop start).take count).length = count := by
    rw [List.length_take, List.length_drop]
    omega
  have hjoined := ofGroups?_joined (hgroup 0 8 (by decide)) (hgroup 8 4 (by decide)) (hgroup 12 4 (by decide))
    (hgroup 16 4 (by decide)) (hgroup 20 12 (by decide))
  rw [groups_append hlength, hread] at hjoined
  simp only [ofText?]
  rw [if_neg, if_pos, hjoined]
  · simp [ofNat]
  · simp [hlength]
  · simp [hlength]

/-- there is no white space in the text of an identifier -/
theorem isBlank_of_mem_text {id : Uuid} {c : Char} (h : c ∈ id.text) : Text.isBlank c = false := by
  have hdigits : ∀ c ∈ hexPadded 32 id.bits.toNat, Text.isBlank c = false := (readsHex_hexPadded 32 _).isBlank
  have hgroup {start count : Nat} (h : c ∈ ((hexPadded 32 id.bits.toNat).drop start).take count) :
      Text.isBlank c = false := hdigits c (List.mem_of_mem_drop (List.mem_of_mem_take h))
  have hhyphen : Text.isBlank '-' = false := by decide
  simp only [text, List.mem_append, List.mem_cons] at h
  rcases h with h | rfl | h | rfl | h | rfl | h | rfl | h
  · exact hgroup h
  · exact hhyphen
  · exact hgroup h
  · exact hhyphen
  · exact hgroup h
  · exact hhyphen
  · exact hgroup h
  · exact hhyphen
  · exact hgroup h

end Uuid

end TableGraph
