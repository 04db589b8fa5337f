/-
Ranges cover a table: the ranges in which a table is fetched select every row of it once and in order, however many rows
there are. The number of rows that the ranges were made for plays no part, since the last range is open.

Results:
- `flatMap_select_evenRanges`: any number of equal ranges, the last one open, cover any list.
- `flatMap_select_partitionRanges`: so do the ranges of a divided table.
- `getElem_evenRanges`: the range at each place.
- `partitionRanges_tiling`: when a table is divided, into how many ranges, and how they follow one another.
-/
import Mathlib.Tactic
import TableGraph.Retrieval.Partition
import TableGraph.Source.Memory

namespace TableGraph

variable {α β : Type}

/-- selecting and mapping rows commute -/
theorem RowRange.select_map (range : RowRange) (f : α → β) (rows : List α) :
    range.select (rows.map f) = (range.select rows).map f := by
  unfold RowRange.select
  cases range.limit with
  | none => simp
  | some limit => simp

/-- a range that is not empty returns the row at which it starts -/
theorem RowRange.mem_select {range : RowRange} (hlimit : range.limit ≠ some 0) {rows : List α} {row : α}
    (hrow : rows[range.offset]? = some row) : row ∈ range.select rows := by
  have hfirst : (rows.drop range.offset)[0]? = some row := by rw [List.getElem?_drop, Nat.add_zero, hrow]
  unfold RowRange.select
  cases hrange : range.limit with
  | none => exact List.mem_of_getElem? hfirst
  | some limit =>
    have hpos : 0 < limit := Nat.pos_of_ne_zero fun hzero => hlimit (hzero ▸ hrange)
    exact List.mem_of_getElem? ((List.getElem?_take_of_lt hpos).trans hfirst)

/-- consecutive parts of one size make up the start of a list -/
theorem flatMap_take_drop (size : Nat) (rows : List α) (n : Nat) :
    ((List.range n).flatMap fun k => (rows.drop (k * size)).take size) = rows.take (n * size) := by
  induction n with
  | zero => simp
  | succ n ih => rw [List.range_succ, List.flatMap_append, ih, Nat.succ_mul, List.take_add]; simp

/-- all ranges but the last have a limit -/
theorem evenRanges_succ (n size : Nat) :
    evenRanges (n + 1) size = ((List.range n).map fun k => ⟨k * size, some size⟩) ++ [⟨n * size, none⟩] := by
  have hlimit : ∀ k ∈ List.range n, (⟨k * size, if k + 1 < n + 1 then some size else none⟩ : RowRange)
      = ⟨k * size, some size⟩ := by
    intro k hk
    rw [if_pos (Nat.succ_lt_succ (List.mem_range.mp hk))]
  rw [evenRanges, List.range_succ, List.map_append, List.map_congr_left hlimit]
  simp

/-- **Equal ranges cover a list**, each element once and in order -/
theorem flatMap_select_evenRanges {count : Nat} (hcount : 0 < count) (size : Nat) (rows : List α) :
    (evenRanges count size).flatMap (·.select rows) = rows := by
  obtain ⟨n, rfl⟩ : ∃ n, count = n + 1 := ⟨count - 1, by omega⟩
  rw [evenRanges_succ, List.flatMap_append, List.flatMap_map]
  have hlimited := flatMap_take_drop size rows n
  simp only [RowRange.select, List.flatMap_cons, List.flatMap_nil, List.append_nil] at hlimited ⊢
  rw [hlimited, List.take_append_drop]

/-- a divided table has at least two ranges, of at least one row each -/
theorem exists_evenRanges {rowCount parallelism fetchSize : Nat}
    (h : partitionRanges rowCount parallelism fetchSize ≠ []) :
    ∃ count size, 2 ≤ count ∧ 1 ≤ size ∧ partitionRanges rowCount parallelism fetchSize = evenRanges count size := by
  unfold partitionRanges at h ⊢
  split_ifs at h ⊢ with hsmall
  · exact absurd rfl h
  · exact ⟨_, _, by omega, Nat.div_pos (Nat.min_le_right _ _) (by omega), rfl⟩

/-- **The ranges of a divided table cover its rows**, whatever number of rows they were made for -/
theorem flatMap_select_partitionRanges {rowCount parallelism fetchSize : Nat}
    (h : partitionRanges rowCount parallelism fetchSize ≠ []) (rows : List α) :
    (partitionRanges rowCount parallelism fetchSize).flatMap (·.select rows) = rows := by
  obtain ⟨count, size, hcount, -, heven⟩ := exists_evenRanges h
  rw [heven]
  exact flatMap_select_evenRanges (by omega) size rows

/-! ## Tiling -/

/-- the range at a place of equal ranges -/
theorem getElem_evenRanges {count size k : Nat} (hk : k < (evenRanges count size).length) :
    (evenRanges count size)[k] = ⟨k * size, if k + 1 < count then some size else none⟩ := by
  simp [evenRanges]

theorem length_evenRanges (count size : Nat) : (evenRanges count size).length = count := by simp [evenRanges]

theorem getElem?_evenRanges {count size k : Nat} {range : RowRange} :
    (evenRanges count size)[k]? = some range ↔
      k < count ∧ range = ⟨k * size, if k + 1 < count then some size else none⟩ := by
  have hlength := length_evenRanges count size
  rw [List.getElem?_eq_some_iff]
  constructor
  · rintro ⟨hk, rfl⟩
    exact ⟨by omega, getElem_evenRanges hk⟩
  · rintro ⟨hk, rfl⟩
    exact ⟨by omega, getElem_evenRanges _⟩

/-- no range is empty, if the ranges have a size -/
theorem limit_ne_zero {count size : Nat} (hsize : 1 ≤ size) {range : RowRange} (hrange : range ∈ evenRanges count size) :
    range.limit ≠ some 0 := by
  obtain ⟨k, -, rfl⟩ := List.mem_map.mp hrange
  intro hzero
  split at hzero
  · exact absurd (Option.some.inj hzero) (by omega)
  · exact nomatch hzero

/-- two or more ranges of `size` rows divide a table of `rowCount` rows: each but the last ends where the next one starts, and
the last is open and starts within the table -/
structure Tiling (ranges : List RowRange) (count size rowCount : Nat) : Prop where
  two_le_count : 2 ≤ count
  one_le_size : 1 ≤ size
  length_eq : ranges.length = count
  offset_eq : ∀ {k range}, ranges[k]? = some range → range.offset = k * size
  next_offset : ∀ {k range next}, ranges[k]? = some range → ranges[k + 1]? = some next →
    range.limit = some size ∧ next.offset = range.offset + size
  last_open : ∀ {range}, ranges[count - 1]? = some range → range.limit = none ∧ range.offset < rowCount

theorem Tiling.ne_nil {ranges : List RowRange} {count size rowCount : Nat} (h : Tiling ranges count size rowCount) :
    ranges ≠ [] := by
  have hcount := h.two_le_count
  rw [← h.length_eq] at hcount
  exact List.ne_nil_of_length_pos (by omega)

/-- equal ranges divide a table that has at least one row for each of them -/
theorem tiling_evenRanges {count rowCount : Nat} (hcount : 2 ≤ count) (hle : count ≤ rowCount) :
    Tiling (evenRanges count (rowCount / count)) count (rowCount / count) rowCount where
  two_le_count := hcount
  one_le_size := Nat.div_pos hle (by omega)
  length_eq := length_evenRanges count _
  offset_eq := by
    intro k range hrange
    obtain ⟨-, rfl⟩ := getElem?_evenRanges.mp hrange
    rfl
  next_offset := by
    intro k range next hrange hnext
    obtain ⟨-, rfl⟩ := getElem?_evenRanges.mp hrange
    obtain ⟨hk, rfl⟩ := getElem?_evenRanges.mp hnext
    exact ⟨if_pos hk, Nat.succ_mul k _⟩
  last_open := by
    intro range hrange
    obtain ⟨-, rfl⟩ := getElem?_evenRanges.mp hrange
    refine ⟨if_neg (by omega), ?_⟩
    have hsize : 0 < rowCount / count := Nat.div_pos hle (by omega)
    calc (count - 1) * (rowCount / count)
        < count * (rowCount / count) := Nat.mul_lt_mul_of_pos_right (by omega) hsize
      _ ≤ rowCount := Nat.mul_div_le rowCount count

/-- **How a table is divided.** For any words `rowCount` and `fetchSize` and any parallelism, a table is not divided
exactly if nothing runs side by side or one fetch takes all rows. Else there are `min parallelism rowCount` ranges, at
least two, of at least one row each; they follow one another from the start, only the last is open and it starts within
the table; the products that give their offsets are words too; and they cover every list of rows. -/
theorem partitionRanges_tiling (rowCount fetchSize : UInt64) (parallelism : Nat) :
    (partitionRanges rowCount.toNat parallelism fetchSize.toNat = [] ↔
      parallelism ≤ 1 ∨ rowCount.toNat ≤ max fetchSize.toNat 1) ∧
    (partitionRanges rowCount.toNat parallelism fetchSize.toNat ≠ [] →
      Tiling (partitionRanges rowCount.toNat parallelism fetchSize.toNat) (min parallelism rowCount.toNat)
        (rowCount.toNat / min parallelism rowCount.toNat) rowCount.toNat ∧
      (∀ k < min parallelism rowCount.toNat, k * (rowCount.toNat / min parallelism rowCount.toNat) < 2 ^ 64) ∧
      ∀ {α : Type} (rows : List α),
        (partitionRanges rowCount.toNat parallelism fetchSize.toNat).flatMap (·.select rows) = rows) := by
  by_cases hsmall : parallelism ≤ 1 ∨ rowCount.toNat ≤ max fetchSize.toNat 1
  · have hnone : partitionRanges rowCount.toNat parallelism fetchSize.toNat = [] := if_pos hsmall
    exact ⟨⟨fun _ => hsmall, fun _ => hnone⟩, fun h => absurd hnone h⟩
  · have heven : partitionRanges rowCount.toNat parallelism fetchSize.toNat =
        evenRanges (min parallelism rowCount.toNat) (rowCount.toNat / min parallelism rowCount.toNat) := if_neg hsmall
    have htiling := tiling_evenRanges (by omega : 2 ≤ min parallelism rowCount.toNat) (Nat.min_le_right _ _)
    rw [← heven] at htiling
    refine ⟨⟨fun h => absurd h htiling.ne_nil, fun h => absurd h hsmall⟩, fun hdivided => ⟨htiling, ?_, ?_⟩⟩
    · intro k hk
      calc k * (rowCount.toNat / min parallelism rowCount.toNat)
          ≤ min parallelism rowCount.toNat * (rowCount.toNat / min parallelism rowCount.toNat) :=
            Nat.mul_le_mul_right _ hk.le
        _ ≤ rowCount.toNat := Nat.mul_div_le _ _
        _ < 2 ^ 64 := rowCount.toNat_lt
    · intro α rows
      exact flatMap_select_partitionRanges hdivided rows

/-- ten rows in three ranges, of which the last has the row that is left over -/
example : partitionRanges 10 3 1 = [⟨0, some 3⟩, ⟨3, some 3⟩, ⟨6, none⟩] := by decide

end TableGraph
