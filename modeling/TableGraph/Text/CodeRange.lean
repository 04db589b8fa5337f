/-
Sets of characters given as lists of inclusive ranges of code points, the form in which properties of characters are
tabulated.
-/

namespace TableGraph.Text

/-- the first and the last code point of a run -/
abbrev CodeRange := Nat × Nat

/-- whether a code point lies in one of the runs -/
def CodeRange.covers (ranges : List CodeRange) (code : Nat) : Bool :=
  ranges.any fun run => decide (run.1 ≤ code) && decide (code ≤ run.2)

theorem CodeRange.covers_iff {ranges : List CodeRange} {code : Nat} :
    CodeRange.covers ranges code = true ↔ ∃ run ∈ ranges, run.1 ≤ code ∧ code ≤ run.2 := by
  simp [CodeRange.covers]

end TableGraph.Text
