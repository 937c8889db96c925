/-!
# Ranges of characters

Character classes given as lists of code ranges.
-/

namespace RegularModels.Text

/-- Membership in a list of ranges, each given by its first and last code. -/
def inRanges (ranges : List (Nat × Nat)) (char : Char) : Bool :=
  ranges.any fun (first, last) => first ≤ char.toNat && char.toNat ≤ last

theorem inRanges_iff {ranges : List (Nat × Nat)} {char : Char} :
    inRanges ranges char = true ↔
      ∃ range ∈ ranges, range.1 ≤ char.toNat ∧ char.toNat ≤ range.2 := by
  simp [inRanges]

end RegularModels.Text
