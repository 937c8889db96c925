/-!
# Sorting by name

Names are ordered by code points, pairs of names by their first component and
then by their second.
-/

namespace RegularModels

/-- Names in increasing order, with all their repetitions. -/
def sortNames (names : List String) : List String :=
  names.mergeSort fun left right => decide (left ≤ right)

/-- The order of pairs of names. -/
def pairLe (left right : String × String) : Bool :=
  decide (left.1 < right.1) || (left.1 == right.1 && decide (left.2 ≤ right.2))

/-- Entries under names, in increasing order of their names. -/
def sortByName {β : Type} (entries : List (String × β)) : List (String × β) :=
  entries.mergeSort fun left right => decide (left.1 ≤ right.1)

/-- Entries under pairs of names, in increasing order of their pairs. -/
def sortByPair {β : Type} (entries : List ((String × String) × β)) :
    List ((String × String) × β) :=
  entries.mergeSort fun left right => pairLe left.1 right.1

theorem pairLe_iff {left right : String × String} :
    pairLe left right = true ↔ left.1 < right.1 ∨ left.1 = right.1 ∧ left.2 ≤ right.2 := by
  simp [pairLe]

theorem pairLe_trans {first second third : String × String}
    (lower : pairLe first second = true) (upper : pairLe second third = true) :
    pairLe first third = true := by
  rw [pairLe_iff] at *
  rcases lower with lower | ⟨lowerEq, lower⟩ <;> rcases upper with upper | ⟨upperEq, upper⟩
  · exact .inl (String.lt_trans lower upper)
  · exact .inl (upperEq ▸ lower)
  · exact .inl (lowerEq ▸ upper)
  · exact .inr ⟨lowerEq.trans upperEq, String.le_trans lower upper⟩

theorem pairLe_total (left right : String × String) :
    (pairLe left right || pairLe right left) = true := by
  rw [Bool.or_eq_true, pairLe_iff, pairLe_iff]
  by_cases equal : left.1 = right.1
  · rcases String.le_total left.2 right.2 with le | ge
    · exact .inl (.inr ⟨equal, le⟩)
    · exact .inr (.inr ⟨equal.symm, ge⟩)
  · rcases String.le_total left.1 right.1 with le | ge
    · exact .inl (.inl (Std.lt_of_le_of_ne le equal))
    · exact .inr (.inl (Std.lt_of_le_of_ne ge fun same => equal same.symm))

end RegularModels
