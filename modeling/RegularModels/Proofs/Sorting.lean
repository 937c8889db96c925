import RegularModels.Order
import RegularModels.Proofs.Entries
import RegularModels.Proofs.Grouping

/-!
# Sorted listings

A sorted listing does not tell in which order its items were given.  Names are told
apart by their order, and so are the entries of a table, whose keys do not repeat: two
tables with the same entries have one sorted listing.
-/

namespace RegularModels

theorem eq_of_pairLe
    {left right : String × String}
    (forth : pairLe left right = true)
    (back : pairLe right left = true) :
    left = right := by
  rw [pairLe_iff] at forth back
  rcases forth with below | ⟨sameFirst, below⟩
  · rcases back with above | ⟨sameFirst, _⟩
    · exact absurd (String.lt_trans below above) (String.lt_irrefl _)
    · exact absurd (sameFirst ▸ below) (String.lt_irrefl _)
  · rcases back with above | ⟨_, above⟩
    · exact absurd (sameFirst ▸ above) (String.lt_irrefl _)
    · exact Prod.ext sameFirst (String.le_antisymm below above)

/-! ## Names -/

theorem pairwise_sortNames (names : List String) : (sortNames names).Pairwise (· ≤ ·) := by
  have sorted : (sortNames names).Pairwise fun left right =>
      decide (left ≤ right) = true := by
    apply List.pairwise_mergeSort
    · intro first second third lower upper
      rw [decide_eq_true_eq] at lower upper ⊢
      exact String.le_trans lower upper
    · intro left right
      rw [Bool.or_eq_true, decide_eq_true_eq, decide_eq_true_eq]
      exact String.le_total left right
  exact sorted.imp of_decide_eq_true

/-- Names that differ from each other are strictly increasing once they are sorted. -/
theorem increasing_sortNames
    {names : List String}
    (nodup : names.Nodup) :
    (sortNames names).Pairwise (· < ·) := by
  have sortedNodup : (sortNames names).Nodup := (List.mergeSort_perm _ _).nodup_iff.mpr nodup
  refine (pairwise_sortNames names).imp₂ ?_ sortedNodup
  exact fun _ _ below different => Std.lt_of_le_of_ne below different

/-- Sorting does not depend on the order before it. -/
theorem sortNames_eq_of_perm
    {left right : List String}
    (perm : left.Perm right) :
    sortNames left = sortNames right := by
  have sorted : (sortNames left).Perm (sortNames right) :=
    (List.mergeSort_perm _ _).trans (perm.trans (List.mergeSort_perm _ _).symm)
  refine List.Perm.eq_of_pairwise ?_ (pairwise_sortNames left) (pairwise_sortNames right) sorted
  exact fun _ _ _ _ forth back => String.le_antisymm forth back

/-- Names that are sorted stay as they are. -/
theorem sortNames_sortNames (names : List String) :
    sortNames (sortNames names) = sortNames names :=
  sortNames_eq_of_perm (List.mergeSort_perm _ _)

/-- Lists that differ in their order only are the same once they are sorted. -/
theorem Table.Rearranged.agrees_sortNames
    {α : Type} [DecidableEq α] {left right : Table α (List String)}
    (rearranged : left.Rearranged right) :
    (left.mapValues fun _ => sortNames).Agrees (right.mapValues fun _ => sortNames) := by
  have sorted {first second : Option (List String)} (related : Option.Rel List.Perm first second) :
      first.map sortNames = second.map sortNames := by
    cases related with
    | none => rfl
    | some perm => exact congrArg some (sortNames_eq_of_perm perm)
  rw [agrees_iff_get?]
  intro key
  rw [get?_mapValues, get?_mapValues]
  exact sorted (rearranged key)

/-! ## Entries under pairs of names -/

variable {β γ : Type}

theorem pairwise_sortByPair (entries : List ((String × String) × β)) :
    (sortByPair entries).Pairwise fun left right => pairLe left.1 right.1 = true := by
  apply List.pairwise_mergeSort
  · exact fun _ _ _ => pairLe_trans
  · exact fun left right => pairLe_total left.1 right.1

/-- The entries of a table have one sorted listing, whatever their order. -/
theorem sortByPair_eq_of_agrees
    {left right : Table (String × String) β}
    (agrees : left.Agrees right) :
    sortByPair left.entries = sortByPair right.entries := by
  have sorted : (sortByPair left.entries).Perm (sortByPair right.entries) :=
    (List.mergeSort_perm _ _).trans (agrees.perm.trans (List.mergeSort_perm _ _).symm)
  refine List.Perm.eq_of_pairwise ?_ (pairwise_sortByPair _) (pairwise_sortByPair _) sorted
  rintro ⟨pair, value⟩ ⟨otherPair, otherValue⟩ member otherMember forth back
  have samePair : pair = otherPair := eq_of_pairLe forth back
  subst samePair
  have found := Table.get?_eq_some_iff.mpr (agrees.1 _ (List.mem_mergeSort.mp member))
  rw [Table.get?_eq_some_iff.mpr (List.mem_mergeSort.mp otherMember)] at found
  rw [Option.some.inj found]

/-- Changing the values of a listing does not change its order. -/
theorem map_sortByPair
    (change : String × String → β → γ) (entries : List ((String × String) × β)) :
    (sortByPair entries).map (fun entry => (entry.1, change entry.1 entry.2)) =
      sortByPair (entries.map fun entry => (entry.1, change entry.1 entry.2)) :=
  List.map_mergeSort fun _ _ _ _ => rfl

end RegularModels
