/-!
# Finite sets of names

A set of names is kept as its strictly increasing list, in the order of code
points, so that two sets with the same members are equal and listing a set
needs no sorting.
-/

namespace RegularModels

/-- A finite set of names. -/
structure NameSet where
  /-- The members in increasing order. -/
  toList : List String
  increasing : toList.Pairwise (· < ·) := by decide
deriving DecidableEq

namespace NameSet

instance : EmptyCollection NameSet := ⟨{ toList := [] }⟩

instance : Inhabited NameSet := ⟨∅⟩

instance : Membership String NameSet := ⟨fun set name => name ∈ set.toList⟩

instance (name : String) (set : NameSet) : Decidable (name ∈ set) :=
  inferInstanceAs (Decidable (name ∈ set.toList))

theorem mem_toList {set : NameSet} {name : String} : name ∈ set.toList ↔ name ∈ set :=
  Iff.rfl

@[simp]
theorem not_mem_empty (name : String) : name ∉ (∅ : NameSet) :=
  List.not_mem_nil

/-! ## Inserting in order -/

/-- Put a name at its place in an increasing list; a present name stays single. -/
def insertSorted (name : String) : List String → List String
  | [] => [name]
  | head :: rest =>
    if name < head then name :: head :: rest
    else if name = head then head :: rest
    else head :: insertSorted name rest

theorem mem_insertSorted {name other : String} {names : List String} :
    other ∈ insertSorted name names ↔ other = name ∨ other ∈ names := by
  induction names with
  | nil => simp [insertSorted]
  | cons head rest ih =>
    simp only [insertSorted]
    split
    · simp
    · split
      · rename_i equal
        simp [equal]
      · simp only [List.mem_cons, ih]
        constructor
        · rintro (first | second | third)
          · exact .inr (.inl first)
          · exact .inl second
          · exact .inr (.inr third)
        · rintro (first | second | third)
          · exact .inr (.inl first)
          · exact .inl second
          · exact .inr (.inr third)

theorem increasing_insertSorted (name : String) {names : List String}
    (increasing : names.Pairwise (· < ·)) : (insertSorted name names).Pairwise (· < ·) := by
  induction names with
  | nil => simp [insertSorted]
  | cons head rest ih =>
    obtain ⟨headLow, restIncreasing⟩ := List.pairwise_cons.1 increasing
    simp only [insertSorted]
    split
    · rename_i low
      refine List.pairwise_cons.2 ⟨fun other member => ?_, increasing⟩
      rcases List.mem_cons.1 member with rfl | inRest
      · exact low
      · exact String.lt_trans low (headLow other inRest)
    · split
      · exact increasing
      · rename_i notLow notEqual
        refine List.pairwise_cons.2 ⟨fun other member => ?_, ih restIncreasing⟩
        rcases mem_insertSorted.1 member with rfl | inRest
        · rcases String.le_total head other with le | ge
          · exact Std.lt_of_le_of_ne le (fun equal => notEqual equal.symm)
          · exact absurd (Std.lt_of_le_of_ne ge notEqual) notLow
        · exact headLow other inRest

/-- Add a name, which stays in its place if it is there already. -/
def insert (set : NameSet) (name : String) : NameSet where
  toList := insertSorted name set.toList
  increasing := increasing_insertSorted name set.increasing

@[simp]
theorem mem_insert {set : NameSet} {name other : String} :
    other ∈ set.insert name ↔ other = name ∨ other ∈ set :=
  mem_insertSorted

/-- The set of the names in a list. -/
def ofList (names : List String) : NameSet :=
  names.foldl insert ∅

theorem mem_foldl_insert {names : List String} {set : NameSet} {name : String} :
    name ∈ names.foldl insert set ↔ name ∈ names ∨ name ∈ set := by
  induction names generalizing set with
  | nil => simp
  | cons head rest ih =>
    rw [List.foldl_cons, ih, mem_insert, List.mem_cons]
    constructor
    · rintro (first | second | third)
      · exact .inl (.inr first)
      · exact .inl (.inl second)
      · exact .inr third
    · rintro ((first | second) | third)
      · exact .inr (.inl first)
      · exact .inl second
      · exact .inr (.inr third)

@[simp]
theorem mem_ofList {names : List String} {name : String} :
    name ∈ ofList names ↔ name ∈ names := by
  simp [ofList, mem_foldl_insert]

/-! ## Sets with the same members are equal -/

/-- An increasing list is determined by its members. -/
theorem eq_of_increasing {left right : List String} (leftIncreasing : left.Pairwise (· < ·))
    (rightIncreasing : right.Pairwise (· < ·)) (same : ∀ name, name ∈ left ↔ name ∈ right) :
    left = right := by
  induction left generalizing right with
  | nil =>
    cases right with
    | nil => rfl
    | cons head rest => exact absurd ((same head).2 (by simp)) (by simp)
  | cons head rest ih =>
    cases right with
    | nil => exact absurd ((same head).1 (by simp)) (by simp)
    | cons otherHead otherRest =>
      obtain ⟨headLow, restIncreasing⟩ := List.pairwise_cons.1 leftIncreasing
      obtain ⟨otherLow, otherIncreasing⟩ := List.pairwise_cons.1 rightIncreasing
      have headEq : head = otherHead := by
        rcases List.mem_cons.1 ((same head).1 (by simp)) with equal | later
        · exact equal
        · rcases List.mem_cons.1 ((same otherHead).2 (by simp)) with equal | otherLater
          · exact equal.symm
          · exact absurd (String.lt_trans (otherLow _ later) (headLow _ otherLater))
              (String.lt_irrefl _)
      subst headEq
      refine congrArg (head :: ·) (ih restIncreasing otherIncreasing fun name => ?_)
      constructor
      · intro member
        rcases List.mem_cons.1 ((same name).1 (List.mem_cons_of_mem _ member)) with rfl | later
        · exact absurd (headLow _ member) (String.lt_irrefl _)
        · exact later
      · intro member
        rcases List.mem_cons.1 ((same name).2 (List.mem_cons_of_mem _ member)) with rfl | later
        · exact absurd (otherLow _ member) (String.lt_irrefl _)
        · exact later

/-- Sets with the same names are equal, because both are in order. -/
@[ext]
theorem ext {left right : NameSet} (same : ∀ name, name ∈ left ↔ name ∈ right) :
    left = right := by
  obtain ⟨leftList, leftIncreasing⟩ := left
  obtain ⟨rightList, rightIncreasing⟩ := right
  have lists := eq_of_increasing leftIncreasing rightIncreasing same
  subst lists
  rfl

theorem nodup_toList (set : NameSet) : set.toList.Nodup :=
  set.increasing.imp fun low equal => absurd (equal ▸ low) (String.lt_irrefl _)

/-- There is no name in the set. -/
def isEmpty (set : NameSet) : Bool :=
  set.toList.isEmpty

/-- The number of names in the set. -/
def size (set : NameSet) : Nat :=
  set.toList.length

theorem isEmpty_iff {set : NameSet} : set.isEmpty = true ↔ ∀ name, name ∉ set := by
  rw [isEmpty, List.isEmpty_iff, List.eq_nil_iff_forall_not_mem]
  exact Iff.rfl

theorem isEmpty_eq_false_iff {set : NameSet} : set.isEmpty = false ↔ ∃ name, name ∈ set := by
  rw [← Bool.not_eq_true, isEmpty_iff, Classical.not_forall_not]

end NameSet

end RegularModels
