import RegularModels.Proofs.Conversion.Branches
import RegularModels.Proofs.Text.Trimmed

/-!
# Names of synthetic states

The further final state and the twins of a grammar are named apart: none of them
is a non-terminal, no twin is the further state, and different non-terminals have
different twins.  The twins belong exactly to the surviving steps of branches that
also end.  The invariant `NamedApart` carries this through the list of
non-terminals that ask for a twin, since the names taken so far include every twin
given so far.
-/

namespace RegularModels

open Text (Trimmed trimmed_iff)

theorem trimmed_fresh
    {name : String}
    (trimmed : Trimmed name) (taken : NameSet) :
    Trimmed (fresh taken name) := by
  fun_induction fresh taken name with
  | case1 name present ih => exact ih (trimmed.append (by decide))
  | case2 name absent => exact trimmed

theorem fresh_ne_empty
    {name : String}
    (nonempty : name ≠ "") (taken : NameSet) :
    fresh taken name ≠ "" := by
  fun_induction fresh taken name with
  | case1 name present ih => exact ih (by simp)
  | case2 name absent => exact nonempty

namespace Branch

/-- A branch needs a twin of its surviving step when a word may end in it as well. -/
theorem twinned?_eq_some_iff {branch : Branch} {next : String} :
    branch.twinned? = some next ↔ branch.ends = true ∧ branch.survivor? = some next := by
  unfold twinned?
  split <;> simp [*]

end Branch

namespace Grammar

/--
The names in use are some given ones and the twins; the twins are outside the given
names and differ from each other.
-/
structure NamedApart (names : NameSet) (finalName : String) (named : Twins × NameSet) :
    Prop where
  taken_iff : ∀ name, name ∈ named.2 ↔ name ∈ names ∨ name ∈ named.1.values
  outside : ∀ owner twin, named.1.get? owner = some twin → twin ∉ names
  injective : ∀ left right twin,
    named.1.get? left = some twin → named.1.get? right = some twin → left = right
  named : ∀ owner twin, named.1.get? owner = some twin →
    ∃ taken, twin = fresh taken (owner ++ "+" ++ finalName)

theorem namedApart_empty (names : NameSet) (finalName : String) :
    NamedApart names finalName (∅, names) where
  taken_iff name := by
    simp [Table.mem_values_iff]
  outside owner twin found := by simp at found
  injective left right twin found := by simp at found
  named owner twin found := by simp at found

variable {names : NameSet} {finalName : String} {named : Twins × NameSet}

theorem mem_addTwin_iff {owner other : String} :
    other ∈ (addTwin finalName named owner).1 ↔ other = owner ∨ other ∈ named.1 := by
  unfold addTwin
  split
  · rename_i present
    constructor
    · exact .inr
    · rintro (rfl | member)
      · exact present
      · exact member
  · exact Table.mem_insert

/-- Giving one more non-terminal a twin keeps all names apart. -/
theorem NamedApart.addTwin
    (apart : NamedApart names finalName named)
    (owner : String) :
    NamedApart names finalName (addTwin finalName named owner) := by
  unfold Grammar.addTwin
  split
  · exact apart
  · rename_i absent
    have missing : named.1.get? owner = none := Table.get?_eq_none_iff.mpr absent
    have new := fresh_not_mem named.2 (owner ++ "+" ++ finalName)
    generalize freshEq : fresh named.2 (owner ++ "+" ++ finalName) = twin at new
    rw [apart.taken_iff, not_or, Table.mem_values_iff] at new
    constructor
    · intro name
      simp only [NameSet.mem_insert, apart.taken_iff, Table.mem_values_iff,
        Table.get?_insert_eq_some_iff]
      constructor
      · rintro (rfl | member | ⟨other, found⟩)
        · exact .inr ⟨owner, .inl ⟨rfl, rfl⟩⟩
        · exact .inl member
        · have different : other ≠ owner := by
            rintro rfl
            simp [missing] at found
          exact .inr ⟨other, .inr ⟨different, found⟩⟩
      · rintro (member | ⟨other, ⟨_, rfl⟩ | ⟨_, earlier⟩⟩)
        · exact .inr (.inl member)
        · exact .inl rfl
        · exact .inr (.inr ⟨other, earlier⟩)
    · intro other name found
      rcases Table.get?_insert_eq_some_iff.mp found with ⟨_, rfl⟩ | ⟨_, earlier⟩
      · exact new.1
      · exact apart.outside other name earlier
    · intro left right name leftFound rightFound
      rcases Table.get?_insert_eq_some_iff.mp leftFound with ⟨rfl, rfl⟩ | ⟨_, leftEarlier⟩ <;>
        rcases Table.get?_insert_eq_some_iff.mp rightFound with ⟨rfl, equal⟩ | ⟨_, rightEarlier⟩
      · rfl
      · exact absurd ⟨right, rightEarlier⟩ new.2
      · exact absurd ⟨left, equal ▸ leftEarlier⟩ new.2
      · exact apart.injective left right name leftEarlier rightEarlier
    · intro other name found
      rcases Table.get?_insert_eq_some_iff.mp found with ⟨rfl, rfl⟩ | ⟨_, earlier⟩
      · exact ⟨named.2, freshEq.symm⟩
      · exact apart.named other name earlier

/-- Any number of twins have names of their own. -/
theorem NamedApart.foldl
    (apart : NamedApart names finalName named)
    (owners : List String) :
    NamedApart names finalName (owners.foldl (Grammar.addTwin finalName) named) := by
  induction owners generalizing named with
  | nil => exact apart
  | cons owner rest ih => exact ih (apart.addTwin owner)

theorem mem_foldl_addTwin_iff {owners : List String} {other : String} :
    other ∈ (owners.foldl (addTwin finalName) named).1 ↔ other ∈ owners ∨ other ∈ named.1 := by
  induction owners generalizing named with
  | nil => simp
  | cons owner rest ih =>
      rw [List.foldl_cons, ih, mem_addTwin_iff, List.mem_cons, or_left_comm, or_assoc]

/-! ## The twins of a grammar -/

variable (grammar : Grammar)

/-- The final state has a name that is no non-terminal. -/
theorem finalName_not_mem : grammar.finalName ∉ grammar.nonTerminals :=
  fresh_not_mem grammar.nonTerminals finalBase

theorem trimmed_finalName : Trimmed grammar.finalName :=
  trimmed_fresh (by decide) grammar.nonTerminals

theorem namedApart_twins :
    ∃ taken, NamedApart (grammar.nonTerminals.insert grammar.finalName) grammar.finalName
      (grammar.twins, taken) :=
  ⟨_, (namedApart_empty _ _).foldl _⟩

variable {grammar} {owner left right twin : String}

theorem twin_not_mem (found : grammar.twins.get? owner = some twin) :
    twin ∉ grammar.nonTerminals := by
  rcases grammar.namedApart_twins with ⟨_, apart⟩
  intro member
  exact apart.outside owner twin found (NameSet.mem_insert.mpr (.inr member))

theorem twin_ne_finalName (found : grammar.twins.get? owner = some twin) :
    twin ≠ grammar.finalName := by
  rcases grammar.namedApart_twins with ⟨_, apart⟩
  intro same
  exact apart.outside owner twin found (NameSet.mem_insert.mpr (.inl same))

/-- No two non-terminals share a twin. -/
theorem twins_injective
    (leftFound : grammar.twins.get? left = some twin)
    (rightFound : grammar.twins.get? right = some twin) :
    left = right := by
  rcases grammar.namedApart_twins with ⟨_, apart⟩
  exact apart.injective left right twin leftFound rightFound

theorem trimmed_twin
    (found : grammar.twins.get? owner = some twin)
    (trimmed : Trimmed owner) :
    Trimmed twin := by
  rcases grammar.namedApart_twins with ⟨_, apart⟩
  rcases apart.named owner twin found with ⟨taken, rfl⟩
  apply trimmed_fresh
  exact (trimmed.append (by decide)).append grammar.trimmed_finalName

/-- A non-terminal has a twin when it is the surviving step of a branch that ends. -/
theorem mem_twins_iff :
    owner ∈ grammar.twins ↔
      ∃ lhs symbol, grammar.Produces lhs (.terminal symbol) ∧
        grammar.Keeps lhs (.step symbol owner) := by
  rw [twins, mem_foldl_addTwin_iff, List.mem_filterMap]
  constructor
  · rintro (⟨branch, member, twinned⟩ | impossible)
    · rcases Table.mem_values_iff.mp member with ⟨⟨lhs, symbol⟩, found⟩
      have branchEq : grammar.branch lhs symbol = branch := by
        rw [Grammar.branch, found, Option.getD_some]
      rcases Branch.twinned?_eq_some_iff.mp twinned with ⟨ends, survives⟩
      rw [← branchEq] at ends survives
      exact ⟨lhs, symbol, ends_branch_iff.mp ends, survivor?_branch_iff.mp survives⟩
    · exact absurd impossible List.not_mem_nil
  · rintro ⟨lhs, symbol, produced, kept⟩
    have twinned : (grammar.branch lhs symbol).twinned? = some owner :=
      Branch.twinned?_eq_some_iff.mpr
        ⟨ends_branch_iff.mpr produced, survivor?_branch_iff.mpr kept⟩
    cases found : grammar.branches.get? (lhs, symbol) with
    | none =>
        rw [Grammar.branch, found] at twinned
        cases twinned
    | some branch =>
        rw [Grammar.branch, found] at twinned
        exact .inl ⟨branch, Table.mem_values_iff.mpr ⟨_, found⟩, twinned⟩

end Grammar

end RegularModels
