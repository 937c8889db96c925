import RegularModels.Conversion.OfGrammar
import RegularModels.Proofs.Entries
import RegularModels.Proofs.FirstAppearances
import RegularModels.Proofs.Grammar.Derivation
import RegularModels.Proofs.Guarded

/-!
# Branches of a grammar

The branch of a non-terminal and a terminal, which the conversion collects from all
productions, depends on the right-hand sides of the non-terminal alone.  It ends
when the terminal is produced on its own, and its surviving step is the one that
the rule `Keeps` keeps.
-/

namespace RegularModels

/-! ## First appearances -/

section FirstAppearances

variable {α : Type} {items : List α} {item other : α}

theorem appearsLast_concat_of_mem (seen : item ∈ items) :
    AppearsLast (items ++ [item]) other ↔ AppearsLast items other := by
  constructor
  · rintro ⟨before, after, equal, new, others⟩
    rcases concat_eq_append_cons_iff.mp equal with ⟨_, rfl, rfl⟩ | ⟨init, rfl, parts⟩
    · exact absurd seen new
    · exact ⟨before, init, parts, new, fun later member =>
        others later (List.mem_append_left _ member)⟩
  · rintro ⟨before, after, rfl, new, others⟩
    refine ⟨before, after ++ [item], by simp, new, ?_⟩
    intro later member
    rcases List.mem_append.mp member with inAfter | isItem
    · exact others later inAfter
    · rw [List.mem_singleton.mp isItem]
      rcases List.mem_append.mp seen with inBefore | inRest
      · exact .inr inBefore
      · rcases List.mem_cons.mp inRest with same | inAfter
        · exact .inl same
        · exact others item inAfter

theorem appearsLast_concat_of_not_mem (new : item ∉ items) :
    AppearsLast (items ++ [item]) other ↔ other = item := by
  constructor
  · rintro ⟨before, after, equal, _, others⟩
    rcases concat_eq_append_cons_iff.mp equal with ⟨_, _, same⟩ | ⟨init, rfl, rfl⟩
    · exact same.symm
    · rcases others item (by simp) with rfl | inBefore
      · simp at new
      · simp [inBefore] at new
  · rintro rfl
    exact ⟨items, [], rfl, new, by simp⟩

/-- The last of the first appearances. -/
theorem getLast?_firstAppearances [DecidableEq α] :
    (firstAppearances items).getLast? = some other ↔ AppearsLast items other := by
  induction items using List.reverseRecOn with
  | nil =>
      constructor
      · intro found
        simp [firstAppearances] at found
      · intro last
        exact absurd last.mem (by simp)
  | append_singleton items item ih =>
      rw [firstAppearances_concat]
      split
      · rename_i seen
        rw [ih, appearsLast_concat_of_mem (mem_firstAppearances.mp seen)]
      · rename_i new
        rw [appearsLast_concat_of_not_mem (fun member => new (mem_firstAppearances.mpr member)),
          List.getLast?_concat, Option.some.injEq, eq_comm]

end FirstAppearances

/-! ## One branch from the shapes of right-hand sides -/

/-- Add what a right-hand side leads to, if it begins with the terminal. -/
def Branch.take (symbol : String) (branch : Branch) : Option Shape → Branch
  | some (.step read next) => if read = symbol then branch.addStep next else branch
  | some (.terminal read) => if read = symbol then branch.addEnd else branch
  | some .epsilon | none => branch

/-- The branch that right-hand sides of these shapes lead to. -/
def Branch.ofShapes (symbol : String) (shapes : List (Option Shape)) : Branch :=
  shapes.foldl (Branch.take symbol) {}

namespace Branch

theorem ofShapes_concat (symbol : String) (shapes : List (Option Shape)) (shape : Option Shape) :
    ofShapes symbol (shapes ++ [shape]) = (ofShapes symbol shapes).take symbol shape := by
  simp [ofShapes]

theorem addStep_steps (branch : Branch) (next : String) :
    (branch.addStep next).steps =
      if next ∈ branch.steps then branch.steps else branch.steps ++ [next] := by
  unfold addStep
  split <;> rfl

theorem addStep_ends (branch : Branch) (next : String) :
    (branch.addStep next).ends = branch.ends := by
  unfold addStep
  split <;> rfl

/-- The steps of a branch are the targets that are read, each at its first place. -/
theorem steps_ofShapes (symbol : String) (shapes : List (Option Shape)) :
    (ofShapes symbol shapes).steps =
      firstAppearances (shapes.filterMap (Grammar.stepTarget? symbol)) := by
  induction shapes using List.reverseRecOn with
  | nil => rfl
  | append_singleton shapes shape ih =>
      rw [ofShapes_concat, List.filterMap_append, List.filterMap_cons, List.filterMap_nil]
      match shape with
      | none | some .epsilon => simpa [take, Grammar.stepTarget?] using ih
      | some (.terminal read) =>
          by_cases same : read = symbol <;>
            simpa [take, Grammar.stepTarget?, same, addEnd] using ih
      | some (.step read next) =>
          by_cases same : read = symbol
          · simp [take, Grammar.stepTarget?, same, addStep_steps, ih, firstAppearances_concat]
          · simpa [take, Grammar.stepTarget?, same] using ih

/-- A branch ends when some production is the symbol alone. -/
theorem ends_ofShapes (symbol : String) (shapes : List (Option Shape)) :
    (ofShapes symbol shapes).ends = true ↔ some (.terminal symbol) ∈ shapes := by
  induction shapes using List.reverseRecOn with
  | nil => simp [ofShapes]
  | append_singleton shapes shape ih =>
      rw [ofShapes_concat, List.mem_append, ← ih]
      match shape with
      | none | some .epsilon => simp [take]
      | some (.terminal read) =>
          by_cases same : read = symbol
          · simp [take, same, addEnd]
          · simp [take, same, Ne.symm same]
      | some (.step read next) =>
          by_cases same : read = symbol <;> simp [take, same, addStep_ends]

end Branch

/-! ## The branches of all pairs -/

namespace Grammar

variable (grammar : Grammar)

/-- The branch of a pair, which is empty if no right-hand side leads anywhere. -/
def branch (lhs symbol : String) : Branch :=
  (grammar.branches.get? (lhs, symbol)).getD {}

theorem getD_addBranch
    (branches : Branches) (production : Production) (lhs symbol : String) :
    ((grammar.addBranch branches production).get? (lhs, symbol)).getD {} =
      if production.lhs = lhs then
        ((branches.get? (lhs, symbol)).getD {}).take symbol (grammar.classify production.rhs)
      else (branches.get? (lhs, symbol)).getD {} := by
  unfold addBranch
  match grammar.classify production.rhs with
  | none | some .epsilon => simp [Branch.take]
  | some (.terminal read) | some (.step read next) =>
      simp only [modifyBranch, Table.get?_insert, Prod.mk.injEq, Branch.take]
      by_cases sameLhs : production.lhs = lhs
      · subst sameLhs
        by_cases sameSymbol : read = symbol
        · subst sameSymbol
          simp
        · simp [sameSymbol]
      · simp [sameLhs]

theorem getD_foldl_addBranch
    (productions : List Production) (branches : Branches) (lhs symbol : String) :
    ((productions.foldl grammar.addBranch branches).get? (lhs, symbol)).getD {} =
      (((productions.filter (·.lhs = lhs)).map fun production =>
        grammar.classify production.rhs).foldl (Branch.take symbol)
          ((branches.get? (lhs, symbol)).getD {})) := by
  induction productions generalizing branches with
  | nil => rfl
  | cons production rest ih =>
      rw [List.foldl_cons, ih, getD_addBranch]
      by_cases same : production.lhs = lhs <;> simp [same]

/-- The productions of one left-hand side, taken from the list of all. -/
theorem filter_productionList (lhs : String) :
    grammar.productionList.filter (·.lhs = lhs) =
      (grammar.rhsList lhs).map fun rhs => ⟨lhs, rhs⟩ := by
  rw [productionList, List.filter_flatMap, Table.flatMap_entries_eq grammar.productions]
  · rw [rhsList]
    cases grammar.productions.get? lhs <;> simp
  · intro entry _ other
    simp [other]

theorem mem_productionList {production : Production} :
    production ∈ grammar.productionList ↔ production.rhs ∈ grammar.rhsList production.lhs := by
  have inFilter : production ∈ grammar.productionList ↔
      production ∈ grammar.productionList.filter (·.lhs = production.lhs) := by
    simp
  rw [inFilter, filter_productionList, List.mem_map]
  constructor
  · rintro ⟨rhs, member, equal⟩
    rw [← equal]
    exact member
  · intro member
    exact ⟨_, member, rfl⟩

/-- A branch collects what the productions of its left side are read as. -/
theorem branch_eq_ofShapes (lhs symbol : String) :
    grammar.branch lhs symbol =
      .ofShapes symbol ((grammar.rhsList lhs).map grammar.classify) := by
  rw [branch, branches, getD_foldl_addBranch, filter_productionList]
  simp [Branch.ofShapes, Function.comp_def]

variable {grammar} {lhs symbol next : String}

theorem steps_branch :
    (grammar.branch lhs symbol).steps =
      firstAppearances (grammar.nextNonTerminals lhs symbol) := by
  rw [branch_eq_ofShapes, Branch.steps_ofShapes, nextNonTerminals, List.filterMap_map]
  rfl

/-- The steps of a branch are those that the grammar produces. -/
theorem mem_steps_branch_iff :
    next ∈ (grammar.branch lhs symbol).steps ↔ grammar.Produces lhs (.step symbol next) := by
  rw [steps_branch, mem_firstAppearances, mem_nextNonTerminals_iff]

/-- The surviving step of a branch is the one that is kept. -/
theorem survivor?_branch_iff :
    (grammar.branch lhs symbol).survivor? = some next ↔ grammar.Keeps lhs (.step symbol next) := by
  rw [Branch.survivor?, steps_branch, getLast?_firstAppearances]
  rfl

/-- A branch ends where the grammar produces its symbol alone. -/
theorem ends_branch_iff :
    (grammar.branch lhs symbol).ends = true ↔ grammar.Produces lhs (.terminal symbol) := by
  rw [branch_eq_ofShapes, Branch.ends_ofShapes, List.mem_map]
  rfl

theorem mem_nullable_iff : lhs ∈ grammar.nullable ↔ grammar.Produces lhs .epsilon := by
  simp only [nullable, List.mem_map, List.mem_filter, mem_productionList, decide_eq_true_eq]
  constructor
  · rintro ⟨production, ⟨member, read⟩, rfl⟩
    exact ⟨production.rhs, member, read⟩
  · rintro ⟨rhs, member, read⟩
    exact ⟨⟨lhs, rhs⟩, ⟨member, read⟩, rfl⟩

end Grammar

end RegularModels
