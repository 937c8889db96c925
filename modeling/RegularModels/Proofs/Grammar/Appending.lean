import RegularModels.Grammar.Inspect
import RegularModels.Proofs.Grouping

/-!
# Appending lists of productions

Productions that are appended one after the other stand behind the right-hand sides
that were there, in their own order, and change nothing else of the grammar.  Appended
in another order they make the same grammar.
-/

namespace RegularModels.Grammar

variable {grammar : Grammar} {production : Production} {productions : List Production}
  {lhs rhs : String}

theorem foldl_append_frame (grammar : Grammar) (productions : List Production) :
    productions.foldl append grammar =
      { grammar with productions := (productions.foldl append grammar).productions } := by
  induction productions generalizing grammar with
  | nil => rfl
  | cons production rest ih =>
      have frame := ih (grammar.append production)
      rw [List.foldl_cons]
      exact frame

/-- A production goes to the end of the right sides of its left side. -/
theorem rhsList_append :
    (grammar.append production).rhsList lhs =
      if production.lhs = lhs then grammar.rhsList lhs ++ [production.rhs]
      else grammar.rhsList lhs := by
  have written : (grammar.append production).productions =
      grammar.productions.push production.lhs production.rhs := rfl
  rw [rhsList, written, Table.get?_push, rhsList]
  split <;> rfl

/-- The right-hand sides are grouped under their left-hand sides. -/
theorem productions_foldl_append (grammar : Grammar) (productions : List Production) :
    (productions.foldl append grammar).productions =
      grammar.productions.pushAll (·.lhs) (·.rhs) productions := by
  induction productions generalizing grammar with
  | nil => rfl
  | cons production rest ih => exact ih (grammar.append production)

/-- The right-hand sides of one left-hand side are appended in their order. -/
theorem rhsList_foldl_append :
    (productions.foldl append grammar).rhsList lhs =
      grammar.rhsList lhs ++ (productions.filter (·.lhs = lhs)).map (·.rhs) := by
  rw [rhsList, productions_foldl_append, Table.get?_pushAll]
  split
  · rfl
  · rename_i none
    have nothing : productions.filter (·.lhs = lhs) = [] := by
      simpa [List.filter_eq_nil_iff] using none
    rw [nothing, List.map_nil, List.append_nil, rhsList]

/-- The right sides behind some productions are the old ones and the new ones. -/
theorem mem_rhsList_foldl_append_iff :
    rhs ∈ (productions.foldl append grammar).rhsList lhs ↔
      rhs ∈ grammar.rhsList lhs ∨ ⟨lhs, rhs⟩ ∈ productions := by
  rw [rhsList_foldl_append, List.mem_append, List.mem_map]
  apply or_congr_right
  constructor
  · rintro ⟨⟨otherLhs, otherRhs⟩, member, rfl⟩
    rcases List.mem_filter.mp member with ⟨inProductions, same⟩
    rw [decide_eq_true_eq] at same
    exact same ▸ inProductions
  · intro member
    exact ⟨⟨lhs, rhs⟩, List.mem_filter.mpr ⟨member, by simp⟩, rfl⟩

theorem mem_productions_foldl_append_iff :
    lhs ∈ (productions.foldl append grammar).productions ↔
      lhs ∈ grammar.productions ∨ ∃ production ∈ productions, production.lhs = lhs := by
  rw [productions_foldl_append, Table.mem_pushAll_iff]

/-! ## Productions in another order -/

/-- Grammars with rearranged productions cover each other. -/
theorem covers_of_rearranged
    {left right : Grammar}
    (rearranged : left.productions.Rearranged right.productions) :
    Covers left right := by
  rintro ⟨lhs, rhsList⟩ member
  have related := rearranged lhs
  rw [Table.get?_eq_some_iff.mpr member] at related
  cases found : right.productions.get? lhs with
  | none =>
      rw [found] at related
      cases related
  | some others =>
      rw [found] at related
      cases related with
      | some perm =>
          exact ⟨(lhs, others), Table.get?_eq_some_iff.mp found, rfl, List.isPerm_iff.mpr perm⟩

/-- The same productions in another order make the same grammar of a grammar. -/
theorem same_foldl_append_of_perm
    {left right : List Production}
    (perm : left.Perm right)
    (grammar : Grammar) :
    Same (left.foldl append grammar) (right.foldl append grammar) := by
  have forth : (left.foldl append grammar).productions.Rearranged
      (right.foldl append grammar).productions := by
    rw [productions_foldl_append, productions_foldl_append]
    exact Table.rearranged_pushAll perm grammar.productions
  have back : (right.foldl append grammar).productions.Rearranged
      (left.foldl append grammar).productions := by
    rw [productions_foldl_append, productions_foldl_append]
    exact Table.rearranged_pushAll perm.symm grammar.productions
  refine ⟨?_, ?_, ?_, covers_of_rearranged forth, covers_of_rearranged back⟩
  all_goals rw [foldl_append_frame grammar left, foldl_append_frame grammar right]

end RegularModels.Grammar
