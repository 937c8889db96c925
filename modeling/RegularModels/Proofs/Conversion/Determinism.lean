import RegularModels.Proofs.Conversion.Construction

/-!
# Deterministic grammars

The branches of a deterministic grammar have at most one step, so each of them
leads to one state only.  The conversion then writes no pair twice, and announces
nothing but the automaton that it made.
-/

namespace RegularModels

theorem length_le_one_of_nodup
    {α : Type} {items : List α}
    (nodup : items.Nodup)
    (same : ∀ left ∈ items, ∀ right ∈ items, left = right) :
    items.length ≤ 1 := by
  match items with
  | [] | [_] => simp
  | first :: second :: rest =>
      have equal : first = second := same first (by simp) second (by simp)
      simp [equal] at nodup

namespace Blueprint

/-- A branch with steps leads to as many states, and one without steps to one at most. -/
theorem length_targets_sub_one (blueprint : Blueprint) (branch : Branch) :
    (blueprint.targets branch).length - 1 = branch.steps.length - 1 := by
  cases survives : branch.survivor? with
  | none =>
      have noStep : branch.steps = [] := List.getLast?_eq_none_iff.mp survives
      simp only [targets, survives, noStep]
      split <;> rfl
  | some last =>
      have nonempty : 0 < branch.steps.length :=
        List.length_pos_of_mem (List.mem_of_getLast? survives)
      simp only [targets, survives]
      split
      · rw [List.length_append, List.length_dropLast, List.length_singleton]
        omega
      · rfl

theorem length_targets_le_one
    {blueprint : Blueprint} {branch : Branch}
    (short : branch.steps.length ≤ 1) :
    (blueprint.targets branch).length ≤ 1 := by
  have lengths := blueprint.length_targets_sub_one branch
  omega

end Blueprint

namespace Grammar

variable {grammar : Grammar}

/-- The branches of a deterministic grammar have at most one step. -/
theorem length_steps_le_one
    (deterministic : grammar.Deterministic) (lhs symbol : String) :
    (grammar.branch lhs symbol).steps.length ≤ 1 := by
  apply length_le_one_of_nodup
  · rw [steps_branch]
    exact nodup_firstAppearances
  · intro left leftStep right rightStep
    exact deterministic lhs symbol left right (mem_steps_branch_iff.mp leftStep)
      (mem_steps_branch_iff.mp rightStep)

/-- At most one transition is written for each pair. -/
theorem length_filter_transitions_le_one
    (declared : grammar.Declared)
    (deterministic : grammar.Deterministic)
    (pair : String × String) :
    (grammar.blueprint.transitions.filter (·.pair = pair)).length ≤ 1 := by
  rcases pair with ⟨source, symbol⟩
  by_cases owned : ∃ lhs ∈ grammar.nonTerminals, source ∈ grammar.blueprint.sources lhs
  · rcases owned with ⟨lhs, nonTerminal, owned⟩
    rw [filter_transitions declared nonTerminal owned, List.length_map]
    exact Blueprint.length_targets_le_one (length_steps_le_one deterministic lhs symbol)
  · have none : grammar.blueprint.transitions.filter (·.pair = (source, symbol)) = [] := by
      rw [List.filter_eq_nil_iff]
      intro transition member same
      rw [decide_eq_true_eq, Transition.pair, Prod.mk.injEq] at same
      exact owned (same.1 ▸ source_of_mem_transitions declared member)
    simp [none]

/-- The transitions of a deterministic grammar leave by different pairs. -/
theorem nodup_pairs
    (declared : grammar.Declared)
    (deterministic : grammar.Deterministic) :
    (grammar.blueprint.transitions.map Transition.pair).Nodup := by
  rw [List.nodup_iff_count]
  intro pair
  rw [count_map_pair]
  exact length_filter_transitions_le_one declared deterministic pair

/-- The conversion of a deterministic grammar announces its result and nothing else. -/
theorem events_toAutomaton
    (trimmed : grammar.NamesTrimmed)
    (declared : grammar.Declared)
    (deterministic : grammar.Deterministic)
    (name : Option String) :
    (grammar.toAutomaton name).events =
      [.grammarConverted grammar.name (grammar.toAutomaton name).model.name
        (grammar.toAutomaton name).model.states.size
        (grammar.toAutomaton name).model.transitions.size] := by
  rw [toAutomaton_eq trimmed declared rfl]
  generalize nameOr name (grammar.name ++ "_dfa") = text
  have silent : ((grammar.started text).addAll grammar.blueprint.transitions).events = [] := by
    apply Automaton.events_addAll (grammar.started_namesTrimmed text) rfl
    · exact fun transition member => started_declares trimmed declared text member
    · intro transition _
      rfl
    · exact nodup_pairs declared deterministic
  rw [silent, List.nil_append]

end Grammar

end RegularModels
