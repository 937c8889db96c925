import Mathlib.Data.List.Dedup
import RegularModels.Proofs.Automaton.Overwrites
import RegularModels.Proofs.Conversion.Determinism
import RegularModels.Proofs.Conversion.GrammarLanguage

/-!
# What the conversion of a grammar reports

The conversion writes the transitions of a branch one after the other, for the
non-terminal and again for its twin, and each one after the first is reported.  A
non-terminal thus loses steps only where it is reported, and an automaton that was
made without a report accepts every word that the grammar generates.
-/

namespace RegularModels

theorem length_firstAppearances
    {α : Type} [DecidableEq α] (items : List α) :
    (firstAppearances items).length = items.dedup.length := by
  apply List.Perm.length_eq
  rw [List.perm_ext_iff_of_nodup nodup_firstAppearances items.nodup_dedup]
  intro item
  rw [mem_firstAppearances, List.mem_dedup]

namespace Grammar

open Event (overwrittenPairs)

variable {grammar : Grammar}

/-- The reports of the conversion are those of the transitions that it writes. -/
theorem count_overwrittenPairs_toAutomaton
    (trimmed : grammar.NamesTrimmed)
    (declared : grammar.Declared)
    (name : Option String) (source symbol : String) :
    (overwrittenPairs (grammar.toAutomaton name).events).count (source, symbol) =
      (grammar.blueprint.transitions.filter (·.pair = (source, symbol))).length - 1 := by
  rw [toAutomaton_eq trimmed declared rfl]
  generalize nameOr name (grammar.name ++ "_dfa") = text
  have written := Automaton.count_overwrittenPairs_addAll (grammar.started_namesTrimmed text) rfl
    (fun transition member => started_declares trimmed declared text member) source symbol
  have new : (grammar.started text).target? source symbol = none := rfl
  rw [if_pos new, count_map_pair] at written
  rw [Event.overwrittenPairs_append, List.count_append, written]
  rfl

/-- A non-terminal and its twin are reported once for every step but one. -/
theorem count_overwrittenPairs_of_owned
    (trimmed : grammar.NamesTrimmed)
    (declared : grammar.Declared)
    {lhs source : String}
    (nonTerminal : lhs ∈ grammar.nonTerminals)
    (owned : source ∈ grammar.blueprint.sources lhs)
    (name : Option String) (symbol : String) :
    (overwrittenPairs (grammar.toAutomaton name).events).count (source, symbol) =
      (grammar.nextNonTerminals lhs symbol).dedup.length - 1 := by
  rw [count_overwrittenPairs_toAutomaton trimmed declared,
    filter_transitions declared nonTerminal owned, List.length_map,
    Blueprint.length_targets_sub_one, steps_branch, length_firstAppearances]

/-- Other states are not reported, for they have no transitions. -/
theorem count_overwrittenPairs_of_not_owned
    (trimmed : grammar.NamesTrimmed)
    (declared : grammar.Declared)
    {source : String}
    (notOwned : ∀ lhs ∈ grammar.nonTerminals, source ∉ grammar.blueprint.sources lhs)
    (name : Option String) (symbol : String) :
    (overwrittenPairs (grammar.toAutomaton name).events).count (source, symbol) = 0 := by
  have none : grammar.blueprint.transitions.filter (·.pair = (source, symbol)) = [] := by
    rw [List.filter_eq_nil_iff]
    intro transition member same
    rw [decide_eq_true_eq, Transition.pair, Prod.mk.injEq] at same
    rcases source_of_mem_transitions declared member with ⟨lhs, nonTerminal, owned⟩
    exact notOwned lhs nonTerminal (same.1 ▸ owned)
  rw [count_overwrittenPairs_toAutomaton trimmed declared, none, List.length_nil]

/-- A conversion without reports shows that every pair has one step at most. -/
theorem deterministic_of_overwrittenPairs
    (trimmed : grammar.NamesTrimmed)
    (declared : grammar.Declared)
    {name : Option String}
    (silent : overwrittenPairs (grammar.toAutomaton name).events = []) :
    grammar.Deterministic := by
  intro lhs symbol left right leftProduced rightProduced
  have nonTerminal : lhs ∈ grammar.nonTerminals := declared.lhs _ (lhs_of_produces leftProduced)
  have counted := count_overwrittenPairs_of_owned trimmed declared nonTerminal
    Blueprint.self_mem_sources name symbol
  rw [silent, List.count_nil] at counted
  have short : (grammar.nextNonTerminals lhs symbol).dedup.length ≤ 1 := by
    omega
  have leftStep : left ∈ (grammar.nextNonTerminals lhs symbol).dedup :=
    List.mem_dedup.mpr (mem_nextNonTerminals_iff.mpr leftProduced)
  have rightStep : right ∈ (grammar.nextNonTerminals lhs symbol).dedup :=
    List.mem_dedup.mpr (mem_nextNonTerminals_iff.mpr rightProduced)
  rcases List.getElem_of_mem leftStep with ⟨leftPlace, leftInside, rfl⟩
  rcases List.getElem_of_mem rightStep with ⟨rightPlace, rightInside, rfl⟩
  have samePlace : leftPlace = rightPlace := by
    omega
  simp only [samePlace]

/--
The conversion of a built grammar whose start symbol and left-hand sides are
non-terminals goes through.  It reports every non-terminal and its twin once for each
further step with the same terminal, and no other state.  If it reports nothing, the
automaton accepts exactly the words that the grammar generates; so when it misses a
generated word, it has reported something.
-/
theorem overwrites_toAutomaton
    (built : grammar.Built)
    (declared : grammar.Declared)
    (name : Option String) :
    (grammar.toAutomaton name).Succeeds ∧
      (∀ lhs ∈ grammar.nonTerminals, ∀ source symbol,
        source = lhs ∨ grammar.twins.get? lhs = some source →
          (overwrittenPairs (grammar.toAutomaton name).events).count (source, symbol) =
            (grammar.nextNonTerminals lhs symbol).dedup.length - 1) ∧
      (∀ source ∉ grammar.nonTerminals, source ∉ grammar.twins.values → ∀ symbol,
        (overwrittenPairs (grammar.toAutomaton name).events).count (source, symbol) = 0) ∧
      ((∀ event ∈ (grammar.toAutomaton name).events, ¬event.IsOverwrite) →
        ∀ word, (grammar.toAutomaton name).model.Accepts word ↔
          grammar.Generates grammar.Produces word) ∧
      (∀ word, grammar.Generates grammar.Produces word →
        ¬(grammar.toAutomaton name).model.Accepts word →
          ∃ event ∈ (grammar.toAutomaton name).events, event.IsOverwrite) := by
  have trimmed := built.namesTrimmed
  rcases realizes_toAutomaton trimmed declared name with ⟨went, realizes⟩
  have language : (∀ event ∈ (grammar.toAutomaton name).events, ¬event.IsOverwrite) →
      ∀ word, (grammar.toAutomaton name).model.Accepts word ↔
        grammar.Generates grammar.Produces word := by
    intro silent word
    rw [realizes.accepts_iff declared, generates_keeps_iff]
    exact deterministic_of_overwrittenPairs trimmed declared
      (Event.overwrittenPairs_eq_nil_iff.mpr silent)
  refine ⟨went, ?_, ?_, language, ?_⟩
  · intro lhs nonTerminal source symbol owned
    exact count_overwrittenPairs_of_owned trimmed declared nonTerminal
      (Blueprint.mem_sources_iff.mpr owned) name symbol
  · intro source notNonTerminal notTwin symbol
    apply count_overwrittenPairs_of_not_owned trimmed declared
    intro lhs nonTerminal owned
    rcases Blueprint.mem_sources_iff.mp owned with rfl | found
    · exact notNonTerminal nonTerminal
    · exact notTwin (Table.mem_values_iff.mpr ⟨lhs, found⟩)
  · intro word generated refused
    by_contra noReport
    push Not at noReport
    exact refused ((language noReport word).mpr generated)

/-- A grammar whose start symbol has two steps and an end, and a twin with its steps. -/
def forking : Grammar where
  name := "forking"
  nonTerminals := .ofList ["B", "S"]
  terminals := .ofList ["a", "b"]
  start := some "S"
  productions := (Table.insert ∅ "S" ["aB", "aS", "a"]).insert "B" ["b"]

theorem forking_built : forking.Built := by
  have history : forking = after "forking"
      [.setNonTerminals ["S", "B "], .setTerminals ["a", "b"], .setStart "S",
        .addProductions "S->aB;S->aS;S->a;B->b"] := by
    decide +kernel
  exact history ▸ built_after _ _

theorem forking_declared : forking.Declared where
  start := ⟨"S", by decide, by decide⟩
  lhs := by
    change ∀ lhs ∈ forking.productions.keys, lhs ∈ forking.nonTerminals
    decide

/-- Both the start symbol and its twin are reported, for the step to the other is lost. -/
theorem overwrites_toAutomaton_forking :
    forking.Built ∧ forking.Declared ∧
      (overwrittenPairs (forking.toAutomaton none).events).count ("S", "a") = 1 ∧
      (overwrittenPairs (forking.toAutomaton none).events).count ("S+qf", "a") = 1 := by
  rcases overwrites_toAutomaton forking_built forking_declared none with ⟨_, counts, _⟩
  have steps : (forking.nextNonTerminals "S" "a").dedup.length - 1 = 1 := by
    decide +kernel
  have twin : forking.twins.get? "S" = some "S+qf" := by
    decide +kernel
  have nonTerminal : "S" ∈ forking.nonTerminals := by
    decide
  refine ⟨forking_built, forking_declared, ?_, ?_⟩
  · exact (counts "S" nonTerminal "S" "a" (.inl rfl)).trans steps
  · exact (counts "S" nonTerminal "S+qf" "a" (.inr twin)).trans steps

end Grammar

end RegularModels
