import RegularModels.Proofs.Conversion.AutomatonLanguage

/-!
# When right-hand sides can be read back

A right-hand side is put together without a mark between its terminal and its
non-terminal.  All of them are read back as what they were put together from exactly
when no terminal is taken for the empty word, no non-terminal is empty, no such text
is a terminal itself, and no two of them coincide.  For the grammar of an automaton
this is a condition on the names of the automaton.
-/

namespace RegularModels

namespace Grammar

/-- Every terminal, and every terminal followed by a non-terminal, is read as such. -/
structure ReadsBack (grammar : Grammar) : Prop where
  terminal : ∀ symbol ∈ grammar.terminals, grammar.classify symbol = some (.terminal symbol)
  step : ∀ symbol ∈ grammar.terminals, ∀ next ∈ grammar.nonTerminals,
    grammar.classify (symbol ++ next) = some (.step symbol next)

/--
No terminal is empty or the sign for the empty word, no non-terminal is empty, and a
terminal followed by a non-terminal is neither a terminal nor another such text.
-/
structure Unambiguous (grammar : Grammar) : Prop where
  emptyTerminal : "" ∉ grammar.terminals
  epsilon : epsilon ∉ grammar.terminals
  emptyNonTerminal : "" ∉ grammar.nonTerminals
  append_not_mem : ∀ symbol ∈ grammar.terminals, ∀ next ∈ grammar.nonTerminals,
    symbol ++ next ∉ grammar.terminals
  append_injective : ∀ left ∈ grammar.terminals, ∀ leftNext ∈ grammar.nonTerminals,
    ∀ right ∈ grammar.terminals, ∀ rightNext ∈ grammar.nonTerminals,
      left ++ leftNext = right ++ rightNext → left = right ∧ leftNext = rightNext

variable {grammar : Grammar}

namespace ReadsBack

theorem emptyTerminal (reads : grammar.ReadsBack) : "" ∉ grammar.terminals := by
  intro member
  have read := reads.terminal _ member
  rw [classify_empty] at read
  cases read

theorem epsilon (reads : grammar.ReadsBack) : Grammar.epsilon ∉ grammar.terminals := by
  intro member
  have read := reads.terminal _ member
  rw [classify_epsilon] at read
  cases read

theorem append_not_mem
    (reads : grammar.ReadsBack)
    {symbol next : String}
    (terminal : symbol ∈ grammar.terminals)
    (nonTerminal : next ∈ grammar.nonTerminals) :
    symbol ++ next ∉ grammar.terminals := by
  intro whole
  have asTerminal := reads.terminal _ whole
  rw [reads.step _ terminal _ nonTerminal] at asTerminal
  cases asTerminal

/-- A terminal followed by the empty name would be that terminal. -/
theorem emptyNonTerminal
    (reads : grammar.ReadsBack)
    {symbol : String}
    (terminal : symbol ∈ grammar.terminals) :
    "" ∉ grammar.nonTerminals := by
  intro member
  have whole := reads.append_not_mem terminal member
  rw [String.append_empty] at whole
  exact whole terminal

/-- Steps that are written alike are the same step. -/
theorem append_injective
    (reads : grammar.ReadsBack)
    {left leftNext right rightNext : String}
    (leftTerminal : left ∈ grammar.terminals)
    (leftNonTerminal : leftNext ∈ grammar.nonTerminals)
    (rightTerminal : right ∈ grammar.terminals)
    (rightNonTerminal : rightNext ∈ grammar.nonTerminals)
    (same : left ++ leftNext = right ++ rightNext) :
    left = right ∧ leftNext = rightNext := by
  have leftRead := reads.step _ leftTerminal _ leftNonTerminal
  rw [same, reads.step _ rightTerminal _ rightNonTerminal] at leftRead
  cases leftRead
  exact ⟨rfl, rfl⟩

end ReadsBack

/-- If everything is read back, symbols and states cannot be confused. -/
theorem ReadsBack.unambiguous
    (reads : grammar.ReadsBack)
    (inhabited : ∃ symbol, symbol ∈ grammar.terminals) :
    grammar.Unambiguous := by
  rcases inhabited with ⟨symbol, terminal⟩
  exact {
    emptyTerminal := reads.emptyTerminal
    epsilon := reads.epsilon
    emptyNonTerminal := reads.emptyNonTerminal terminal
    append_not_mem := fun _ symbolTerminal _ nonTerminal =>
      reads.append_not_mem symbolTerminal nonTerminal
    append_injective := fun _ leftTerminal _ leftNonTerminal _ rightTerminal _
      rightNonTerminal same => reads.append_injective leftTerminal leftNonTerminal
        rightTerminal rightNonTerminal same }

/-- If symbols and states cannot be confused, everything is read back. -/
theorem Unambiguous.readsBack (unambiguous : grammar.Unambiguous) : grammar.ReadsBack := by
  have nonempty : ∀ symbol ∈ grammar.terminals, symbol ≠ "" :=
    fun _ member empty => unambiguous.emptyTerminal (empty ▸ member)
  constructor
  · intro symbol terminal
    apply classify_terminal (nonempty _ terminal) _ terminal
    exact fun sign => unambiguous.epsilon (sign ▸ terminal)
  · intro symbol terminal next nonTerminal
    apply classify_append (nonempty _ terminal) _ terminal nonTerminal
    · exact unambiguous.append_not_mem _ terminal _ nonTerminal
    · intro other otherTerminal last lastNonTerminal same
      exact unambiguous.append_injective _ otherTerminal _ lastNonTerminal _ terminal _
        nonTerminal same
    · exact fun empty => unambiguous.emptyNonTerminal (empty ▸ nonTerminal)

/--
With at least one terminal, all right-hand sides are read back exactly when the
names are unambiguous.
-/
theorem readsBack_iff_unambiguous
    (inhabited : ∃ symbol, symbol ∈ grammar.terminals) :
    grammar.ReadsBack ↔ grammar.Unambiguous := by
  constructor
  · exact fun reads => reads.unambiguous inhabited
  · exact Unambiguous.readsBack

/-- Terminals of which one begins the other, with non-terminals that tell them apart. -/
def spaced : Grammar where
  name := "spaced"
  terminals := .ofList ["a", "ab"]
  nonTerminals := .ofList ["q0", "q1"]

/-- The same terminals with non-terminals that do not. -/
def overlapping : Grammar where
  name := "overlapping"
  terminals := .ofList ["a", "ab"]
  nonTerminals := .ofList ["bq", "q"]

theorem spaced_unambiguous : spaced.Unambiguous where
  emptyTerminal := by decide
  epsilon := by decide
  emptyNonTerminal := by decide
  append_not_mem := by
    change ∀ symbol ∈ spaced.terminals.toList, ∀ next ∈ spaced.nonTerminals.toList,
      symbol ++ next ∉ spaced.terminals
    decide
  append_injective := by
    change ∀ left ∈ spaced.terminals.toList, ∀ leftNext ∈ spaced.nonTerminals.toList,
      ∀ right ∈ spaced.terminals.toList, ∀ rightNext ∈ spaced.nonTerminals.toList,
        left ++ leftNext = right ++ rightNext → left = right ∧ leftNext = rightNext
    decide

/-- `abq` is `a` followed by `bq` as well as `ab` followed by `q`. -/
theorem readsBack_spaced_not_overlapping :
    (∃ symbol, symbol ∈ spaced.terminals) ∧ spaced.ReadsBack ∧
      (∃ symbol, symbol ∈ overlapping.terminals) ∧ ¬ overlapping.ReadsBack := by
  have inhabited : ∃ symbol, symbol ∈ spaced.terminals := ⟨"a", by decide⟩
  have otherInhabited : ∃ symbol, symbol ∈ overlapping.terminals := ⟨"a", by decide⟩
  refine ⟨inhabited, (readsBack_iff_unambiguous inhabited).mpr spaced_unambiguous,
    otherInhabited, ?_⟩
  intro reads
  have unambiguous := (readsBack_iff_unambiguous otherInhabited).mp reads
  have same := unambiguous.append_injective "a" (by decide) "bq" (by decide)
    "ab" (by decide) "q" (by decide) (by decide)
  exact absurd same.1 (by decide)

end Grammar

/-! ## The grammar of an automaton -/

namespace Automaton

variable {automaton : Automaton}

/-- The grammar of an automaton is as ambiguous as the automaton. -/
theorem unambiguous_realizedGrammar_iff
    (trimmed : automaton.NamesTrimmed)
    (name : String) :
    (automaton.realizedGrammar name).Unambiguous ↔ automaton.Unambiguous := by
  have nonTerminals := realizedGrammar_nonTerminals trimmed name
  have terminals := realizedGrammar_terminals trimmed name
  constructor
  · rintro ⟨emptyTerminal, epsilon, emptyNonTerminal, whole, injective⟩
    rw [terminals] at emptyTerminal epsilon
    rw [nonTerminals] at emptyNonTerminal
    rw [terminals, nonTerminals] at whole injective
    exact ⟨emptyTerminal, epsilon, emptyNonTerminal, whole, injective⟩
  · rintro ⟨emptySymbol, epsilon, emptyState, whole, injective⟩
    rw [← terminals] at emptySymbol epsilon
    rw [← nonTerminals] at emptyState
    rw [← terminals, ← nonTerminals] at whole injective
    exact ⟨emptySymbol, epsilon, emptyState, whole, injective⟩

/-- The grammar of an automaton over some symbol reads back what was written for it. -/
theorem readsBack_realizedGrammar_iff
    (trimmed : automaton.NamesTrimmed)
    (inhabited : ∃ symbol, symbol ∈ automaton.alphabet)
    (name : String) :
    (automaton.realizedGrammar name).ReadsBack ↔ automaton.Unambiguous := by
  rw [← unambiguous_realizedGrammar_iff trimmed name]
  rw [← realizedGrammar_terminals trimmed name] at inhabited
  constructor
  · exact fun reads => reads.unambiguous inhabited
  · exact Grammar.Unambiguous.readsBack

end Automaton

end RegularModels
