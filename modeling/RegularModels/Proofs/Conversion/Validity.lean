import RegularModels.Automaton.Inspect
import RegularModels.Proofs.Conversion.Construction
import RegularModels.Proofs.Conversion.Productions
import RegularModels.Proofs.Grammar.Regularity

/-!
# Conversions of valid models

The grammar of an automaton whose references are declared is valid, unless there is nothing
to write a production for: every right-hand side is a symbol that is not empty with or
without a declared state behind it, so the rule of regularity admits it, however else it
may be cut.  The automaton of a valid grammar is valid, since its states, its symbols and
its start are those of the grammar and a further state.
-/

namespace RegularModels

/-! ## The grammar of an automaton -/

namespace Automaton

variable {automaton : Automaton}

/-- There is nothing to write a production for: no transition, and no final initial state. -/
def Idle (automaton : Automaton) : Prop :=
  (∀ pair, pair ∉ automaton.transitions) ∧
    ∀ state, automaton.initial = some state → state ∉ automaton.finals

/--
There are no productions exactly when there are no transitions and the empty word is not
accepted.
-/
theorem productions_eq_nil_iff : automaton.productions = [] ↔ automaton.Idle := by
  rw [List.eq_nil_iff_forall_not_mem]
  constructor
  · intro none
    constructor
    · intro pair member
      rcases Table.mem_iff_exists_get?.mp member with ⟨target, found⟩
      exact none ⟨pair.1, pair.2 ++ target⟩
        (mem_productions_iff.mpr (.inl ⟨pair.2, target, found, .inl rfl⟩))
    · intro state chosen final
      exact none ⟨state, Grammar.epsilon⟩ (mem_productions_iff.mpr (.inr ⟨chosen, final, rfl⟩))
  · rintro ⟨noTransition, notFinal⟩ production member
    rcases mem_productions_iff.mp member with ⟨symbol, target, found, _⟩ | ⟨chosen, final, _⟩
    · exact noTransition _ (Table.mem_iff_exists_get?.mpr ⟨target, found⟩)
    · exact notFinal _ chosen final

section Grammar

variable (trimmed : automaton.NamesTrimmed) (declared : automaton.Declared)
include trimmed declared

/-- Right-hand sides are put together from declared names, so the rule admits them. -/
theorem admits_of_mem_productions
    (noEmptySymbol : "" ∉ automaton.alphabet)
    (name : String)
    {production : Production}
    (member : production ∈ automaton.productions) :
    (automaton.realizedGrammar name).Admits production.rhs := by
  have nonTerminals := realizedGrammar_nonTerminals trimmed name
  have terminals := realizedGrammar_terminals trimmed name
  rcases mem_productions_iff.mp member with ⟨symbol, target, found, rhs⟩ | ⟨_, _, rhs⟩
  · have declares := declared.transitions _ _ _ found
    have terminal : symbol ∈ (automaton.realizedGrammar name).terminals :=
      terminals ▸ declares.symbol
    rcases rhs with step | ⟨_, alone⟩
    · rw [step]
      apply Grammar.admits_append terminal
      · rintro rfl
        exact noEmptySymbol declares.symbol
      · exact nonTerminals ▸ declares.target
    · rw [alone]
      exact .terminal terminal
  · rw [rhs]
    exact .epsilon

/-- The grammar of an automaton with symbols can only lack productions. -/
theorem errors_realizedGrammar
    (someSymbol : ∃ symbol, symbol ∈ automaton.alphabet)
    (noEmptySymbol : "" ∉ automaton.alphabet)
    (name : String) :
    (automaton.realizedGrammar name).validate.errors =
      Finding.when (automaton.realizedGrammar name).productions.isEmpty .noProductions := by
  rcases declared.initial with ⟨start, isState, chosen⟩
  apply Grammar.errors_validate_of_admits
  · rw [realizedGrammar_nonTerminals trimmed]
    exact ⟨start, isState⟩
  · rw [realizedGrammar_terminals trimmed]
    exact someSymbol
  · rw [realizedGrammar_start]
    exact ⟨start, chosen⟩
  · intro production listed
    have member := mem_realizedGrammar_rhsList_iff.mp ((Grammar.mem_productionList _).mp listed)
    exact admits_of_mem_productions trimmed declared noEmptySymbol name member

end Grammar

/-- The grammar has a left-hand side for every production of the automaton. -/
theorem isEmpty_realizedGrammar_iff (automaton : Automaton) (name : String) :
    (automaton.realizedGrammar name).productions.isEmpty = true ↔ automaton.Idle := by
  rw [← productions_eq_nil_iff, ← not_iff_not, Bool.not_eq_true, Table.isEmpty_eq_false_iff]
  simp only [realizedGrammar, Grammar.mem_productions_foldl_append_iff]
  constructor
  · rintro ⟨lhs, impossible | ⟨production, member, _⟩⟩
    · exact absurd impossible List.not_mem_nil
    · exact List.ne_nil_of_mem member
  · intro some
    rcases List.exists_mem_of_ne_nil _ some with ⟨production, member⟩
    exact ⟨production.lhs, .inr ⟨production, member, rfl⟩⟩

/-! ## Valid automata -/

/-- An automaton is valid when it has states, symbols and an initial state. -/
theorem isValid_validate_iff :
    automaton.validate.isValid = true ↔
      (∃ state, state ∈ automaton.states) ∧ (∃ symbol, symbol ∈ automaton.alphabet) ∧
        ∃ start, automaton.initial = some start := by
  have started : automaton.initial.isNone = false ↔ ∃ start, automaton.initial = some start := by
    cases automaton.initial <;> simp
  simp only [Validation.isValid, validate, List.isEmpty_iff, List.append_eq_nil_iff,
    Finding.when_eq_nil_iff, NameSet.isEmpty_eq_false_iff, started, and_assoc]

end Automaton

/-! ## The automaton of a grammar -/

/-- The automaton of a valid grammar is valid. -/
theorem Grammar.Realizes.isValid
    {automaton : Automaton} {grammar : Grammar}
    (realizes : Realizes automaton grammar)
    (valid : grammar.validate.isValid = true) :
    automaton.validate.isValid = true := by
  rcases isValid_validate_iff.mp valid with ⟨⟨symbol, nonTerminal⟩, terminals, started, _⟩
  apply Automaton.isValid_validate_iff.mpr
  rw [realizes.alphabet_eq, realizes.initial_eq]
  exact ⟨⟨symbol, (realizes.states_iff symbol).mpr (.inl nonTerminal)⟩, terminals, started⟩

/-! ## Both conversions -/

/--
The conversion of a built automaton with an initial state, declared references and symbols
that are not empty goes through, and its grammar has no error, but for the one that there
are no productions when there is nothing to write them for.  The conversion of a built and
valid grammar with declared references goes through, and its automaton is valid.
-/
theorem conversions_carry_validity (name : Option String) :
    (∀ automaton : Automaton, automaton.Built → automaton.Declared →
      (∃ symbol, symbol ∈ automaton.alphabet) → "" ∉ automaton.alphabet →
        (automaton.toGrammar name).Succeeds ∧
        (¬automaton.Idle → (automaton.toGrammar name).model.validate.errors = []) ∧
        (automaton.Idle →
          (automaton.toGrammar name).model.validate.errors.map Finding.message =
            ["No productions defined"])) ∧
    ∀ grammar : Grammar, grammar.Built → grammar.Declared →
      grammar.validate.isValid = true →
        (grammar.toAutomaton name).Succeeds ∧
          (grammar.toAutomaton name).model.validate.isValid = true := by
  constructor
  · intro automaton built declared someSymbol noEmptySymbol
    rw [Automaton.toGrammar_eq built.namesTrimmed declared rfl]
    generalize nameOr name (automaton.name ++ "_rg") = text
    have errors := Automaton.errors_realizedGrammar built.namesTrimmed declared someSymbol
      noEmptySymbol text
    have silent := automaton.isEmpty_realizedGrammar_iff text
    refine ⟨rfl, ?_, ?_⟩
    · intro busy
      rw [errors, Finding.when_eq_nil_iff, ← Bool.not_eq_true, silent]
      exact busy
    · intro idle
      rw [errors, silent.mpr idle]
      rfl
  · intro grammar built declared valid
    rcases Grammar.realizes_toAutomaton built.namesTrimmed declared name with ⟨went, realizes⟩
    exact ⟨went, realizes.isValid valid⟩

/--
An automaton with the empty state and the sign for the empty word as a symbol, in which
`abq` is `a` followed by `bq` as well as `ab` followed by `q`.
-/
def Automaton.manyCuts : Automaton where
  name := "manyCuts"
  states := .ofList ["", "q", "bq"]
  alphabet := .ofList ["ε", "a", "ab"]
  initial := some "q"
  finals := .ofList ["bq"]
  transitions := ((Table.insert ∅ ("q", "a") "bq").insert ("q", "ab") "q").insert ("bq", "ε") ""

theorem Automaton.manyCuts_built : manyCuts.Built := by
  have history : ⟨manyCuts, {}⟩ = Machine.after "manyCuts"
      [.setStates ["", "q", "bq"], .setAlphabet ["ε", "a", "ab"], .setInitial "q",
        .setFinals ["bq"], .addTransitions "q,a,bq;q,ab,q;bq,ε,"] := by
    decide +kernel
  exact ⟨{}, history ▸ Machine.reachable_after _ _⟩

/-- A valid grammar that uses the name of the further state for a non-terminal of its own. -/
def Grammar.crowded : Grammar where
  name := "crowded"
  nonTerminals := .ofList ["S", "qf"]
  terminals := .ofList ["a"]
  start := some "S"
  productions := Table.insert ∅ "S" ["aqf", "a"]

theorem Grammar.crowded_built : crowded.Built := by
  have history : crowded = after "crowded"
      [.setNonTerminals ["S", "qf"], .setTerminals ["a"], .setStart "S",
        .addProductions "S->aqf;S->a"] := by
    decide +kernel
  exact history ▸ built_after _ _

/-- Ambiguous names, the empty state and a taken name for the further state do no harm. -/
theorem conversions_carry_validity_manyCuts :
    Automaton.manyCuts.Built ∧ Automaton.manyCuts.Declared ∧ ¬Automaton.manyCuts.Idle ∧
      (Automaton.manyCuts.toGrammar none).model.validate.errors = [] ∧
      Grammar.crowded.Built ∧ Grammar.crowded.Declared ∧
      Grammar.crowded.validate.isValid = true ∧
      (Grammar.crowded.toAutomaton none).model.validate.isValid = true := by
  have automatonDeclared : Automaton.manyCuts.Declared := by
    decide
  have busy : ¬Automaton.manyCuts.Idle :=
    fun idle => idle.1 ("q", "a") (by decide)
  have grammarDeclared : Grammar.crowded.Declared := by
    decide
  have valid : Grammar.crowded.validate.isValid = true := by
    decide
  rcases conversions_carry_validity none with ⟨ofAutomata, ofGrammars⟩
  have grammar := ofAutomata Automaton.manyCuts Automaton.manyCuts_built automatonDeclared
    ⟨"a", by decide⟩ (by decide)
  have automaton := ofGrammars Grammar.crowded Grammar.crowded_built grammarDeclared valid
  exact ⟨Automaton.manyCuts_built, automatonDeclared, busy, grammar.2.1 busy,
    Grammar.crowded_built, grammarDeclared, valid, automaton.2⟩

end RegularModels
