import RegularModels.Conversion.OfAutomaton
import RegularModels.Proofs.Automaton.Connection
import RegularModels.Proofs.Conversion.Branches
import RegularModels.Proofs.Grammar.Guards
import RegularModels.Proofs.Grammar.Reachable

/-!
# The grammar of an automaton

The conversion of an automaton with trimmed names, all of whose references are
declared, goes through.  What comes out of it has the states as non-terminals, the
alphabet as terminals, and for each state the right-hand sides of its transitions
and, at a final initial state, the sign for the empty word.  Of any other automaton it
is known exactly when the conversion goes through, and what it leaves behind then.
-/

namespace RegularModels

open Text (Trimmed trim ofList_map_trim_toList)

namespace Automaton

variable {automaton : Automaton}

/-! ## The productions -/

/-- A transition is written as a step and, into a final state, as an end. -/
theorem mem_transitionProductions_iff
    {transition : Transition} {production : Production} :
    production ∈ automaton.transitionProductions transition ↔
      production.lhs = transition.source ∧
        (production.rhs = transition.symbol ++ transition.target ∨
          transition.target ∈ automaton.finals ∧ production.rhs = transition.symbol) := by
  rcases production with ⟨lhs, rhs⟩
  unfold transitionProductions
  by_cases final : transition.target ∈ automaton.finals <;>
    simp [final, and_or_left]

/-- The empty word is written when the initial state is final. -/
theorem mem_emptyWordProductions_iff {production : Production} :
    production ∈ automaton.emptyWordProductions ↔
      automaton.initial = some production.lhs ∧ production.lhs ∈ automaton.finals ∧
        production.rhs = Grammar.epsilon := by
  rcases production with ⟨lhs, rhs⟩
  unfold emptyWordProductions
  cases automaton.initial with
  | none => simp
  | some state =>
      by_cases final : state ∈ automaton.finals
      · simp only [if_pos final, List.mem_singleton, Production.mk.injEq, Option.some.injEq]
        constructor
        · rintro ⟨rfl, rfl⟩
          exact ⟨rfl, final, rfl⟩
        · rintro ⟨rfl, _, rfl⟩
          exact ⟨rfl, rfl⟩
      · simp only [if_neg final, List.not_mem_nil, Option.some.injEq, false_iff]
        rintro ⟨rfl, inFinals, _⟩
        exact final inFinals

/-- The productions are those of transitions, and that of the empty word. -/
theorem mem_productions_iff {production : Production} :
    production ∈ automaton.productions ↔
      (∃ symbol target, automaton.target? production.lhs symbol = some target ∧
        (production.rhs = symbol ++ target ∨
          target ∈ automaton.finals ∧ production.rhs = symbol)) ∨
      (automaton.initial = some production.lhs ∧ production.lhs ∈ automaton.finals ∧
        production.rhs = Grammar.epsilon) := by
  rw [productions, List.mem_append, List.mem_flatMap, mem_emptyWordProductions_iff]
  constructor
  · rintro (⟨⟨⟨source, symbol⟩, target⟩, member, inEntry⟩ | empty)
    · rcases mem_transitionProductions_iff.mp inEntry with ⟨lhsEq, rhs⟩
      have found : automaton.target? production.lhs symbol = some target := by
        rw [lhsEq]
        exact Table.get?_eq_some_iff.mpr member
      exact .inl ⟨symbol, target, found, rhs⟩
    · exact .inr empty
  · rintro (⟨symbol, target, found, rhs⟩ | empty)
    · refine .inl ⟨_, Table.get?_eq_some_iff.mp found, ?_⟩
      exact mem_transitionProductions_iff.mpr ⟨rfl, rhs⟩
    · exact .inr empty

/-- All productions have declared left-hand sides and trimmed right-hand sides. -/
theorem production_declared
    (trimmed : automaton.NamesTrimmed)
    (declared : automaton.Declared)
    {production : Production} (member : production ∈ automaton.productions) :
    production.lhs ∈ automaton.states ∧ Trimmed production.rhs := by
  rcases mem_productions_iff.mp member with ⟨symbol, target, found, rhs⟩ | ⟨_, final, rhs⟩
  · have declares := declared.transitions _ _ _ found
    have symbolTrimmed := trimmed.alphabet _ declares.symbol
    refine ⟨declares.source, ?_⟩
    rcases rhs with step | ⟨_, terminal⟩
    · rw [step]
      exact symbolTrimmed.append (trimmed.states _ declares.target)
    · rw [terminal]
      exact symbolTrimmed
  · refine ⟨declared.finals _ final, ?_⟩
    rw [rhs]
    decide

/-! ## The grammar that is left behind -/

/-- The grammar of an automaton with its start symbol, before its productions. -/
def startedGrammar (automaton : Automaton) (name : String) : Grammar :=
  { automaton.grammarSymbols name with start := automaton.initial }

/-- The grammar that the conversion leaves behind. -/
def realizedGrammar (automaton : Automaton) (name : String) : Grammar :=
  automaton.productions.foldl .append (automaton.startedGrammar name)

theorem grammarSymbols_nonTerminals
    (trimmed : automaton.NamesTrimmed) (name : String) :
    (automaton.grammarSymbols name).nonTerminals = automaton.states :=
  ofList_map_trim_toList trimmed.states

theorem grammarSymbols_terminals
    (trimmed : automaton.NamesTrimmed) (name : String) :
    (automaton.grammarSymbols name).terminals = automaton.alphabet :=
  ofList_map_trim_toList trimmed.alphabet

theorem realizedGrammar_nonTerminals
    (trimmed : automaton.NamesTrimmed) (name : String) :
    (automaton.realizedGrammar name).nonTerminals = automaton.states := by
  rw [← grammarSymbols_nonTerminals trimmed name, realizedGrammar, Grammar.foldl_append_frame,
    startedGrammar]

theorem realizedGrammar_terminals
    (trimmed : automaton.NamesTrimmed) (name : String) :
    (automaton.realizedGrammar name).terminals = automaton.alphabet := by
  rw [← grammarSymbols_terminals trimmed name, realizedGrammar, Grammar.foldl_append_frame,
    startedGrammar]

theorem realizedGrammar_start (name : String) :
    (automaton.realizedGrammar name).start = automaton.initial := by
  rw [realizedGrammar, Grammar.foldl_append_frame, startedGrammar]

/-- The grammar has exactly the productions of the automaton. -/
theorem mem_realizedGrammar_rhsList_iff {name lhs rhs : String} :
    rhs ∈ (automaton.realizedGrammar name).rhsList lhs ↔ ⟨lhs, rhs⟩ ∈ automaton.productions := by
  have empty : (automaton.startedGrammar name).rhsList lhs = [] := rfl
  rw [realizedGrammar, Grammar.mem_rhsList_foldl_append_iff, empty]
  simp

theorem realizedGrammar_namesTrimmed
    (trimmed : automaton.NamesTrimmed) (name : String) :
    (automaton.realizedGrammar name).NamesTrimmed where
  nonTerminals := by
    rw [realizedGrammar_nonTerminals trimmed]
    exact trimmed.states
  terminals := by
    rw [realizedGrammar_terminals trimmed]
    exact trimmed.alphabet

theorem realizedGrammar_declared
    (trimmed : automaton.NamesTrimmed)
    (declared : automaton.Declared)
    (name : String) :
    (automaton.realizedGrammar name).Declared where
  start := by
    rw [realizedGrammar_nonTerminals trimmed, realizedGrammar_start]
    exact declared.initial
  lhs := by
    intro lhs member
    rw [realizedGrammar, Grammar.mem_productions_foldl_append_iff] at member
    rw [realizedGrammar_nonTerminals trimmed]
    rcases member with impossible | ⟨production, inProductions, rfl⟩
    · exact absurd impossible List.not_mem_nil
    · exact (production_declared trimmed declared inProductions).1

/-! ## The conversion goes through -/

/-- The initial state is a non-terminal, so it is accepted as the start symbol. -/
theorem setStart_grammarSymbols
    (trimmed : automaton.NamesTrimmed)
    (declared : automaton.Declared)
    (name : String) :
    (automaton.grammarSymbols name).setStart (automaton.initial.getD "") =
      .done (automaton.startedGrammar name) := by
  rcases declared.initial with ⟨state, member, chosen⟩
  have stateTrimmed : Text.trim state = state := trimmed.states state member
  have nonTerminal : state ∈ (automaton.grammarSymbols name).nonTerminals := by
    rw [grammarSymbols_nonTerminals trimmed]
    exact member
  rw [chosen, Option.getD_some, Grammar.setStart, stateTrimmed, if_pos nonTerminal,
    startedGrammar, chosen]

/-- Adding the productions of the automaton appends them one by one. -/
theorem each_addProduction
    (trimmed : automaton.NamesTrimmed)
    (declared : automaton.Declared)
    (name : String) :
    (Outcome.each (fun grammar production =>
        grammar.addProduction production.lhs production.rhs)
      (automaton.startedGrammar name) automaton.productions).Succeeds ∧
    (Outcome.each (fun grammar production =>
        grammar.addProduction production.lhs production.rhs)
      (automaton.startedGrammar name) automaton.productions).model =
      automaton.realizedGrammar name := by
  have added := Grammar.guarded_addAll (automaton.startedGrammar name) automaton.productions
  have nonTerminals : (automaton.startedGrammar name).nonTerminals = automaton.states :=
    grammarSymbols_nonTerminals trimmed name
  have known : ∀ production ∈ automaton.productions,
      trim production.lhs ∈ (automaton.startedGrammar name).nonTerminals := by
    intro production member
    have lhs := (production_declared trimmed declared member).1
    rw [nonTerminals, trimmed.states _ lhs]
    exact lhs
  have unchanged : automaton.productions.map Production.trimmed = automaton.productions := by
    conv_rhs => rw [← List.map_id automaton.productions]
    apply List.map_congr_left
    intro production member
    rcases production_declared trimmed declared member with ⟨lhs, rhsTrimmed⟩
    rw [Production.trimmed, trimmed.states _ lhs, rhsTrimmed, id]
  refine ⟨added.succeeds.mpr known, ?_⟩
  rw [added.model known, unchanged, realizedGrammar]

/-- Adding productions announces nothing. -/
theorem events_each_addProduction (grammar : Grammar) (productions : List Production) :
    (Outcome.each (fun grammar production =>
        grammar.addProduction production.lhs production.rhs)
      grammar productions).events = [] := by
  apply Outcome.each_events_eq_nil
  intro grammar production
  rw [Grammar.addProduction, Grammar.insertProduction]
  split <;> rfl

/-- The conversion goes through: it appends the productions and announces the result. -/
theorem toGrammar_eq
    (trimmed : automaton.NamesTrimmed)
    (declared : automaton.Declared)
    {name : Option String} {text : String}
    (given : nameOr name (automaton.name ++ "_rg") = text) :
    automaton.toGrammar name =
      ⟨automaton.realizedGrammar text,
        [.automatonConverted automaton.name (automaton.realizedGrammar text).name
          (automaton.realizedGrammar text).productionList.length],
        none⟩ := by
  have added := each_addProduction trimmed declared text
  simp only [toGrammar, given]
  rw [setStart_grammarSymbols trimmed declared, Outcome.andThen_done,
    Outcome.andThen_of_succeeds added.1, added.2, events_each_addProduction]
  rfl

/-! ## Automata with undeclared references -/

/-- The grammar that the conversion of any automaton leaves behind when it goes through. -/
def convertedGrammar (automaton : Automaton) (name : String) : Grammar :=
  (automaton.productions.map Production.trimmed).foldl .append
    { automaton.grammarSymbols name with start := some (trim (automaton.initial.getD "")) }

/-- The conversion asks for the start symbol and for the left-hand sides of all productions. -/
theorem guarded_toGrammar
    {name : Option String} {text : String}
    (given : nameOr name (automaton.name ++ "_rg") = text) :
    (automaton.toGrammar name).Guarded
      (trim (automaton.initial.getD "") ∈ automaton.states.toList.map trim ∧
        ∀ production ∈ automaton.productions,
          trim production.lhs ∈ automaton.states.toList.map trim)
      (· = automaton.convertedGrammar text) := by
  have declared : ∀ symbol, symbol ∈ (automaton.grammarSymbols text).nonTerminals ↔
      symbol ∈ automaton.states.toList.map trim := fun _ => NameSet.mem_ofList
  simp only [toGrammar, given, ← declared]
  apply (Grammar.guarded_setStart _ _).andThen
  rintro _ rfl
  have added := Grammar.guarded_addAll
    { automaton.grammarSymbols text with start := some (trim (automaton.initial.getD "")) }
    automaton.productions
  refine Outcome.Guarded.congr (added.andThen fun grammar same => ?_) (and_iff_left trivial)
  exact .of_succeeds trivial rfl same

/-- All that is refused is an undeclared start symbol or left-hand side. -/
theorem kind_error_toGrammar
    {name : Option String} {cause : ModelError}
    (refused : (automaton.toGrammar name).error = some cause) :
    cause.kind = .reference := by
  rcases Outcome.error_andThen refused with choosing | ⟨_, later⟩
  · unfold Grammar.setStart at choosing
    split at choosing
    · cases choosing
    · rw [← Option.some.inj choosing]
      rfl
  · rcases Outcome.error_andThen later with adding | ⟨_, announcing⟩
    · rcases Grammar.error_addAll adding with ⟨production, _, rfl⟩
      rfl
    · cases announcing

end Automaton

end RegularModels
