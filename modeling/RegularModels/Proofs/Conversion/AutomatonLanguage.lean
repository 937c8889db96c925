import RegularModels.Proofs.Automaton.Acceptance
import RegularModels.Proofs.Conversion.Productions
import RegularModels.Proofs.Grammar.Classification

/-!
# The language of the grammar of an automaton

The grammar of an automaton keeps its productions as texts.  When every such text
is read back as the transition that it was written for, the grammar offers in every
state what the automaton does there, and generates exactly the words that the
automaton accepts.  Only the initial state can stop without a symbol, so the other
final states are reached by a production that ends with the last symbol.
-/

namespace RegularModels.Automaton

variable {automaton : Automaton}

/-! ## Runs and derivations -/

/-- What the automaton can do in a state, as shapes of right-hand sides. -/
def Offers (automaton : Automaton) (state : String) : Shape → Prop
  | .epsilon => automaton.initial = some state ∧ state ∈ automaton.finals
  | .terminal symbol => ∃ target ∈ automaton.finals, automaton.target? state symbol = some target
  | .step symbol target => automaton.target? state symbol = some target

/-- The shapes on offer yield the accepted words, the empty word at the start only. -/
theorem derives_offers_iff
    (declared : automaton.Declared) {state : String} {word : List String} :
    Derives automaton.Offers state word ↔
      automaton.AcceptsFrom state word ∧ (word = [] → automaton.initial = some state) := by
  induction word generalizing state with
  | nil =>
      rw [Derives.nil_iff, AcceptsFrom]
      simp [Offers, and_comm]
  | cons symbol rest ih =>
      rw [Derives.cons_iff, AcceptsFrom, step?_eq_target? declared]
      constructor
      · rintro (⟨⟨target, final, found⟩, rfl⟩ | ⟨next, found, further⟩)
        · exact ⟨⟨target, found, final⟩, by simp⟩
        · exact ⟨⟨next, found, (ih.mp further).1⟩, by simp⟩
      · rintro ⟨⟨next, found, accepted⟩, _⟩
        cases rest with
        | nil => exact .inl ⟨⟨next, accepted, found⟩, rfl⟩
        | cons later rest => exact .inr ⟨next, found, ih.mpr ⟨accepted, by simp⟩⟩

/-! ## Texts that are read back -/

/-- The productions of every transition are read back as what they were written for. -/
structure Readable (automaton : Automaton) : Prop where
  terminal : ∀ grammar : Grammar, grammar.nonTerminals = automaton.states →
    grammar.terminals = automaton.alphabet → ∀ source symbol target,
      automaton.target? source symbol = some target →
        grammar.classify symbol = some (.terminal symbol)
  step : ∀ grammar : Grammar, grammar.nonTerminals = automaton.states →
    grammar.terminals = automaton.alphabet → ∀ source symbol target,
      automaton.target? source symbol = some target →
        grammar.classify (symbol ++ target) = some (.step symbol target)

/--
Productions are read back when no transition leads to the empty name, and the text
of a transition is neither a symbol nor that of another symbol and state.
-/
theorem readable_of_transitions
    (declared : automaton.Declared)
    (noEmptySymbol : "" ∉ automaton.alphabet)
    (noEpsilon : Grammar.epsilon ∉ automaton.alphabet)
    (unique : ∀ source symbol target, automaton.target? source symbol = some target →
      target ≠ "" ∧ symbol ++ target ∉ automaton.alphabet ∧
        ∀ other ∈ automaton.alphabet, ∀ last ∈ automaton.states,
          other ++ last = symbol ++ target → other = symbol ∧ last = target) :
    automaton.Readable := by
  have nonempty : ∀ symbol ∈ automaton.alphabet, symbol ≠ "" :=
    fun _ member empty => noEmptySymbol (empty ▸ member)
  constructor
  · intro grammar _ terminals source symbol target found
    have declares := declared.transitions _ _ _ found
    apply Grammar.classify_terminal (nonempty _ declares.symbol)
    · exact fun same => noEpsilon (same ▸ declares.symbol)
    · exact terminals ▸ declares.symbol
  · intro grammar nonTerminals terminals source symbol target found
    have declares := declared.transitions _ _ _ found
    rcases unique _ _ _ found with ⟨targetNonempty, whole, onlyCut⟩
    apply Grammar.classify_append (nonempty _ declares.symbol) targetNonempty
    · exact terminals ▸ declares.symbol
    · exact nonTerminals ▸ declares.target
    · exact terminals ▸ whole
    · rw [terminals, nonTerminals]
      exact onlyCut

/-- The grammar of the automaton produces what the automaton offers. -/
theorem produces_realizedGrammar_iff
    (trimmed : automaton.NamesTrimmed)
    (readable : automaton.Readable)
    (name lhs : String) (shape : Shape) :
    (automaton.realizedGrammar name).Produces lhs shape ↔ automaton.Offers lhs shape := by
  have nonTerminals := realizedGrammar_nonTerminals trimmed name
  have terminals := realizedGrammar_terminals trimmed name
  have readTerminal := readable.terminal _ nonTerminals terminals
  have readStep := readable.step _ nonTerminals terminals
  have readEmpty := Grammar.classify_epsilon (automaton.realizedGrammar name)
  simp only [Grammar.Produces, mem_realizedGrammar_rhsList_iff, mem_productions_iff]
  constructor
  · rintro ⟨rhs, ⟨symbol, target, found, rfl | ⟨final, rfl⟩⟩ | ⟨initial, final, rfl⟩, read⟩
    · rw [readStep _ _ _ found, Option.some.injEq] at read
      subst read
      exact found
    · rw [readTerminal _ _ _ found, Option.some.injEq] at read
      subst read
      exact ⟨target, final, found⟩
    · rw [readEmpty, Option.some.injEq] at read
      subst read
      exact ⟨initial, final⟩
  · intro offered
    cases shape with
    | epsilon => exact ⟨_, .inr ⟨offered.1, offered.2, rfl⟩, readEmpty⟩
    | terminal symbol =>
        rcases offered with ⟨target, final, found⟩
        exact ⟨symbol, .inl ⟨symbol, target, found, .inr ⟨final, rfl⟩⟩,
          readTerminal _ _ _ found⟩
    | step symbol target =>
        exact ⟨symbol ++ target, .inl ⟨symbol, target, offered, .inl rfl⟩,
          readStep _ _ _ offered⟩

/-- A readable automaton accepts what its grammar generates. -/
theorem generates_realizedGrammar_iff
    (trimmed : automaton.NamesTrimmed)
    (declared : automaton.Declared)
    (readable : automaton.Readable)
    (name : String) (word : List String) :
    (automaton.realizedGrammar name).Generates (automaton.realizedGrammar name).Produces word ↔
      automaton.Accepts word := by
  rcases declared.initial with ⟨state, _, initial⟩
  have produces := produces_realizedGrammar_iff trimmed readable name
  rw [accepts_iff_acceptsFrom initial, Grammar.Generates, realizedGrammar_start, initial]
  simp [Derives.congr produces, derives_offers_iff declared, initial]

/-- The transitions of the automaton are the steps of its grammar, so they are unique. -/
theorem deterministic_realizedGrammar
    (trimmed : automaton.NamesTrimmed)
    (readable : automaton.Readable)
    (name : String) :
    (automaton.realizedGrammar name).Deterministic := by
  intro lhs symbol left right leftProduced rightProduced
  have leftTarget : automaton.target? lhs symbol = some left :=
    (produces_realizedGrammar_iff trimmed readable name lhs _).mp leftProduced
  have rightTarget : automaton.target? lhs symbol = some right :=
    (produces_realizedGrammar_iff trimmed readable name lhs _).mp rightProduced
  exact Option.some.inj (leftTarget.symm.trans rightTarget)

/-! ## Names that are put together unambiguously -/

/--
No symbol is empty or the sign for the empty word, no state is empty, and a symbol
followed by a state is neither a symbol nor another symbol followed by a state.
-/
structure Unambiguous (automaton : Automaton) : Prop where
  emptySymbol : "" ∉ automaton.alphabet
  epsilon : Grammar.epsilon ∉ automaton.alphabet
  emptyState : "" ∉ automaton.states
  append_not_mem : ∀ symbol ∈ automaton.alphabet, ∀ state ∈ automaton.states,
    symbol ++ state ∉ automaton.alphabet
  append_injective : ∀ left ∈ automaton.alphabet, ∀ leftState ∈ automaton.states,
    ∀ right ∈ automaton.alphabet, ∀ rightState ∈ automaton.states,
      left ++ leftState = right ++ rightState → left = right ∧ leftState = rightState

/-- When symbols and states cannot be confused, each production is read as it was written. -/
theorem Unambiguous.readable
    (unambiguous : automaton.Unambiguous)
    (declared : automaton.Declared) :
    automaton.Readable := by
  apply readable_of_transitions declared unambiguous.emptySymbol unambiguous.epsilon
  intro source symbol target found
  have declares := declared.transitions _ _ _ found
  refine ⟨?_, unambiguous.append_not_mem _ declares.symbol _ declares.target, ?_⟩
  · intro empty
    exact unambiguous.emptyState (empty ▸ declares.target)
  · intro other otherSymbol last lastState equal
    exact unambiguous.append_injective _ otherSymbol _ lastState _ declares.symbol _
      declares.target equal

/--
The conversion of a built automaton with an initial state, declared references and
unambiguous names goes through, and its grammar generates exactly the words that the
automaton accepts.
-/
theorem toGrammar_language
    (built : automaton.Built)
    (declared : automaton.Declared)
    (unambiguous : automaton.Unambiguous)
    (name : Option String) :
    (automaton.toGrammar name).Succeeds ∧
      ∀ word, (automaton.toGrammar name).model.Generates
        (automaton.toGrammar name).model.Produces word ↔ automaton.Accepts word := by
  rw [toGrammar_eq built.namesTrimmed declared rfl]
  exact ⟨rfl, generates_realizedGrammar_iff built.namesTrimmed declared
    (unambiguous.readable declared) _⟩

/--
An automaton whose initial state is final and lies on cycles, with an unconnected
state that has the name of a further state.
-/
def cyclic : Automaton where
  name := "cyclic"
  states := .ofList ["p", "q", "qf"]
  alphabet := .ofList ["a", "b"]
  initial := some "p"
  finals := .ofList ["p", "q"]
  transitions := ((Table.insert ∅ ("p", "a") "q").insert ("q", "b") "p").insert ("p", "b") "p"

theorem cyclic_built : cyclic.Built := by
  have history : ⟨cyclic, {}⟩ = Machine.after "cyclic"
      [.setStates ["p", "q", "qf "], .setAlphabet ["b", "a"], .setInitial "p",
        .setFinals ["q", "p"], .addTransitions "p, a, q; q, b, p; p, b, p"] := by
    decide +kernel
  exact ⟨{}, history ▸ Machine.reachable_after _ _⟩

theorem cyclic_declared : cyclic.Declared where
  initial := ⟨"p", by decide, rfl⟩
  finals := by
    change ∀ state ∈ cyclic.finals.toList, state ∈ cyclic.states
    decide
  transitions := by
    intro source symbol target found
    have listed : ∀ entry ∈ cyclic.transitions.entries,
        entry.1.1 ∈ cyclic.states ∧ entry.2 ∈ cyclic.states ∧ entry.1.2 ∈ cyclic.alphabet := by
      decide
    rcases listed _ (Table.get?_eq_some_iff.mp found) with ⟨sourceState, targetState, known⟩
    exact ⟨sourceState, targetState, known⟩

theorem cyclic_unambiguous : cyclic.Unambiguous where
  emptySymbol := by decide
  epsilon := by decide
  emptyState := by decide
  append_not_mem := by
    change ∀ symbol ∈ cyclic.alphabet.toList, ∀ state ∈ cyclic.states.toList,
      symbol ++ state ∉ cyclic.alphabet
    decide
  append_injective := by
    change ∀ left ∈ cyclic.alphabet.toList, ∀ leftState ∈ cyclic.states.toList,
      ∀ right ∈ cyclic.alphabet.toList, ∀ rightState ∈ cyclic.states.toList,
        left ++ leftState = right ++ rightState → left = right ∧ leftState = rightState
    decide

/-- The grammar generates the empty word, and words that come back to the start. -/
theorem toGrammar_language_cyclic :
    cyclic.Built ∧ cyclic.Declared ∧ cyclic.Unambiguous ∧
      (cyclic.toGrammar none).model.Generates (cyclic.toGrammar none).model.Produces [] ∧
      (cyclic.toGrammar none).model.Generates (cyclic.toGrammar none).model.Produces
        ["a", "b", "b"] := by
  have language := (toGrammar_language cyclic_built cyclic_declared cyclic_unambiguous none).2
  refine ⟨cyclic_built, cyclic_declared, cyclic_unambiguous, (language _).mpr ?_,
    (language _).mpr ?_⟩
  · exact (accepts_iff_feed _ _).mpr ⟨by decide, by decide⟩
  · exact (accepts_iff_feed _ _).mpr ⟨by decide, by decide⟩

end RegularModels.Automaton
