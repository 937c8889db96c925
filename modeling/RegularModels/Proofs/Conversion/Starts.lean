import RegularModels.Proofs.Conversion.Productions
import RegularModels.Proofs.Conversion.Staleness

/-!
# Where a converted model starts

A conversion that goes through keeps the start: the initial state of the automaton is
the start symbol of its grammar, and the start symbol of a grammar is the initial state
of its automaton.  A model without a start is converted as if the empty name had been
chosen.  So its conversion is refused as long as the empty name is not declared; but a
state or a non-terminal may have the empty name, and then it becomes the start of the
converted model, although it was not that of the model.
-/

namespace RegularModels

open Text (Trimmed trim)

/--
What the converted model starts with was chosen before, or nothing was chosen before
and it is the empty name, which is declared.
-/
def CarriesStart (chosen : Option String) (declared : NameSet) (result : Option String) : Prop :=
  ∃ start, result = some start ∧
    (chosen = some start ∨ chosen = none ∧ start = "" ∧ "" ∈ declared)

/-- A trimmed start is chosen as it is, and a missing one as the empty name. -/
theorem carriesStart_of_getD
    {chosen result : Option String} {declared : NameSet}
    (trimmed : ∀ start, chosen = some start → Trimmed start)
    (carried : result = some (trim (chosen.getD "")))
    (known : chosen = none → "" ∈ declared) :
    CarriesStart chosen declared result := by
  cases chosen with
  | none => exact ⟨"", carried, .inr ⟨rfl, rfl, known rfl⟩⟩
  | some start =>
      refine ⟨start, ?_, .inl rfl⟩
      rw [carried, Option.getD_some, trimmed start rfl]

/-! ## The grammar of an automaton -/

namespace Automaton

variable {automaton : Automaton}

theorem convertedGrammar_start (automaton : Automaton) (name : String) :
    (automaton.convertedGrammar name).start = some (trim (automaton.initial.getD "")) := by
  rw [convertedGrammar, Grammar.foldl_append_frame]

section Trimmed

variable (trimmed : automaton.ReferencesTrimmed)
include trimmed

theorem map_trim_states : automaton.states.toList.map trim = automaton.states.toList :=
  Text.map_trim_of_trimmed trimmed.names.states

/-- Without an initial state, productions come from transitions alone. -/
theorem forall_lhs_mem_states_iff (absent : automaton.initial = none) :
    (∀ production ∈ automaton.productions, trim production.lhs ∈ automaton.states) ↔
      ∀ pair ∈ automaton.transitions, pair.1 ∈ automaton.states := by
  simp only [mem_productions_iff, absent]
  constructor
  · intro declared pair member
    rcases Table.mem_iff_exists_get?.mp member with ⟨target, found⟩
    have source := declared ⟨pair.1, pair.2 ++ target⟩ (.inl ⟨pair.2, target, found, .inl rfl⟩)
    rwa [trimmed.sources pair member] at source
  · rintro declared production (⟨symbol, target, found, _⟩ | ⟨impossible, _⟩)
    · have member : (production.lhs, symbol) ∈ automaton.transitions :=
        Table.mem_iff_exists_get?.mpr ⟨target, found⟩
      have source : Trimmed production.lhs := trimmed.sources (production.lhs, symbol) member
      rw [source]
      exact declared _ member
    · cases impossible

/-- A grammar starts where its automaton does, or at an empty name that is declared. -/
theorem carriesStart_toGrammar
    {name : Option String}
    (went : (automaton.toGrammar name).Succeeds) :
    CarriesStart automaton.initial automaton.states (automaton.toGrammar name).model.start := by
  have guarded : (automaton.toGrammar name).Guarded _ _ := guarded_toGrammar rfl
  have met := guarded.succeeds.mp went
  rw [guarded.model met]
  apply carriesStart_of_getD trimmed.initial (convertedGrammar_start _ _)
  intro absent
  have known := met.1
  rw [absent, map_trim_states trimmed] at known
  exact known

/-- Without an initial state the conversion needs a state with the empty name. -/
theorem succeeds_toGrammar_iff_of_initial_eq_none
    (absent : automaton.initial = none)
    (name : Option String) :
    (automaton.toGrammar name).Succeeds ↔
      "" ∈ automaton.states ∧ ∀ pair ∈ automaton.transitions, pair.1 ∈ automaton.states := by
  rw [(guarded_toGrammar rfl).succeeds, map_trim_states trimmed, absent,
    ← forall_lhs_mem_states_iff trimmed absent]
  exact Iff.rfl

end Trimmed

end Automaton

/-! ## The automaton of a grammar -/

namespace Grammar

variable {grammar : Grammar}

/-- Adding transitions does not touch the initial state. -/
theorem initial_addAll (automaton : Automaton) (transitions : List Transition) :
    (automaton.addAll transitions).model.initial = automaton.initial := by
  apply Outcome.each_model_of (fun reached : Automaton => reached.initial = automaton.initial)
  · intro reached transition same
    rcases reached.model_insertTransition transition.trimmed with unchanged | ⟨_, written⟩
    · exact (congrArg Automaton.initial unchanged).trans same
    · exact (congrArg Automaton.initial written).trans same
  · rfl

theorem initial_setFinals (automaton : Automaton) (names : List String) :
    (automaton.setFinals names).model.initial = automaton.initial := by
  unfold Automaton.setFinals
  split <;> rfl

theorem initial_andThen
    {outcome : Outcome Automaton} {next : Automaton → Outcome Automaton} {initial : Option String}
    (first : outcome.model.initial = initial)
    (further : (next outcome.model).model.initial = initial) :
    (outcome.andThen next).model.initial = initial :=
  Outcome.andThen_model_of (fun reached : Automaton => reached.initial = initial) first further

/-- What is chosen at first stays chosen, and it is one of the states. -/
theorem initial_toAutomaton
    {name : Option String} {text : String}
    (given : nameOr name (grammar.name ++ "_dfa") = text)
    (went : (grammar.toAutomaton name).Succeeds) :
    trim (grammar.start.getD "") ∈ (grammar.automatonFrame grammar.blueprint text).states ∧
      (grammar.toAutomaton name).model.initial = some (trim (grammar.start.getD "")) := by
  simp only [toAutomaton, given] at went ⊢
  have choosing := Automaton.guarded_setInitial
    (grammar.automatonFrame grammar.blueprint text) (grammar.start.getD "")
  have known := choosing.succeeds.mp (Outcome.succeeds_andThen_iff.mp went).1
  refine ⟨known, ?_⟩
  have chosen := congrArg Automaton.initial (choosing.model known)
  have connected := (initial_addAll _ grammar.blueprint.transitions).trans chosen
  have final := (initial_setFinals _ grammar.blueprint.finals).trans connected
  exact initial_andThen chosen (initial_andThen connected (initial_andThen final final))

/-- All that is refused is the use of an undeclared name. -/
theorem kind_error_toAutomaton
    {name : Option String} {cause : ModelError}
    (refused : (grammar.toAutomaton name).error = some cause) :
    cause.kind = .reference := by
  simp only [toAutomaton] at refused
  generalize nameOr name (grammar.name ++ "_dfa") = text at refused
  have choosing := Automaton.guarded_setInitial
    (grammar.automatonFrame grammar.blueprint text) (grammar.start.getD "")
  rcases Outcome.error_andThen refused with first | ⟨went, later⟩
  · unfold Automaton.setInitial at first
    split at first
    · cases first
    · rw [← Option.some.inj first]
      rfl
  · have lenient : ((grammar.automatonFrame grammar.blueprint text).setInitial
        (grammar.start.getD "")).model.strict = false := by
      rw [choosing.model (choosing.succeeds.mp went)]
      rfl
    rcases Outcome.error_andThen later with adding | ⟨_, last⟩
    · rcases Automaton.error_addAll lenient adding with ⟨_, _, undeclared⟩
      exact Automaton.kind_undeclared? undeclared
    · rcases Outcome.error_andThen last with finals | ⟨_, announcing⟩
      · rcases Automaton.error_setFinals finals with ⟨_, _, _, rfl⟩
        rfl
      · cases announcing

/-- A missing start symbol is converted as the empty name. -/
theorem toAutomaton_of_start_eq_none
    (absent : grammar.start = none)
    (name : Option String) :
    grammar.toAutomaton name = ({ grammar with start := some "" } : Grammar).toAutomaton name := by
  rcases grammar with ⟨title, nonTerminals, terminals, start, productions⟩
  cases absent
  rfl

/-- The new states have names, so the empty name is a state only if it is a non-terminal. -/
theorem empty_mem_automatonFrame_states_iff
    (trimmed : grammar.NamesTrimmed)
    (text : String) :
    "" ∈ (grammar.automatonFrame grammar.blueprint text).states ↔ "" ∈ grammar.nonTerminals := by
  rw [show (grammar.automatonFrame grammar.blueprint text).states =
    (grammar.started text).states from rfl, mem_started_states_iff trimmed]
  exact or_iff_left fun new => newState_ne_empty new rfl

/-- An automaton starts where its grammar does, or at an empty name that is declared. -/
theorem carriesStart_toAutomaton
    (built : grammar.Built)
    {name : Option String}
    (went : (grammar.toAutomaton name).Succeeds) :
    CarriesStart grammar.start grammar.nonTerminals (grammar.toAutomaton name).model.initial := by
  rcases initial_toAutomaton rfl went with ⟨known, chosen⟩
  apply carriesStart_of_getD (fun _ => built.start_trimmed) chosen
  intro absent
  rw [absent] at known
  exact (empty_mem_automatonFrame_states_iff built.namesTrimmed _).mp known

/-- Without a start symbol the conversion needs a non-terminal with the empty name. -/
theorem succeeds_toAutomaton_iff_of_start_eq_none
    (built : grammar.Built)
    (absent : grammar.start = none)
    (name : Option String) :
    (grammar.toAutomaton name).Succeeds ↔ "" ∈ grammar.nonTerminals ∧ grammar.Covered := by
  rcases built.lhsTrimmed with ⟨⟨nonTerminals, terminals⟩, lhs⟩
  -- With the empty name chosen it is an ordinary grammar, whose conversion is known.
  have trimmed : ({ grammar with start := some "" } : Grammar).LhsTrimmed :=
    ⟨⟨nonTerminals, terminals⟩, lhs⟩
  constructor
  · intro went
    rcases carriesStart_toAutomaton built went with ⟨_, _, chosen | ⟨_, _, declared⟩⟩
    · rw [absent] at chosen
      cases chosen
    · rw [toAutomaton_of_start_eq_none absent] at went
      exact ⟨declared, (succeeds_toAutomaton_iff trimmed declared rfl name).mp went⟩
  · rintro ⟨declared, covered⟩
    rw [toAutomaton_of_start_eq_none absent]
    exact (succeeds_toAutomaton_iff trimmed declared rfl name).mpr covered

end Grammar

/-! ## Both conversions -/

/--
A conversion of a built model that goes through carries its start over, and all that it
refuses is the use of an undeclared name.  Without a start it goes through exactly when
the empty name is declared and the other names it uses are.
-/
theorem conversions_carry_start
    {automaton : Automaton} {grammar : Grammar}
    (automatonBuilt : automaton.Built)
    (grammarBuilt : grammar.Built)
    (name : Option String) :
    (((automaton.toGrammar name).Succeeds →
        CarriesStart automaton.initial automaton.states
          (automaton.toGrammar name).model.start) ∧
      (∀ error, (automaton.toGrammar name).error = some error → error.kind = .reference) ∧
      (automaton.initial = none →
        ((automaton.toGrammar name).Succeeds ↔
          "" ∈ automaton.states ∧ ∀ pair ∈ automaton.transitions, pair.1 ∈ automaton.states))) ∧
    ((grammar.toAutomaton name).Succeeds →
        CarriesStart grammar.start grammar.nonTerminals
          (grammar.toAutomaton name).model.initial) ∧
      (∀ error, (grammar.toAutomaton name).error = some error → error.kind = .reference) ∧
      (grammar.start = none →
        ((grammar.toAutomaton name).Succeeds ↔
          "" ∈ grammar.nonTerminals ∧ grammar.Covered)) := by
  have trimmed := automatonBuilt.referencesTrimmed
  constructor
  · refine ⟨Automaton.carriesStart_toGrammar trimmed,
      fun _ => Automaton.kind_error_toGrammar, fun absent => ?_⟩
    exact Automaton.succeeds_toGrammar_iff_of_initial_eq_none trimmed absent name
  · refine ⟨Grammar.carriesStart_toAutomaton grammarBuilt,
      fun _ => Grammar.kind_error_toAutomaton, fun absent => ?_⟩
    exact Grammar.succeeds_toAutomaton_iff_of_start_eq_none grammarBuilt absent name

/-- An automaton with some states and a loop, in which no state has been chosen. -/
def Automaton.startless (states : List String) : Automaton where
  name := "startless"
  states := .ofList states
  alphabet := .ofList ["a"]
  transitions := Table.insert ∅ ("q", "a") "q"

/-- A grammar with some non-terminals and a production, in which none has been chosen. -/
def Grammar.startless (nonTerminals : List String) : Grammar where
  name := "startless"
  nonTerminals := .ofList nonTerminals
  terminals := .ofList ["a"]
  productions := Table.insert ∅ "S" ["a"]

theorem Automaton.startless_built
    {states : List String}
    (history : (⟨startless states, {}⟩ : Machine) = Machine.after "startless"
      [.setStates states, .setAlphabet ["a"], .addTransition "q" "a" "q"]) :
    (startless states).Built :=
  ⟨{}, history ▸ Machine.reachable_after _ _⟩

theorem Grammar.startless_built
    {nonTerminals : List String}
    (history : startless nonTerminals = after "startless"
      [.setNonTerminals nonTerminals, .setTerminals ["a"], .addProduction "S" "a"]) :
    (startless nonTerminals).Built :=
  history ▸ built_after _ _

/-- As long as the empty name is not declared, models without a start are refused. -/
theorem conversions_carry_start_startless :
    (Automaton.startless ["q"]).Built ∧
      (∃ error, ((Automaton.startless ["q"]).toGrammar none).error = some error ∧
        error.kind = .reference) ∧
      (Grammar.startless ["S"]).Built ∧
      ∃ error, ((Grammar.startless ["S"]).toAutomaton none).error = some error ∧
        error.kind = .reference := by
  have automatonBuilt : (Automaton.startless ["q"]).Built :=
    Automaton.startless_built (by decide +kernel)
  have grammarBuilt : (Grammar.startless ["S"]).Built :=
    Grammar.startless_built (by decide +kernel)
  rcases conversions_carry_start automatonBuilt grammarBuilt none with
    ⟨⟨_, automatonKind, automatonGoes⟩, _, grammarKind, grammarGoes⟩
  refine ⟨automatonBuilt, ?_, grammarBuilt, ?_⟩
  · have refused : ((Automaton.startless ["q"]).toGrammar none).error ≠ none :=
      fun went => absurd ((automatonGoes rfl).mp went).1 (by decide)
    rcases Option.ne_none_iff_exists'.mp refused with ⟨error, found⟩
    exact ⟨error, found, automatonKind error found⟩
  · have refused : ((Grammar.startless ["S"]).toAutomaton none).error ≠ none :=
      fun went => absurd ((grammarGoes rfl).mp went).1 (by decide)
    rcases Option.ne_none_iff_exists'.mp refused with ⟨error, found⟩
    exact ⟨error, found, grammarKind error found⟩

/-- Where the empty name is declared, it becomes a start that was never chosen. -/
theorem exists_start_never_chosen :
    ((Automaton.startless ["", "q"]).Built ∧ (Automaton.startless ["", "q"]).initial = none ∧
      ((Automaton.startless ["", "q"]).toGrammar none).Succeeds ∧
      ((Automaton.startless ["", "q"]).toGrammar none).model.start = some "") ∧
    (Grammar.startless ["", "S"]).Built ∧ (Grammar.startless ["", "S"]).start = none ∧
      ((Grammar.startless ["", "S"]).toAutomaton none).Succeeds ∧
      ((Grammar.startless ["", "S"]).toAutomaton none).model.initial = some "" := by
  refine ⟨⟨Automaton.startless_built (by decide +kernel), rfl, ?_⟩,
    Grammar.startless_built (by decide +kernel), rfl, ?_⟩
  · decide +kernel
  · decide +kernel

end RegularModels
