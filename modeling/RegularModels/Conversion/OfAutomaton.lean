import RegularModels.Automaton.Basic
import RegularModels.Conversion.Fresh
import RegularModels.Grammar.Basic

/-!
# From automata to grammars

The grammar of an automaton has the states as non-terminals and the alphabet as
terminals.  A transition from `q` by `a` to `p` gives `q -> ap`, and `q -> a` as
well when `p` is final; a final initial state gives one production for the empty
word.
-/

namespace RegularModels.Automaton

/--
The productions of one transition: a step to its target and, if that is a final state, an
end.
-/
def transitionProductions (automaton : Automaton) (transition : Transition) :
    List Production :=
  ⟨transition.source, transition.symbol ++ transition.target⟩ ::
    if transition.target ∈ automaton.finals then [⟨transition.source, transition.symbol⟩]
    else []

/-- The production for the empty word, if the initial state is final. -/
def emptyWordProductions (automaton : Automaton) : List Production :=
  match automaton.initial with
  | some state => if state ∈ automaton.finals then [⟨state, Grammar.epsilon⟩] else []
  | none => []

/-- The productions of an automaton, in the order of its transitions. -/
def productions (automaton : Automaton) : List Production :=
  (automaton.transitions.entries.flatMap fun entry =>
    automaton.transitionProductions ⟨entry.1.1, entry.1.2, entry.2⟩) ++
    automaton.emptyWordProductions

/-- The symbols of the grammar of an automaton, without productions. -/
def grammarSymbols (automaton : Automaton) (name : String) : Grammar :=
  (Grammar.setNonTerminals { name } automaton.states.toList).setTerminals
    automaton.alphabet.toList

/--
The grammar of an automaton.  The conversion is refused when there is no initial
state, unless a state has the empty name, and when a transition starts at a state
that has been removed.
-/
def toGrammar (automaton : Automaton) (name : Option String) : Outcome Grammar :=
  ((automaton.grammarSymbols (nameOr name (automaton.name ++ "_rg"))).setStart
    (automaton.initial.getD "")).andThen fun started =>
  (Outcome.each (fun grammar production =>
    grammar.addProduction production.lhs production.rhs) started automaton.productions).andThen
      fun grammar =>
  .announce grammar
    [.automatonConverted automaton.name grammar.name grammar.productionList.length]

end RegularModels.Automaton
