import RegularModels.Automaton.Basic
import RegularModels.Order
import RegularModels.Validation

/-!
# Looking at an automaton

Listings in sorted order, the pairs that have no target, validation, and equality
of automata up to the order in which transitions were added.
-/

namespace RegularModels.Automaton

/-- The transitions as entries, sorted by state and symbol. -/
def sortedEntries (automaton : Automaton) : List ((String × String) × String) :=
  sortByPair automaton.transitions.entries

/-- The transitions, sorted by state and symbol. -/
def transitionList (automaton : Automaton) : List Transition :=
  automaton.sortedEntries.map fun entry => ⟨entry.1.1, entry.1.2, entry.2⟩

/-- What is told about an automaton, with its names and transitions in sorted order. -/
structure Info where
  name : String
  states : List String
  alphabet : List String
  initial : Option String
  finals : List String
  transitionCount : Nat
  transitions : List Transition
deriving DecidableEq, Repr

/-- All that is told about an automaton, with sets and transitions in order. -/
def info (automaton : Automaton) : Info where
  name := automaton.name
  states := automaton.states.toList
  alphabet := automaton.alphabet.toList
  initial := automaton.initial
  finals := automaton.finals.toList
  transitionCount := automaton.transitions.size
  transitions := automaton.transitionList

/-- All pairs of a state and a symbol, in increasing order. -/
def pairs (automaton : Automaton) : List (String × String) :=
  automaton.states.toList.flatMap fun state => automaton.alphabet.toList.map (state, ·)

/-- The pairs of a state and a symbol without a target, in increasing order. -/
def missing (automaton : Automaton) : List (String × String) :=
  automaton.pairs.filter (· ∉ automaton.transitions)

/-- Every state has a target for every symbol. -/
def isComplete (automaton : Automaton) : Bool :=
  automaton.missing.isEmpty

/-- What is missing or wrong in an automaton. -/
def validate (automaton : Automaton) : Validation where
  errors :=
    Finding.when automaton.states.isEmpty .noStates ++
      Finding.when automaton.alphabet.isEmpty .noAlphabet ++
      Finding.when automaton.initial.isNone .noInitialState
  warnings :=
    Finding.when automaton.finals.isEmpty .noFinalStates ++
      Finding.when (!automaton.isComplete) (.missingTransitions automaton.missing.length)

/--
Two automata are the same when they differ at most in the order in which their
transitions were added.
-/
def Same (left right : Automaton) : Prop :=
  left.name = right.name ∧ left.states = right.states ∧ left.alphabet = right.alphabet ∧
    left.initial = right.initial ∧ left.finals = right.finals ∧ left.strict = right.strict ∧
    left.transitions.Agrees right.transitions

instance (left right : Automaton) : Decidable (Same left right) :=
  inferInstanceAs (Decidable (_ ∧ _))

end RegularModels.Automaton
