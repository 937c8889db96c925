import RegularModels.NameSet
import RegularModels.Outcome
import RegularModels.Text.Split

/-!
# Finite automata

A deterministic finite automaton over named states and symbols.  It is built step
by step: every change checks its arguments against the states and the alphabet
that are in place, so transitions can be added once both are set.  Replacing the
states or the alphabet checks nothing, and what refers to a name that is gone
stays in place.

The transitions map a state and a symbol to at most one target.  Adding a pair
again replaces its target and announces it; a strict automaton refuses instead.
-/

namespace RegularModels

open Text (trim)

/-- A deterministic finite automaton. -/
structure Automaton where
  name : String
  states : NameSet := ∅
  /-- The symbols; a word is read one character at a time. -/
  alphabet : NameSet := ∅
  initial : Option String := none
  finals : NameSet := ∅
  /-- The target of each state and symbol, in order of first addition. -/
  transitions : Table (String × String) String := ∅
  /-- A strict automaton refuses a second target for a pair. -/
  strict : Bool := false
deriving DecidableEq, Inhabited

/-- One transition: from a state, by a symbol, to a state. -/
structure Transition where
  source : String
  symbol : String
  target : String
deriving DecidableEq, Repr

/-- Read a transition written as three fields between commas. -/
def Transition.ofText? (piece : String) : Option Transition :=
  match Text.pieces ',' piece with
  | [source, symbol, target] => some ⟨source, symbol, target⟩
  | _ => none

namespace Automaton

/-! ## Changes -/

/--
Declare the states anew, without the blanks around their names; whatever refers to a state
that is no longer declared is kept as it is.
-/
def setStates (automaton : Automaton) (names : List String) : Automaton :=
  { automaton with states := .ofList (names.map trim) }

/--
Declare the alphabet anew, without the blanks around the symbols; transitions that read other
symbols are kept.
-/
def setAlphabet (automaton : Automaton) (symbols : List String) : Automaton :=
  { automaton with alphabet := .ofList (symbols.map trim) }

/-- Choose the initial state among the states. -/
def setInitial (automaton : Automaton) (name : String) : Outcome Automaton :=
  if trim name ∈ automaton.states then
    .done { automaton with initial := some (trim name) }
  else .refuse automaton (.unknownInitialState (trim name))

/-- Choose the final states among the states. -/
def setFinals (automaton : Automaton) (names : List String) : Outcome Automaton :=
  match (names.map trim).find? (· ∉ automaton.states) with
  | some name => .refuse automaton (.unknownFinalState name)
  | none => .done { automaton with finals := .ofList (names.map trim) }

/-- The target of a state and a symbol. -/
def target? (automaton : Automaton) (state symbol : String) : Option String :=
  automaton.transitions.get? (state, symbol)

/-- Write a target, whatever stood there. -/
def connect (automaton : Automaton) (transition : Transition) : Automaton :=
  { automaton with
    transitions := automaton.transitions.insert (transition.source, transition.symbol)
      transition.target }

/-- What adding a transition runs into, if it uses an undeclared name. -/
def undeclared? (automaton : Automaton) (transition : Transition) : Option ModelError :=
  if transition.source ∉ automaton.states then some (.unknownSource transition.source)
  else if transition.target ∉ automaton.states then some (.unknownTarget transition.target)
  else if transition.symbol ∉ automaton.alphabet then some (.unknownSymbol transition.symbol)
  else none

/-- Add a transition whose names are trimmed. -/
def insertTransition (automaton : Automaton) (transition : Transition) : Outcome Automaton :=
  match automaton.undeclared? transition with
  | some error => .refuse automaton error
  | none =>
    match automaton.target? transition.source transition.symbol with
    | none => .done (automaton.connect transition)
    | some previous =>
      if automaton.strict then
        .refuse automaton
          (.repeatedTransition transition.source transition.symbol previous)
      else
        .announce (automaton.connect transition)
          [.transitionOverwrite automaton.name transition.source transition.symbol previous
            transition.target]

/-- Add a transition between declared states, without the blanks around its names. -/
def addTransition (automaton : Automaton) (source symbol target : String) : Outcome Automaton :=
  automaton.insertTransition ⟨trim source, trim symbol, trim target⟩

/-- Add the transition written in one piece of a list. -/
def addPiece (automaton : Automaton) (piece : String) : Outcome Automaton :=
  match Transition.ofText? piece with
  | some transition => automaton.insertTransition transition
  | none => .refuse automaton (.malformedTransition (trim piece))

/--
Add the transitions of a list: pieces between semicolons, each with three fields
between commas.  The first piece that is malformed or refused stops the list, and
the pieces before it stay added.
-/
def addTransitions (automaton : Automaton) (text : String) : Outcome Automaton :=
  .each addPiece automaton (Text.splitAtChar ';' text)

end Automaton

end RegularModels
