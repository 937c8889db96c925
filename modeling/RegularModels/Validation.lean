/-!
# Findings of a validation

A model is valid when no error is found.  Warnings do not make it invalid.
-/

namespace RegularModels

/-- Something that is missing or wrong in a model. -/
inductive Finding where
  | noStates
  | noAlphabet
  | noInitialState
  | noFinalStates
  /-- So many pairs of a state and a symbol have no target. -/
  | missingTransitions (count : Nat)
  | noNonTerminals
  | noTerminals
  | noStartSymbol
  | noProductions
  /-- A right-hand side has none of the regular shapes. -/
  | irregularProduction (lhs rhs : String)
deriving DecidableEq, Repr

/-- What is told about a finding. -/
def Finding.message : Finding → String
  | noStates => "No states defined"
  | noAlphabet => "No alphabet defined"
  | noInitialState => "No initial state defined"
  | noFinalStates => "No final states defined"
  | missingTransitions count =>
    s!"{count} transitions missing for the automaton to be complete"
  | noNonTerminals => "No non-terminals defined"
  | noTerminals => "No terminals defined"
  | noStartSymbol => "No start symbol defined"
  | noProductions => "No productions defined"
  | irregularProduction lhs rhs => s!"Production '{lhs} -> {rhs}' is not right-linear regular"

/-- The findings about a model, each list in the order of the checks. -/
structure Validation where
  errors : List Finding
  warnings : List Finding
deriving DecidableEq, Repr

/-- Nothing was found that counts as an error; warnings do not matter. -/
def Validation.isValid (validation : Validation) : Bool :=
  validation.errors.isEmpty

/-- The finding alone if the condition holds, else nothing. -/
def Finding.when (condition : Bool) (finding : Finding) : List Finding :=
  if condition then [finding] else []

end RegularModels
