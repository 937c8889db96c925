import RegularModels.Text.Blank

/-!
# Errors of the models

Every way in which building or running a model, or reading a record, can be
refused.  Each error states its cause; `ModelError.message` is the wording shown
to a user, and `ModelError.kind` the coarse class by which callers tell them
apart.
-/

namespace RegularModels

/-- Why an operation on a model or a record was refused. -/
inductive ModelError where
  /-- The initial state is not among the states. -/
  | unknownInitialState (state : String)
  /-- A final state is not among the states. -/
  | unknownFinalState (state : String)
  /-- A transition starts at a state that is not among the states. -/
  | unknownSource (state : String)
  /-- A transition leads to a state that is not among the states. -/
  | unknownTarget (state : String)
  /-- A transition reads a symbol that is not in the alphabet. -/
  | unknownSymbol (symbol : String)
  /-- A strict automaton already has a target for the pair. -/
  | repeatedTransition (source symbol previous : String)
  /-- A piece of a list of transitions has not three fields. -/
  | malformedTransition (piece : String)
  /-- A symbol was processed while there was no current state. -/
  | notInitialized
  /-- The start symbol is not a non-terminal. -/
  | unknownStartSymbol (symbol : String)
  /-- The left-hand side of a production is not a non-terminal. -/
  | unknownNonTerminal (symbol : String)
  /-- A piece of a list of productions has not one arrow. -/
  | malformedProduction (piece : String)
  /-- A line has not three fields. -/
  | malformedLine (line : String)
  /-- The code of a record is no integer literal. -/
  | malformedCode (code line : String)
  /-- The code of a record addresses no field. -/
  | unknownCode (code : Int) (line : String)
deriving DecidableEq, Repr

/-- The coarse classes of errors. -/
inductive ErrorKind where
  /-- A text does not have the expected shape. -/
  | format
  /-- A name is used that has not been declared. -/
  | reference
  /-- A second target for a pair of a strict automaton. -/
  | determinism
  /-- Symbols are processed before a reset. -/
  | initialization
deriving DecidableEq, Repr

namespace ModelError

/-- The class of an error, which groups the causes by what was wrong. -/
def kind : ModelError → ErrorKind
  | unknownInitialState _ | unknownFinalState _ | unknownSource _ | unknownTarget _
  | unknownSymbol _ | unknownStartSymbol _ | unknownNonTerminal _ => .reference
  | repeatedTransition _ _ _ => .determinism
  | notInitialized => .initialization
  | malformedTransition _ | malformedProduction _ | malformedLine _ | malformedCode _ _
  | unknownCode _ _ => .format

/-- What is told about an error. -/
def message : ModelError → String
  | unknownInitialState state =>
    s!"Unknown state '{state}': initial state must be one of the states"
  | unknownFinalState state =>
    s!"Unknown state '{state}': final states must be among the states"
  | unknownSource state => s!"Unknown source state '{state}'"
  | unknownTarget state => s!"Unknown target state '{state}'"
  | unknownSymbol symbol => s!"Unknown symbol '{symbol}': not in the alphabet"
  | repeatedTransition source symbol previous =>
    s!"Transition ({source}, {symbol}) already goes to '{previous}'"
  | malformedTransition piece =>
    s!"Invalid transition '{piece}': expected 'state,symbol,state'"
  | notInitialized => "Automaton has not been initialized, call reset() first"
  | unknownStartSymbol symbol =>
    s!"Unknown non-terminal '{symbol}': start symbol must be a non-terminal"
  | unknownNonTerminal symbol => s!"Unknown non-terminal '{symbol}'"
  | malformedProduction piece =>
    s!"Invalid production '{piece}': expected 'A->aB' or 'A->a'"
  | malformedLine line =>
    s!"Invalid line format: '{line}'. Expected '<code>:<name>:<payload>'"
  | malformedCode code line => s!"Invalid record code '{code}' in line '{line}'"
  | unknownCode code line => s!"Unknown record code {code} in line '{line}'"

end ModelError

/--
A message with the place it belongs to: the number of a line and, with a number,
the trimmed line itself.
-/
def located (message : String) (lineNumber : Option Int) (line : Option String) : String :=
  match lineNumber, line with
  | some number, some text =>
    let shown := Text.trim text
    s!"Line {number} ('{shown}'): {message}"
  | some number, none => s!"Line {number}: {message}"
  | none, _ => message

/-- The first line of a text that was refused, and why. -/
structure LineFailure where
  /-- The place of the line among the lines that are not blank, from one. -/
  lineNumber : Nat
  /-- The line as it stands in the text. -/
  line : String
  /-- What was wrong with it. -/
  cause : ModelError
deriving DecidableEq, Repr

/-- The wording of a failure: that of its cause, with the place. -/
def LineFailure.message (failure : LineFailure) : String :=
  located failure.cause.message (some failure.lineNumber) (some failure.line)

end RegularModels
