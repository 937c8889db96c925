import RegularModels.Automaton.Run

/-!
# Machines

A machine is an automaton together with the run it is in.  Changing the automaton
does not touch the run: a run may stand in a state that has been removed since.
`Machine.apply` carries out any one operation, so that a list of operations is a
history of a machine.
-/

namespace RegularModels

/-- An automaton and the run it is in. -/
structure Machine where
  automaton : Automaton
  run : Run := {}
deriving DecidableEq, Inhabited

namespace Machine

/-- A machine for a new automaton. -/
def new (name : String) (strict : Bool) : Machine where
  automaton := { name, strict }

/-- The state in which the run stands. -/
def current (machine : Machine) : Option String :=
  machine.run.current

/-- Everything that can be done to a machine. -/
inductive Operation where
  | setStates (names : List String)
  | setAlphabet (symbols : List String)
  | setInitial (name : String)
  | setFinals (names : List String)
  | addTransition (source symbol target : String)
  | addTransitions (text : String)
  /-- Go to the initial state and forget the run. -/
  | reset
  /-- Consume one symbol if that is possible. -/
  | process (symbol : String)
  /-- Try a word from the initial state. -/
  | recognize (word : String)
deriving DecidableEq, Repr

/-- Change the automaton and keep the run. -/
def withAutomaton (machine : Machine) (outcome : Outcome Automaton) : Outcome Machine :=
  outcome.map fun automaton => { machine with automaton }

/-- Go to the initial state and forget the run. -/
def reset (machine : Machine) : Machine :=
  { machine with run := machine.automaton.start }

/-- Consume one symbol; a machine that cannot stays as it is. -/
def process (machine : Machine) (symbol : String) : Machine × Progress :=
  match machine.automaton.advance machine.run symbol with
  | .moved run => ({ machine with run }, .moved run)
  | progress => (machine, progress)

/-- Try a word from the initial state. -/
def recognize (machine : Machine) (word : String) : Machine × Recognition :=
  ({ machine with run := (machine.automaton.attempt word).1 },
    machine.automaton.recognize word)

/--
Carry out an operation.  The run stays as it is when the automaton changes; consuming a
symbol before the run has begun is refused.
-/
def apply (machine : Machine) : Operation → Outcome Machine
  | .setStates names => machine.withAutomaton (.done (machine.automaton.setStates names))
  | .setAlphabet symbols => machine.withAutomaton (.done (machine.automaton.setAlphabet symbols))
  | .setInitial name => machine.withAutomaton (machine.automaton.setInitial name)
  | .setFinals names => machine.withAutomaton (machine.automaton.setFinals names)
  | .addTransition source symbol target =>
    machine.withAutomaton (machine.automaton.addTransition source symbol target)
  | .addTransitions text => machine.withAutomaton (machine.automaton.addTransitions text)
  | .reset => .done machine.reset
  | .process symbol =>
    match machine.process symbol with
    | (next, .moved _) | (next, .refused _) => .done next
    | (next, .notInitialized) => .refuse next .notInitialized
  | .recognize word =>
    let (next, recognition) := machine.recognize word
    .announce next (machine.automaton.recognitionEvents recognition)

end Machine

end RegularModels
