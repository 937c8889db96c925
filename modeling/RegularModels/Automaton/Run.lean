import RegularModels.Automaton.Basic

/-!
# Runs of an automaton

A run is the list of states visited so far, each with the symbol that led to it; its
`path` numbers the visits.  `advance` consumes one symbol, `feed` a list of symbols up to
the first that is refused, and `recognize` tries a word from the initial state.

A symbol is refused when it is not in the alphabet or has no target; the run
then stays where it is.  A run without a current state cannot consume anything.
-/

namespace RegularModels

/-- One visited state. -/
structure Visit where
  state : String
  /-- The symbol consumed to get there; the first visit has none. -/
  symbol : Option String
  /-- The place in the run, from zero. -/
  step : Nat
deriving DecidableEq, Repr

/-- The states visited so far; a run that has not been started is empty. -/
structure Run where
  /-- The states with the symbols that led to them, latest first. -/
  visits : List (String × Option String) := []
deriving DecidableEq, Repr, Inhabited

namespace Run

/-- The visits in the order in which they were made. -/
def path (run : Run) : List Visit :=
  run.visits.reverse.zipIdx.map fun (visit, step) => ⟨visit.1, visit.2, step⟩

/-- The state in which a run stands, which is the one it visited last. -/
def current (run : Run) : Option String :=
  run.visits.head?.map Prod.fst

/-- Go on to a state by a symbol. -/
def visit (run : Run) (state symbol : String) : Run where
  visits := (state, some symbol) :: run.visits

/-- A run that starts at a state, or not at all. -/
def start : Option String → Run
  | some state => { visits := [(state, none)] }
  | none => {}

@[simp]
theorem current_start (state : Option String) : (start state).current = state := by
  cases state <;> rfl

@[simp]
theorem current_visit (run : Run) (state symbol : String) :
    (run.visit state symbol).current = some state :=
  rfl

@[simp]
theorem path_visit (run : Run) (state symbol : String) :
    (run.visit state symbol).path =
      run.path ++ [⟨state, some symbol, run.path.length⟩] := by
  simp [path, visit, List.zipIdx_append]

end Run

/-- What became of one symbol. -/
inductive Progress where
  /-- There is no current state. -/
  | notInitialized
  /-- The symbol cannot be consumed in the current state. -/
  | refused (state : String)
  | moved (run : Run)
deriving DecidableEq, Repr

/-- Why a list of symbols was not consumed further. -/
inductive Halt where
  | finished
  /-- A symbol was refused in a state. -/
  | refused (symbol state : String)
  /-- There is no current state. -/
  | notInitialized
deriving DecidableEq, Repr

/-- What is said about a word. -/
inductive Verdict where
  /-- The word was consumed and led to this state. -/
  | finished (state : Option String) (accepted : Bool)
  /-- The symbol was refused in this state. -/
  | stuck (symbol state : String)
  /-- The automaton has no initial state. -/
  | notInitialized
deriving DecidableEq, Repr

/-- The answer to a word. -/
structure Recognition where
  word : String
  verdict : Verdict
  /-- The states visited; none are told of a run that could not start. -/
  path : List Visit
deriving DecidableEq, Repr

namespace Recognition

/-- The word was consumed and ended in a final state. -/
def accepted (recognition : Recognition) : Bool :=
  match recognition.verdict with
  | .finished _ accepted => accepted
  | .stuck _ _ | .notInitialized => false

/-- The state that the word led to. -/
def finalState (recognition : Recognition) : Option String :=
  match recognition.verdict with
  | .finished state _ => state
  | .stuck _ _ | .notInitialized => none

/-- The wording of the reason why the word was not consumed. -/
def error (recognition : Recognition) : Option String :=
  match recognition.verdict with
  | .finished _ _ => none
  | .stuck symbol state =>
    some s!"No transition defined for symbol '{symbol}' from state '{state}'"
  | .notInitialized => some ModelError.notInitialized.message

end Recognition

/-- The symbols of a word: its characters. -/
def symbols (word : String) : List String :=
  word.toList.map fun char => String.ofList [char]

namespace Automaton

/-- The state that a symbol leads to, if the symbol is in the alphabet. -/
def step? (automaton : Automaton) (state symbol : String) : Option String :=
  if symbol ∈ automaton.alphabet then automaton.target? state symbol else none

/--
Consume a symbol: the run moves on, is refused where no transition reads the symbol, or
cannot move because it has not begun.
-/
def advance (automaton : Automaton) (run : Run) (symbol : String) : Progress :=
  match run.current with
  | none => .notInitialized
  | some state =>
    match automaton.step? state symbol with
    | none => .refused state
    | some next => .moved (run.visit next symbol)

/-- Consume symbols up to the first that is refused. -/
def feed (automaton : Automaton) (run : Run) : List String → Run × Halt
  | [] => (run, .finished)
  | symbol :: rest =>
    match automaton.advance run symbol with
    | .notInitialized => (run, .notInitialized)
    | .refused state => (run, .refused symbol state)
    | .moved next => automaton.feed next rest

/-- The run that stands at the initial state. -/
def start (automaton : Automaton) : Run :=
  .start automaton.initial

/-- The state, if there is one, is a final state. -/
def isFinal (automaton : Automaton) : Option String → Bool
  | some state => decide (state ∈ automaton.finals)
  | none => false

/-- Try a word from the initial state; the run is what is left standing. -/
def attempt (automaton : Automaton) (word : String) : Run × Verdict :=
  match automaton.feed automaton.start (symbols word) with
  | (run, .finished) => (run, .finished run.current (automaton.isFinal run.current))
  | (run, .refused symbol state) => (run, .stuck symbol state)
  | (run, .notInitialized) => (run, .notInitialized)

/--
Try a word from the initial state, and tell the decision with the path up to where the word
ended or was refused.
-/
def recognize (automaton : Automaton) (word : String) : Recognition :=
  match automaton.attempt word with
  | (run, verdict) => { word, verdict, path := run.path }

/-- A word that was consumed is announced. -/
def recognitionEvents (automaton : Automaton) (recognition : Recognition) : List Event :=
  match recognition.verdict with
  | .finished state accepted =>
    [.wordRecognized automaton.name recognition.word accepted state]
  | .stuck _ _ | .notInitialized => []

/-- The word leads from the initial state to a final state. -/
def accepts (automaton : Automaton) (word : String) : Bool :=
  (automaton.recognize word).accepted

end Automaton

end RegularModels
