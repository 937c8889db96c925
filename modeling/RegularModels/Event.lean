import RegularModels.Error
import RegularModels.Log.Entry

/-!
# Events

What models and record files announce while they work.  Each event has a level,
a name, and fields that tell its circumstances.
-/

namespace RegularModels

open Log (Level Value Entry)

/-- Something that was announced. -/
inductive Event where
  /-- A pair got a new target in place of its previous one. -/
  | transitionOverwrite (automaton state symbol previous target : String)
  /-- A word was consumed to its end. -/
  | wordRecognized (automaton word : String) (accepted : Bool) (finalState : Option String)
  /-- An automaton was converted to a grammar with so many productions. -/
  | automatonConverted (source target : String) (productions : Nat)
  /-- A grammar was converted to an automaton with so many states and transitions. -/
  | grammarConverted (source target : String) (states transitions : Nat)
  | recordParseFailed (failure : LineFailure)
  /-- All lines were accepted; the names of the models are sorted. -/
  | recordsParsed (lines : Nat) (automata grammars : List String)
deriving DecidableEq, Repr

namespace Event

/-- How urgent an event is. -/
def level : Event → Level
  | transitionOverwrite .. => .warning
  | wordRecognized .. | automatonConverted .. | grammarConverted .. => .debug
  | recordParseFailed .. => .error
  | recordsParsed .. => .info

/-- The name under which an event is logged. -/
def name : Event → String
  | transitionOverwrite .. => "transition_overwrite"
  | wordRecognized .. => "word_recognized"
  | automatonConverted .. => "automaton_converted"
  | grammarConverted .. => "grammar_converted"
  | recordParseFailed .. => "record_parse_failed"
  | recordsParsed .. => "records_parsed"

/-- The logger that announces an event. -/
def logger : Event → String
  | transitionOverwrite .. | wordRecognized .. | automatonConverted .. => "automaton"
  | grammarConverted .. => "grammar"
  | recordParseFailed .. | recordsParsed .. => "io_utils"

/-- What is logged about an event beside its name, in order. -/
def fields : Event → List (String × Value)
  | transitionOverwrite automaton state symbol previous target =>
    [("automaton", .text automaton), ("state", .text state), ("symbol", .text symbol),
      ("previous", .text previous), ("target", .text target)]
  | wordRecognized automaton word accepted finalState =>
    [("automaton", .text automaton), ("word", .text word), ("accepted", .boolean accepted),
      ("final_state", .ofOption finalState)]
  | automatonConverted source target productions =>
    [("source", .text source), ("target", .text target), ("productions", .integer productions)]
  | grammarConverted source target states transitions =>
    [("source", .text source), ("target", .text target), ("states", .integer states),
      ("transitions", .integer transitions)]
  | recordParseFailed failure =>
    [("line_number", .integer failure.lineNumber), ("line", .text failure.line),
      ("error", .text failure.cause.message)]
  | recordsParsed lines automata grammars =>
    [("lines", .integer lines), ("automata", .texts automata), ("grammars", .texts grammars)]

/-- The event as an entry of the log. -/
def entry (event : Event) : Entry where
  logger := some event.logger
  level := event.level
  event := event.name
  given := event.fields

/-- The event reports that a pair got a new target. -/
def IsOverwrite : Event → Prop
  | transitionOverwrite .. => True
  | _ => False

instance (event : Event) : Decidable event.IsOverwrite := by
  cases event <;> simp only [IsOverwrite] <;> infer_instance

end Event

end RegularModels
