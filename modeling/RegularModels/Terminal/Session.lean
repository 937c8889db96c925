import RegularModels.Automaton.Diagram
import RegularModels.Automaton.Machine
import RegularModels.Conversion.OfAutomaton
import RegularModels.Conversion.OfGrammar
import RegularModels.Failure
import RegularModels.Terminal.Response

/-!
# Sessions of the terminal

A session holds a catalog, the files around it, and the runs in which its automata
stand.  `respond` answers one command; `converse` reads inputs until a command
leaves, the input ends, or an error breaks the session off.

Trying a word leaves the automaton in the run of that word; an automaton that is
loaded or made anew has not run yet.

Drawings are handed to a package, which is a parameter of all that follows; what it
makes of them, and what it does to the files, is up to the package.

A failing command prints its error and the session goes on, unless the error is one
that the terminal does not report; such an error breaks the session off.
-/

namespace RegularModels.Terminal

/-- The models that are loaded, with their runs, and the files around them. -/
structure Session where
  catalog : Catalog
  files : FileTree
  /-- The run of each automaton that has tried a word. -/
  runs : Table String Run := ∅

/-- How a session goes on after a reply. -/
inductive Next where
  | goOn
  /-- The session was asked to end. -/
  | leave
  /-- An error breaks the session off. -/
  | breakOff (failure : Failure)
deriving DecidableEq, Repr

/-- The answer to a command. -/
structure Reply where
  session : Session
  output : String
  /-- What was announced, in order. -/
  events : List Event := []
  next : Next := .goOn

namespace Session

/-- Print a text and change nothing. -/
def say (session : Session) (output : String) : Reply :=
  { session, output }

/-- Report a failure, or break off if it is not one to report. -/
def report (session : Session) (failure : Failure) : Reply :=
  if failure.isReported then session.say (errorLine failure.message)
  else { session, output := "", next := .breakOff failure }

/-- Load a file in place of all models. -/
def load (session : Session) (path : String) : Reply :=
  match session.files.readText path with
  | .error error => session.report (.file error)
  | .ok content =>
    let reading := session.catalog.reload content
    { session := { session with catalog := reading.catalog, runs := ∅ }
      output :=
        match reading.failure with
        | some failure => errorLine failure.message
        | none => loadedLine reading.catalog
      events := reading.events }

/-- Answer about an automaton, if there is one of this name. -/
def withAutomaton (session : Session) (name : String) (answer : Automaton → Reply) : Reply :=
  match session.catalog.automata.get? name with
  | some automaton => answer automaton
  | none => session.say (line ("Automaton not found: " ++ name))

/-- Answer about a grammar, if there is one of this name. -/
def withGrammar (session : Session) (name : String) (answer : Grammar → Reply) : Reply :=
  match session.catalog.grammars.get? name with
  | some grammar => answer grammar
  | none => session.say (line ("Grammar not found: " ++ name))

/-- The automaton of a name in the run in which it stands. -/
def machine (session : Session) (name : String) (automaton : Automaton) : Machine where
  automaton
  run := (session.runs.get? name).getD {}

/-- Let the automaton of a name try a word, which leaves it in the run of that word. -/
def recognize (session : Session) (name : String) (automaton : Automaton) (word : String) :
    Session × Recognition :=
  let tried := (session.machine name automaton).recognize word
  ({ session with runs := session.runs.insert name tried.1.run }, tried.2)

/-- Tell whether an automaton accepts a word, and by which path. -/
def test (session : Session) (name : String) (automaton : Automaton) (word : String) : Reply :=
  let (tried, recognition) := session.recognize name automaton word
  { session := tried
    output := line (describeRecognition recognition)
    events := automaton.recognitionEvents recognition }

/-- The findings about the automaton of a name, or else about the grammar. -/
def validate (session : Session) (name : String) : Reply :=
  match session.catalog.automata.get? name with
  | some automaton => session.say (describeValidation name automaton.validate)
  | none =>
    match session.catalog.grammars.get? name with
    | some grammar => session.say (describeValidation name grammar.validate)
    | none => session.say (line ("Not found: " ++ name))

/-- A drawing that was asked for. -/
structure Drawn where
  /-- The session in which the word, if there was one, has been tried. -/
  session : Session
  diagram : Dot.Digraph
  /-- What was announced, in order. -/
  events : List Event := []

/--
Draw the automaton of a name with the path of a word, if one is given; the word is
tried and announced for that.
-/
def draw (session : Session) (name : String) (automaton : Automaton) (word : Option String) :
    Drawn :=
  match word with
  | none => { session, diagram := automaton.diagram [] }
  | some word =>
    let (tried, recognition) := session.recognize name automaton word
    { session := tried
      diagram := automaton.diagram (recognition.path.map (·.state))
      events := automaton.recognitionEvents recognition }

section Package

variable (package : Dot.Package)

/-- Print the text of the drawing of an automaton. -/
def dot (session : Session) (name : String) (automaton : Automaton) (word : Option String) :
    Reply :=
  let drawn := session.draw name automaton word
  { session := drawn.session
    output := line (package.source drawn.diagram)
    events := drawn.events }

/-- Have the drawing of an automaton rendered under its name, and tell the path of the image. -/
def graph (session : Session) (name : String) (automaton : Automaton)
    (word : Option String) : Reply :=
  let drawn := session.draw name automaton word
  let rendering := package.render drawn.session.files name drawn.diagram
  let rendered : Session := { drawn.session with files := rendering.files }
  let reply :=
    match rendering.result with
    | .ok path => rendered.say (line ("Created: " ++ path))
    | .error error => rendered.report (.rendering error)
  { reply with events := drawn.events }

end Package

/-- Add the grammar of an automaton. -/
def toGrammar (session : Session) (automaton : Automaton) (result : String) : Reply :=
  let outcome := automaton.toGrammar (some result)
  match outcome.error with
  | some error => { session, output := errorLine error.message, events := outcome.events }
  | none =>
    { session :=
        { session with catalog := session.catalog.putGrammar result outcome.model }
      output := line ("Created grammar: " ++ result)
      events := outcome.events }

/-- Add the automaton of a grammar. -/
def toAutomaton (session : Session) (grammar : Grammar) (result : String) : Reply :=
  let outcome := grammar.toAutomaton (some result)
  match outcome.error with
  | some error => { session, output := errorLine error.message, events := outcome.events }
  | none =>
    { session :=
        { session with
          catalog := session.catalog.putAutomaton result outcome.model
          runs := session.runs.erase result }
      output := line ("Created automaton: " ++ result)
      events := outcome.events }

/-- Delete the automaton and the grammar of a name. -/
def delete (session : Session) (name : String) : Reply :=
  let catalog := session.catalog
  if name ∈ catalog.automata ∨ name ∈ catalog.grammars then
    { session :=
        { session with
          catalog :=
            { catalog with
              automata := catalog.automata.erase name
              grammars := catalog.grammars.erase name }
          runs := session.runs.erase name }
      output := line ("Deleted: " ++ name) }
  else session.say (line ("Not found: " ++ name))

/-- Carry out an action with its argument, and with a second one if it is given. -/
def perform (package : Dot.Package) (session : Session) (action : Action) (name : String)
    (extra : Option String) : Reply :=
  match action with
  | .load => session.load name
  | .showAutomaton =>
    session.withAutomaton name fun automaton => session.say (describeAutomaton name automaton)
  | .showGrammar =>
    session.withGrammar name fun grammar => session.say (line grammar.render)
  | .test =>
    session.withAutomaton name fun automaton => session.test name automaton (extra.getD "")
  | .validate => session.validate name
  | .dot =>
    session.withAutomaton name fun automaton => session.dot package name automaton extra
  | .graph =>
    session.withAutomaton name fun automaton => session.graph package name automaton extra
  | .toGrammar =>
    session.withAutomaton name fun automaton =>
      session.toGrammar automaton (extra.getD (name ++ "_rg"))
  | .toAutomaton =>
    session.withGrammar name fun grammar =>
      session.toAutomaton grammar (extra.getD (name ++ "_dfa"))
  | .delete => session.delete name

/-- Answer a command; a command that fails says why. -/
def respond (package : Dot.Package) (session : Session) : Command → Reply
  | .blank => session.say ""
  | .exit => { session, output := "", next := .leave }
  | .help => session.say (line helpText)
  | .list => session.say (describeCatalog session.catalog)
  | .clear =>
    { session := { session with catalog := session.catalog.clear, runs := ∅ }
      output := line "Cleared all" }
  | .incomplete action => session.say (usageLine action)
  | .perform action name extra => session.perform package action name extra
  | .unknown word => session.say (line ("Unknown command: " ++ word))

end Session

/-- What the terminal reads: a line, or an interrupt in place of one. -/
inductive Input where
  | line (text : String)
  | interrupt
deriving DecidableEq, Repr

/-- A session from some point to its end. -/
structure Transcript where
  /-- The session as it ended. -/
  session : Session
  output : String
  /-- What was announced, in order. -/
  events : List Event
  /-- The failure that broke the session off. -/
  broken : Option Failure

namespace Session

/-- Answer a line, or tell after an interrupt how to leave. -/
def answer (package : Dot.Package) (session : Session) : Input → Reply
  | .line text => session.respond package (Command.ofLine text)
  | .interrupt => session.say interruptText

/-- Put what a reply printed and announced in front of what follows. -/
def continueWith (reply : Reply) (opening : String) (rest : Session → Transcript) :
    Transcript :=
  match reply.next with
  | .goOn =>
    let later := rest reply.session
    { later with
      output := opening ++ reply.output ++ later.output
      events := reply.events ++ later.events }
  | .leave => ⟨reply.session, opening ++ reply.output ++ farewell, reply.events, none⟩
  | .breakOff failure => ⟨reply.session, opening ++ reply.output, reply.events, some failure⟩

/-- Read inputs until the session ends. -/
def converse (package : Dot.Package) (session : Session) : List Input → Transcript
  | [] => ⟨session, prompt ++ farewell, [], none⟩
  | input :: inputs =>
    continueWith (session.answer package input) prompt fun next => next.converse package inputs

/-- Greet, load the start file if one is named, and read inputs. -/
def start (package : Dot.Package) (session : Session) (file : Option String)
    (inputs : List Input) : Transcript :=
  match file with
  | none | some "" =>
    continueWith (session.say "") banner fun next => next.converse package inputs
  | some path =>
    continueWith (session.load path) banner fun next => next.converse package inputs

end Session

end RegularModels.Terminal
