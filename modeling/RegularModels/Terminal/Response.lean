import RegularModels.Automaton.Inspect
import RegularModels.Automaton.Run
import RegularModels.Grammar.Inspect
import RegularModels.Record.Catalog
import RegularModels.Terminal.Command

/-!
# Texts of the terminal

What the terminal prints about models, words and validations, as pure functions
of what they describe.
-/

namespace RegularModels.Terminal

/-- The first lines of a session. -/
def banner : String :=
  "Automaton & Regular Grammar Terminal - Type 'help' for commands\n\n"

/-- What is printed before a line is read. -/
def prompt : String := "> "

/-- The last line of a session. -/
def farewell : String := "Goodbye!\n"

/-- What is printed after an interrupt. -/
def interruptText : String := "\nUse 'exit' to quit\n"

/-- What the help command prints. -/
def helpText : String :=
  String.join (List.map (· ++ "\n")
    ["",
      "Commands:",
      "  LOADING:",
      "    load <file>                  - Load automata/grammars from a record file",
      "                                   (replaces everything loaded before)",
      "    list                         - List all loaded items",
      "",
      "  AUTOMATA OPERATIONS:",
      "    show <name>                  - Show automaton info",
      "    test <name> [word]           - Test if word is accepted (no word = ε)",
      "    validate <name>              - Validate automaton or grammar",
      "    dot <name> [word]            - Print Graphviz source, highlighting the run",
      "    graph <name> [word]          - Render automaton to <name>.png",
      "    to_grammar <name> [result]   - Convert automaton to regular grammar",
      "",
      "  GRAMMAR OPERATIONS:",
      "    show_grammar <name>          - Show grammar info",
      "    to_automaton <name> [result] - Convert regular grammar to automaton",
      "",
      "  GENERAL:",
      "    delete <name>                - Delete item",
      "    clear                        - Clear all",
      "    exit                         - Exit"])

/-- A text as a line of its own. -/
def line (text : String) : String := text ++ "\n"

/-- The line that reports an error. -/
def errorLine (message : String) : String := line ("Error: " ++ message)

/-- The line that tells how an action is used. -/
def usageLine (action : Action) : String :=
  line ("Usage: " ++ action.keyword ++ " " ++ action.arguments)

/-- How a visit after the first is shown. -/
def describeVisit (visit : Visit) : String :=
  "-" ++ visit.symbol.getD "None" ++ "-> " ++ visit.state

/-- A path as its states with the symbols between them. -/
def describePath : List Visit → String
  | [] => ""
  | first :: rest => " ".intercalate (first.state :: rest.map describeVisit)

/-- The answer to a word: the decision, the path if there is one, and the error. -/
def describeResult (word : String) (accepted : Bool) (path : List Visit)
    (error : Option String) : String :=
  let shown := if word = "" then "ε" else word
  let decision := if accepted then "ACCEPTED" else "REJECTED"
  "\n".intercalate
    ([shown ++ ": " ++ decision] ++
      (if path.isEmpty then [] else ["  Path: " ++ describePath path]) ++
      match error with
      | none | some "" => []
      | some reason => ["  Error: " ++ reason])

/-- The answer to a word that was tried. -/
def describeRecognition (recognition : Recognition) : String :=
  describeResult recognition.word recognition.accepted recognition.path recognition.error

/-- The verdict on a model, with a line for each finding. -/
def describeValidation (name : String) (validation : Validation) : String :=
  line (name ++ ": " ++ if validation.isValid then "valid" else "INVALID") ++
    String.join (validation.errors.map fun finding => line ("  error: " ++ finding.message)) ++
    String.join (validation.warnings.map fun finding => line ("  warning: " ++ finding.message))

/-- All that is told about an automaton, between blank lines. -/
def describeAutomaton (name : String) (automaton : Automaton) : String :=
  line "" ++ line (name ++ ":") ++
    line ("  States: " ++ Grammar.braced automaton.states.toList) ++
    line ("  Alphabet: " ++ Grammar.braced automaton.alphabet.toList) ++
    line ("  Start: " ++ automaton.initial.getD "None") ++
    line ("  Accepting: " ++ Grammar.braced automaton.finals.toList) ++
    line ("  Transitions: " ++ toString automaton.transitions.size) ++
    String.join (automaton.transitionList.map fun transition =>
      line ("    " ++ transition.source ++ " -" ++ transition.symbol ++ "-> " ++
        transition.target)) ++
    line ""

/-- The line about an automaton in a list. -/
def automatonLine (name : String) (automaton : Automaton) : String :=
  let states := automaton.states.size
  let transitions := automaton.transitions.size
  line s!"  {name}: {states} states, {transitions} transitions"

/-- The line about a grammar in a list. -/
def grammarLine (name : String) (grammar : Grammar) : String :=
  let nonTerminals := grammar.nonTerminals.size
  let productions := grammar.productionList.length
  line s!"  {name}: {nonTerminals} non-terminals, {productions} productions"

/-- A heading and a line for each entry, sorted by name; nothing if there are none. -/
def listing {β : Type} (heading : String) (entryLine : String → β → String)
    (table : Table String β) : String :=
  if table.isEmpty then ""
  else
    line heading ++
      String.join ((sortByName table.entries).map fun entry => entryLine entry.1 entry.2)

/-- The automata and the grammars with their sizes, or that there are none. -/
def describeCatalog (catalog : Catalog) : String :=
  if catalog.automata.isEmpty && catalog.grammars.isEmpty then line "Nothing loaded"
  else
    listing "Automata:" automatonLine catalog.automata ++
      listing "Grammars:" grammarLine catalog.grammars

/-- How many models of a kind there are, with their names; nothing if there are none. -/
def countNames {β : Type} (kind : String) (table : Table String β) : List String :=
  let count := table.size
  let names := ", ".intercalate table.keys
  if table.isEmpty then [] else [s!"{count} {kind}: {names}"]

/-- The line that reports what was loaded. -/
def loadedLine (catalog : Catalog) : String :=
  match countNames "automata" catalog.automata ++ countNames "grammars" catalog.grammars with
  | [] => line "No items loaded"
  | counts => line ("Loaded " ++ " and ".intercalate counts)

end RegularModels.Terminal
