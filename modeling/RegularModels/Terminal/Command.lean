import RegularModels.Text.Casing
import RegularModels.Text.Split

/-!
# Commands of the terminal

A line is cut into words.  The first word, in any case, names the command; the
second is its argument, the third an optional one, and further words are ignored.
-/

namespace RegularModels.Terminal

/-- The commands that need an argument. -/
inductive Action where
  | load
  | showAutomaton
  | showGrammar
  | test
  | validate
  | dot
  | graph
  | toGrammar
  | toAutomaton
  | delete
deriving DecidableEq, Repr

/-- The word that names an action. -/
def Action.keyword : Action → String
  | load => "load"
  | showAutomaton => "show"
  | showGrammar => "show_grammar"
  | test => "test"
  | validate => "validate"
  | dot => "dot"
  | graph => "graph"
  | toGrammar => "to_grammar"
  | toAutomaton => "to_automaton"
  | delete => "delete"

/-- The arguments of an action, as the usage line names them. -/
def Action.arguments : Action → String
  | load => "<filename>"
  | showAutomaton | showGrammar | validate | delete => "<name>"
  | test | dot | graph => "<name> [word]"
  | toGrammar | toAutomaton => "<name> [result]"

/-- The actions that are named by a word. -/
def Action.ofKeyword? : String → Option Action
  | "load" => some load
  | "show" => some showAutomaton
  | "show_grammar" => some showGrammar
  | "test" => some test
  | "validate" => some validate
  | "dot" => some dot
  | "graph" => some graph
  | "to_grammar" => some toGrammar
  | "to_automaton" => some toAutomaton
  | "delete" => some delete
  | _ => none

theorem Action.ofKeyword?_keyword (action : Action) :
    ofKeyword? action.keyword = some action := by
  cases action <;> rfl

/-- What a line asks for. -/
inductive Command where
  | blank
  | exit
  | help
  | list
  | clear
  /-- An action without its argument. -/
  | incomplete (action : Action)
  /-- An action with its argument, and a second one if it is given. -/
  | perform (action : Action) (name : String) (extra : Option String)
  /-- A word that names no command, in lower case. -/
  | unknown (word : String)
deriving DecidableEq, Repr

/-- The command named by a word in lower case, with its arguments. -/
def Command.ofWords (word : String) (arguments : List String) : Command :=
  match Action.ofKeyword? word with
  | some action =>
    match arguments with
    | [] => .incomplete action
    | name :: rest => .perform action name rest.head?
  | none =>
    match word with
    | "exit" | "quit" => .exit
    | "help" => .help
    | "list" => .list
    | "clear" => .clear
    | _ => .unknown word

/-- What a line asks for, by its first word in lower case. -/
def Command.ofLine (line : String) : Command :=
  match Text.words line with
  | [] => .blank
  | word :: arguments => .ofWords (Text.lower word) arguments

end RegularModels.Terminal
