import RegularModels.Text.Casing
import RegularModels.Text.Split

/-!
# Options of the program

What the program is told on its command line and through its environment, and the
texts that explain its usage.
-/

namespace RegularModels

/-- The name of the program in its messages. -/
def programName : String := "automata-rg"

/-- What is given for an option. -/
inductive OptionValue where
  | text (value : String)
  /-- Nothing, although the option is there. -/
  | nothing
deriving DecidableEq, Repr, Inhabited

/-- What is given by a text behind an equals sign: a lone double dash gives nothing. -/
def OptionValue.ofAttached (value : String) : OptionValue :=
  if value = "--" then nothing else text value

/-- The options of a run. -/
structure Options where
  /-- The file to load at the start. -/
  file : Option String := none
  logLevel : Option OptionValue := none
  logDirectory : Option OptionValue := none
  /-- Automata that are loaded refuse repeated transitions. -/
  strict : Bool := false
deriving DecidableEq, Repr, Inhabited

/-- The variables of the environment that the program reads. -/
structure Environment where
  strict : Option String := none
  logLevel : Option String := none
  logDirectory : Option String := none
deriving DecidableEq, Repr, Inhabited

/-- The values of a variable that switch something on. -/
def affirmatives : List String := ["1", "true", "yes", "on"]

/-- A variable switches something on when its value is affirmative, in any case. -/
def isAffirmative (value : Option String) : Bool :=
  decide (Text.lower (Text.trim (value.getD "")) ∈ affirmatives)

/-- The options of an environment before the command line is read. -/
def Options.initial (environment : Environment) : Options where
  strict := isAffirmative environment.strict

/-- The lines that show how the program is called. -/
def usageLines : List String :=
  ["usage: automata-rg [-h] [--log-level LOG_LEVEL] [--log-dir LOG_DIR] [--strict]",
    "                   [file]"]

/-- The lines that explain the options. -/
def helpLines : List String :=
  usageLines ++
    ["",
      "Interactive DFA / regular grammar terminal",
      "",
      "positional arguments:",
      "  file                  Record file to load at start",
      "",
      "options:",
      "  -h, --help            show this help message and exit",
      "  --log-level LOG_LEVEL",
      "                        DEBUG, INFO, WARNING or ERROR (default:",
      "                        $AUTOMATA_LOG_LEVEL or WARNING)",
      "  --log-dir LOG_DIR     Write JSON logs to this directory (default:",
      "                        $AUTOMATA_LOG_DIR)",
      "  --strict              Reject repeated (state, symbol) transitions instead of",
      "                        overwriting"]

/-- Lines as one text, each with its line feed. -/
def unlines (lines : List String) : String :=
  String.join (lines.map (· ++ "\n"))

/-- The text that explains the options. -/
def optionsHelp : String := unlines helpLines

end RegularModels
