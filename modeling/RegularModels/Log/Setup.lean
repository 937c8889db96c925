import RegularModels.Files.Directories
import RegularModels.Log.Entry
import RegularModels.Options.Basic

/-!
# Setting up the log

The threshold and the listeners of a run.  The level and the directory are those
that are given; what is not given comes from the environment.  An option that is
there with no value is given: no level is an error, no directory means no log file.
With a directory, entries are written to a file in it, one line each; the file is
created at once and existing lines are kept.
-/

namespace RegularModels.Log

/-- How a run logs. -/
structure Setup where
  /-- The least rank that passes. -/
  threshold : Nat
  file : Option String
  /-- Entries are shown on the console. -/
  console : Bool
deriving DecidableEq, Repr

/-- Why a log cannot be set up. -/
inductive SetupError where
  | level (error : UnknownLevel)
  /-- The option of the level is there, but no level is given. -/
  | noLevel
  | file (error : FileError)
deriving DecidableEq, Repr

/-- What is told when the log cannot be set up. -/
def SetupError.message : SetupError → String
  | level error => error.message
  | noLevel => "'list' object has no attribute 'upper'"
  | file error => error.message

/-- Who listens to the log. -/
inductive Listener where
  | file
  | console
deriving DecidableEq, Repr

/-- The name of the log file in its directory. -/
def fileName : String := "automata.log"

/-- The path of the log file in a directory. -/
def filePath (directory : String) : String :=
  let path := FileTree.normalPath directory
  if path = "." then fileName
  else if FileTree.endsWithSlash path then path ++ fileName
  else path ++ "/" ++ fileName

/-- Make the directory, with at most so many around it as the limit says, and the file in it. -/
def openFile (files : FileTree) (limit : Nat) (directory : String) :
    Except FileError FileTree :=
  match files.makeNested limit directory with
  | .error error => .error error
  | .ok made => made.appendText (filePath directory) ""

/-- The name of the level that is asked for. -/
def levelName (given : Option OptionValue) (environment : Environment) :
    Except SetupError String :=
  match given with
  | some (.text name) => .ok name
  | some .nothing => .error .noLevel
  | none => .ok (environment.logLevel.getD "WARNING")

/-- The directory that is asked for; an empty name asks for none. -/
def directoryName (given : Option OptionValue) (environment : Environment) : String :=
  match given with
  | some (.text name) => name
  | some .nothing => ""
  | none => environment.logDirectory.getD ""

/-- The threshold that is asked for. -/
def chosenThreshold (given : Option OptionValue) (environment : Environment) :
    Except SetupError Nat :=
  match levelName given environment with
  | .error error => .error error
  | .ok name => (threshold name).mapError .level

namespace Setup

/--
Set up a log with a level and a directory, as they are given on the command line, and
open its file; at most so many directories are made at once as the limit says.
-/
def configure (level directory : Option OptionValue) (console : Bool)
    (environment : Environment) (limit : Nat) (files : FileTree) :
    Except SetupError (Setup × FileTree) :=
  match chosenThreshold level environment with
  | .error error => .error error
  | .ok threshold =>
    match directoryName directory environment with
    | "" => .ok ({ threshold, file := none, console }, files)
    | name =>
      match openFile files limit name with
      | .error error => .error (.file error)
      | .ok opened => .ok ({ threshold, file := some (filePath name), console }, opened)

/-- The listeners with their own thresholds, in the order in which they are told. -/
def listeners (setup : Setup) : List (Listener × Nat) :=
  (if setup.file.isSome then [(.file, Level.debug.rank)] else []) ++
    if setup.console then [(.console, setup.threshold)] else []

/-- The entries that are important enough to be written. -/
def passing (setup : Setup) (entries : List Entry) : List Entry :=
  Log.passing setup.threshold entries

/-- The text that entries add to the log file. -/
def text (setup : Setup) (entries : List Entry) : String :=
  String.join ((setup.passing entries).map Entry.line)

/-- Write the entries that pass to the log file. -/
def write (setup : Setup) (entries : List Entry) (files : FileTree) : FileTree :=
  match setup.file with
  | none => files
  | some path =>
    match files.appendText path (setup.text entries) with
    | .ok written => written
    | .error _ => files

/-- Write entries to the log file unless one of them is refused. -/
def announce (setup : Setup) (entries : List Entry) (files : FileTree) :
    Except EntryError FileTree :=
  match entries.findSome? Entry.refusal? with
  | some error => .error error
  | none => .ok (setup.write entries files)

/-- The number of lines that entries take on the console, if there is one. -/
def consoleLines (setup : Setup) (entries : List Entry) : Option Nat :=
  if setup.console then
    some ((setup.passing entries).foldl (fun count entry => count + entry.consoleLines) 0)
  else none

end Setup

end RegularModels.Log
