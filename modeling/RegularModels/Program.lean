import RegularModels.Log.Setup
import RegularModels.Options.CommandLine
import RegularModels.Terminal.Session

/-!
# The program

A whole run as a function: the command line is read, the log is set up, and the
terminal holds its session.  The answer tells what was printed, how the run ended
and what the files are afterwards.  The package that draws graphs is a parameter, and
so is the number of directories that can be made at once for the log.
-/

namespace RegularModels

/-- How a run ended. -/
inductive Ending where
  | finished
  /-- The command line only asked for an explanation. -/
  | explained
  /-- The command line was refused. -/
  | refused (error : OptionError)
  /-- The log could not be set up. -/
  | notSetUp (error : Log.SetupError)
  /-- The session was broken off. -/
  | brokenOff (failure : Failure)
deriving DecidableEq, Repr

/-- What a run leaves behind. -/
structure RunResult where
  output : String
  ending : Ending
  files : FileTree

/-- The exit code that a command line leads to without a session. -/
def Ending.exitCode? : Ending → Option Nat
  | explained => some 0
  | refused _ => some 2
  | finished | notSetUp _ | brokenOff _ => none

/-- What is printed about a refused command line. -/
def Ending.errorText : Ending → String
  | refused error => error.text
  | explained | finished | notSetUp _ | brokenOff _ => ""

/-- Hold a session with a log that is set up, and write what was announced to it. -/
def runSession (package : Dot.Package) (options : Options) (setup : Log.Setup)
    (files : FileTree) (inputs : List Terminal.Input) : RunResult :=
  let session : Terminal.Session :=
    { catalog := { strict := options.strict }, files }
  let transcript := session.start package options.file inputs
  { output := transcript.output
    ending :=
      match transcript.broken with
      | none => .finished
      | some failure => .brokenOff failure
    files := setup.write (transcript.events.map Event.entry) transcript.session.files }

/-- A run with a command line, an environment, files and inputs. -/
def runProgram (package : Dot.Package) (limit : Nat) (arguments : List String)
    (environment : Environment) (files : FileTree) (inputs : List Terminal.Input) :
    RunResult :=
  match Options.read environment arguments with
  | .help => { output := optionsHelp, ending := .explained, files }
  | .refuse error => { output := "", ending := .refused error, files }
  | .run options =>
    match Log.Setup.configure options.logLevel options.logDirectory true environment limit
        files with
    | .error error => { output := "", ending := .notSetUp error, files }
    | .ok (setup, opened) => runSession package options setup opened inputs

end RegularModels
