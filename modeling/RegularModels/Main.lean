import RegularModels.Dot.Text
import RegularModels.Program

/-!
# The command-line program

Connects the program with the real world: the arguments and the environment, the
lines of standard input, and the files that a command names.  Before a command is
answered, the files on the path that it names are read into a tree; afterwards the
file that it saved is written.  No program that makes images is called: drawings are
saved as texts, and the program is told to be missing.
-/

namespace RegularModels.Main

open Terminal

/-- How many directories are made at once before a file. -/
def limitBefore : Nat := 987

/-- How many directories are made at once around a directory. -/
def limitAround : Nat := 990

/-- The package that draws graphs here. -/
def package : Dot.Package :=
  .withoutProgram .standard limitBefore
    ("failed to execute PosixPath('dot'), make sure the Graphviz executables are on your " ++
      "systems' PATH")

/-- The variables that the program reads. -/
def environment : IO Environment := do
  return {
    strict := ← IO.getEnv "AUTOMATA_STRICT"
    logLevel := ← IO.getEnv "AUTOMATA_LOG_LEVEL"
    logDirectory := ← IO.getEnv "AUTOMATA_LOG_DIR" }

/-- A tree that knows the current directory only. -/
def emptyTree : IO FileTree := do
  return .ofCurrent (FileTree.names (← IO.currentDir).toString)

/-- Take what stands under a path into a tree. -/
def observeOne (tree : FileTree) (path : String) : IO FileTree := do
  try
    if ← (← IO.FS.realPath path).isDir then
      return (tree.attemptDirectory path).tree
    return (tree.saveBytes limitBefore path (← IO.FS.readBinFile path)).tree
  catch _ => return tree

/-- A tree of everything on the way to a path. -/
def observe (path : String) : IO FileTree := do
  (FileTree.beginnings path).foldlM observeOne (← emptyTree)

/-- Write a file of a tree to where it belongs. -/
def store (tree : FileTree) (path : String) : IO Unit := do
  match tree.readBytes path with
  | .ok contents =>
    let directory := FileTree.directoryPart path
    if directory ≠ "" then IO.FS.createDirAll directory
    IO.FS.writeBinFile path contents
  | .error _ => return

/-- The path of the file that a command names. -/
def namedPath? : Command → Option String
  | .perform .load path _ | .perform .graph path _ => some path
  | _ => none

/-- The file that a command may have saved. -/
def savedPath? : Command → Option String
  | .perform .graph path _ => some path
  | _ => none

/-- Write entries to the log file and to the console. -/
def writeLog (setup : Log.Setup) (events : List Event) : IO Unit := do
  let text := setup.text (events.map Event.entry)
  if let some path := setup.file then
    IO.FS.withFile path .append fun file => file.putStr text
  if setup.console then
    (← IO.getStderr).putStr text

/-- Print a reply and log its events. -/
def present (setup : Log.Setup) (reply : Reply) : IO Unit := do
  let output ← IO.getStdout
  writeLog setup reply.events
  output.putStr reply.output
  output.flush

/-- Answer lines until the session ends; the result is the exit code. -/
partial def converse (setup : Log.Setup) (session : Session) : IO UInt32 := do
  let output ← IO.getStdout
  output.putStr prompt
  output.flush
  let line ← (← IO.getStdin).getLine
  if line.isEmpty then
    output.putStr farewell
    return 0
  let command := Command.ofLine line
  let files ← match namedPath? command with
    | some path => observe path
    | none => pure session.files
  let reply := { session with files }.respond package command
  if let some path := savedPath? command then
    store reply.session.files path
  present setup reply
  match reply.next with
  | .goOn => converse setup reply.session
  | .leave =>
    output.putStr farewell
    return 0
  | .breakOff failure =>
    (← IO.getStderr).putStrLn failure.message
    return 1

/-- Greet, load the start file if one is named, and answer lines. -/
def hold (options : Options) (setup : Log.Setup) : IO UInt32 := do
  (← IO.getStdout).putStr banner
  let path := options.file.getD ""
  let session : Session :=
    { catalog := { strict := options.strict }, files := ← observe path }
  if path = "" then converse setup session
  else
    let reply := session.load path
    present setup reply
    match reply.next with
    | .breakOff failure =>
      (← IO.getStderr).putStrLn failure.message
      return 1
    | .goOn | .leave => converse setup reply.session

/-- Set up the log and hold a session. -/
def run (options : Options) : IO UInt32 := do
  let surroundings ← environment
  let directory := Log.directoryName options.logDirectory surroundings
  match Log.Setup.configure options.logLevel options.logDirectory true surroundings
      limitAround (← observe directory) with
  | .error error =>
    (← IO.getStderr).putStrLn error.message
    return 1
  | .ok (setup, _) =>
    if setup.file.isSome then
      IO.FS.createDirAll directory
    hold options setup

end RegularModels.Main

open RegularModels in
/-- Run the program with its arguments; the result is the exit code. -/
def main (arguments : List String) : IO UInt32 := do
  match Options.read (← Main.environment) arguments with
  | .help =>
    (← IO.getStdout).putStr optionsHelp
    return 0
  | .refuse error =>
    (← IO.getStderr).putStr error.text
    return 2
  | .run options => Main.run options
