import RegularModels.Dot.Graph
import RegularModels.Files.Tree

/-!
# The package that draws graphs

Graphs are turned into text and into images by a package of its own, and that package
calls a program.  Nothing is taken for granted about either of them: a `Package` is any
function from graphs to texts, together with any function that tells what comes of
rendering a graph.  An image may be made; the program may be missing or fail; and files
may be left behind in either case.
-/

namespace RegularModels.Dot

/-- Why a graph is not rendered. -/
inductive RenderError where
  /-- The program that makes images is not there. -/
  | noProgram (message : String)
  /-- A file could not be written, or a directory not be made. -/
  | file (error : FileError)
  /-- Another error that the operating system reports. -/
  | system (message : String)
  /-- Any other error, such as that of a program which does not end well. -/
  | other (message : String)
deriving DecidableEq, Repr

namespace RenderError

/-- What is told about the error. -/
def message : RenderError → String
  | noProgram message | system message | other message => message
  | file error => error.message

/-- The error says that the program is missing, or comes from the operating system. -/
def isReported : RenderError → Bool
  | noProgram _ | system _ => true
  | file error => error.fault.isSystem
  | other _ => false

end RenderError

/-- What comes of rendering a graph. -/
structure Rendering where
  /-- The path of the image, or the reason why there is none. -/
  result : Except RenderError String
  /-- All files afterwards. -/
  files : FileTree

/-- A package that draws graphs. -/
structure Package where
  /-- The text of a graph. -/
  source : Digraph → String
  /-- Save a graph under a path among files and have an image made of it. -/
  render : FileTree → String → Digraph → Rendering

end RegularModels.Dot
