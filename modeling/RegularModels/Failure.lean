import RegularModels.Dot.Package
import RegularModels.Error

/-!
# Failures

Why a command or another step failed: an operation on a model was refused, or a line of
a description, a file could not be read, or a drawing not be rendered.  The terminal
reports failures, apart from faults of files that do not come from the operating system
and from errors of rendering that nobody expects.
-/

namespace RegularModels

/-- Why a step failed. -/
inductive Failure where
  /-- A model refused an operation. -/
  | model (error : ModelError)
  /-- A line of a description was refused. -/
  | line (failure : LineFailure)
  /-- A file could not be read. -/
  | file (error : FileError)
  /-- A drawing could not be rendered. -/
  | rendering (error : Dot.RenderError)
deriving DecidableEq, Repr

namespace Failure

/-- What is told about the failure. -/
def message : Failure → String
  | model error => error.message
  | line failure => failure.message
  | file error => error.message
  | rendering error => error.message

/-- The failure is one that the terminal reports; any other escapes from it. -/
def isReported : Failure → Bool
  | model _ | line _ => true
  | file error => error.fault.isSystem
  | rendering error => error.isReported

end Failure

end RegularModels
