import RegularModels.Text.Quoted

/-!
# Errors of files

Why a file could not be read or written, or a directory not be made, with the
name as it was given.
-/

namespace RegularModels

/-- What was wrong with a file. -/
inductive FileFault where
  /-- There is nothing of this name. -/
  | notFound
  /-- There already is something of this name. -/
  | alreadyExists
  /-- The name leads through something that is no directory. -/
  | notDirectory
  /-- The name belongs to a directory. -/
  | isDirectory
  /-- The name, or a component of it, is too long. -/
  | nameTooLong
  /-- The name holds the null character. -/
  | nullCharacter
  /-- The contents are no UTF-8 text. -/
  | notText
  /-- More directories are missing before a file than are made at once. -/
  | tooDeep
  /-- More directories are missing around a directory than are made at once. -/
  | tooNested
deriving DecidableEq, Repr

/-- What was wrong with the file of a given name. -/
structure FileError where
  fault : FileFault
  path : String
deriving DecidableEq, Repr

namespace FileFault

/-- The number and the wording of a fault that the operating system reports. -/
def system? : FileFault → Option (Nat × String)
  | notFound => some (2, "No such file or directory")
  | alreadyExists => some (17, "File exists")
  | notDirectory => some (20, "Not a directory")
  | isDirectory => some (21, "Is a directory")
  | nameTooLong => some (36, "File name too long")
  | nullCharacter | notText | tooDeep | tooNested => none

/-- The fault is one that the operating system reports. -/
def isSystem (fault : FileFault) : Bool :=
  fault.system?.isSome

end FileFault

/-- What is told about the error: the wording of the operating system, or that of the fault. -/
def FileError.message (error : FileError) : String :=
  match error.fault.system? with
  | some (number, text) =>
    let name := Text.quoted error.path
    s!"[Errno {number}] {text}: {name}"
  | none =>
    match error.fault with
    | .nullCharacter => "embedded null byte"
    | .tooDeep => "maximum recursion depth exceeded"
    | .tooNested => "maximum recursion depth exceeded while calling a Python object"
    | _ => "invalid text"

end RegularModels
