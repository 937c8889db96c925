import RegularModels.Files.Entry
import RegularModels.Files.Error
import RegularModels.Text.Split

/-!
# Trees of files

Files and directories as a value.  A path is a list of names between slashes,
read from the root or from the current directory; `.` stays where it is and `..`
goes up.  Every name on the way must be that of a directory.

A name has at most 255 bytes, a path at most 4095.
-/

namespace RegularModels

/-- Files and directories. -/
structure FileTree where
  entries : List (String × FileEntry) := []
  /-- The directory from which relative paths are read. -/
  current : Location := []

namespace FileTree

/-- The longest name, in bytes. -/
def maxName : Nat := 255

/-- The longest path, in bytes. -/
def maxPath : Nat := 4095

/-- The root, which is a directory. -/
def root (tree : FileTree) : Place where
  entry := .directory tree.entries

/-- Put an entry at a place in a directory that exists. -/
def put (tree : FileTree) (location : Location) (entry : FileEntry) : FileTree :=
  { tree with entries := FileEntry.putIn tree.entries location entry }

/-- What a path leads to. -/
inductive Target where
  | present (location : Location) (entry : FileEntry)
  /-- A free place in a directory that exists. -/
  | free (location : Location)

/--
What a path leads to from a place, name by name.  Every name but the last must be that of
a directory; a last name that is not there yet leads to a free place.
-/
def follow (place : Place) : List String → Except FileFault Target
  | [] => .ok (.present place.location place.entry)
  | name :: rest =>
    match place.entry with
    | .file _ => .error .notDirectory
    | .directory entries =>
      if name = "." then follow place rest
      else if name = ".." then follow place.up rest
      else if name.utf8ByteSize > maxName then .error .nameTooLong
      else
        match Table.lookup name entries with
        | some entry => follow (place.down name entry) rest
        | none =>
          if rest.isEmpty then .ok (.free (place.location ++ [name])) else .error .notFound

/-- The names in a path, which stand between its slashes. -/
def names (path : String) : List String :=
  (Text.splitAtChar '/' path).filter (· ≠ "")

/-- The path ends with a slash and therefore names a directory. -/
def endsWithSlash (path : String) : Bool :=
  path.toList.getLast? = some '/'

/-- The place from which a path is read, which is missing if the current directory is. -/
def origin? (tree : FileTree) (path : String) : Option Place :=
  if path.toList.head? = some '/' then some tree.root else tree.root.descend? tree.current

/-- What a path leads to, whether or not it ends with a slash. -/
def resolve (tree : FileTree) (path : String) : Except FileFault Target :=
  if path.toList.contains '\x00' then .error .nullCharacter
  else if path = "" then .error .notFound
  else if path.utf8ByteSize > maxPath then .error .nameTooLong
  else
    match tree.origin? path with
    | some place => follow place (names path)
    | none => .error .notFound

/-- What stands under a path; only a directory is found under one that ends with a slash. -/
def find (tree : FileTree) (path : String) : Except FileFault FileEntry :=
  match tree.resolve path with
  | .ok (.present _ (.directory entries)) => .ok (.directory entries)
  | .ok (.present _ (.file contents)) =>
    if endsWithSlash path then .error .notDirectory else .ok (.file contents)
  | .ok (.free _) => .error .notFound
  | .error fault => .error fault

/-- There is something under a path. -/
def contains (tree : FileTree) (path : String) : Bool :=
  match tree.find path with
  | .ok _ => true
  | .error _ => false

/-- There is a directory under a path. -/
def isDirectory (tree : FileTree) (path : String) : Bool :=
  match tree.find path with
  | .ok (.directory _) => true
  | .ok (.file _) | .error _ => false

/-- The bytes of a file. -/
def readBytes (tree : FileTree) (path : String) : Except FileError ByteArray :=
  match tree.find path with
  | .ok (.file contents) => .ok contents
  | .ok (.directory _) => .error ⟨.isDirectory, path⟩
  | .error fault => .error ⟨fault, path⟩

/-- The text of a file, which must be UTF-8. -/
def readText (tree : FileTree) (path : String) : Except FileError String :=
  match tree.readBytes path with
  | .error error => .error error
  | .ok contents =>
    match String.fromUTF8? contents with
    | some text => .ok text
    | none => .error ⟨.notText, path⟩

/-- Write a file, replacing what it held. -/
def writeBytes (tree : FileTree) (path : String) (contents : ByteArray) :
    Except FileError FileTree :=
  match tree.resolve path with
  | .ok (.present _ (.directory _)) => .error ⟨.isDirectory, path⟩
  | .ok (.present location (.file _)) | .ok (.free location) =>
    if endsWithSlash path then .error ⟨.isDirectory, path⟩
    else .ok (tree.put location (.file contents))
  | .error fault => .error ⟨fault, path⟩

/-- Write the text of a file. -/
def writeText (tree : FileTree) (path text : String) : Except FileError FileTree :=
  tree.writeBytes path text.toUTF8

/-- Add a text to the end of a file, which is created if it is missing. -/
def appendText (tree : FileTree) (path text : String) : Except FileError FileTree :=
  match tree.readBytes path with
  | .ok contents => tree.writeBytes path (contents ++ text.toUTF8)
  | .error ⟨.notFound, _⟩ => tree.writeText path text
  | .error error => .error error

/-- Remove a file. -/
def removeFile (tree : FileTree) (path : String) : Except FileError FileTree :=
  match tree.resolve path with
  | .ok (.present _ (.directory _)) => .error ⟨.isDirectory, path⟩
  | .ok (.present location (.file _)) =>
    if endsWithSlash path then .error ⟨.notDirectory, path⟩
    else .ok { tree with entries := FileEntry.takeOut tree.entries location }
  | .ok (.free _) => .error ⟨.notFound, path⟩
  | .error fault => .error ⟨fault, path⟩

/-- Make one directory, of whose name there must be nothing yet. -/
def makeDirectory (tree : FileTree) (path : String) : Except FileError FileTree :=
  match tree.resolve path with
  | .ok (.present _ _) => .error ⟨.alreadyExists, path⟩
  | .ok (.free location) => .ok (tree.put location (.directory []))
  | .error fault => .error ⟨fault, path⟩

/-- Make one directory; it is no error that it is there already. -/
def ensureDirectory (tree : FileTree) (path : String) : Except FileError FileTree :=
  match tree.makeDirectory path with
  | .ok made => .ok made
  | .error error =>
    if error.fault.isSystem && tree.isDirectory path then .ok tree else .error error

end FileTree

end RegularModels
