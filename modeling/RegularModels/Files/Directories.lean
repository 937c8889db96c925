import RegularModels.Files.Tree

/-!
# Directories on the way

Making the directories that a path goes through.  `save` writes a file after
making the directories before its name, from the outermost inwards; what was made
before an error stays.  `makeNested` makes a directory and, if the one around it
is missing, first that one.  How many directories can be made at once depends on the
machine and is therefore a parameter, the limit; beyond it nothing is made.
-/

namespace RegularModels.FileTree

/-- What an attempt leaves behind, and the error that stopped it. -/
structure Attempt where
  tree : FileTree
  error : Option FileError

/-- The part of a path before its last slash, without further slashes at its end. -/
def directoryPart (path : String) : String :=
  let upToSlash := (path.toList.reverse.dropWhile (· ≠ '/'))
  let trimmed := upToSlash.dropWhile (· = '/')
  String.ofList (if trimmed.isEmpty then upToSlash else trimmed).reverse

/--
The beginnings of a path that end with a name, shortest first, of which some
characters have been read, the last one first.
-/
def beginningsAfter (before : List Char) : List Char → List String
  | [] => []
  | char :: rest =>
    let here := char :: before
    if char ≠ '/' ∧ rest.head?.getD '/' = '/' then
      String.ofList here.reverse :: beginningsAfter here rest
    else beginningsAfter here rest

/-- The beginnings of a path that end with a name, shortest first. -/
def beginnings (path : String) : List String :=
  beginningsAfter [] path.toList

/-- Make one directory, which may be there already. -/
def attemptDirectory (tree : FileTree) (path : String) : Attempt :=
  match tree.ensureDirectory path with
  | .ok made => ⟨made, none⟩
  | .error error => ⟨tree, some error⟩

/-- The last name of a path is a dot. -/
def endsWithDot (path : String) : Bool :=
  (names path).getLast? = some "."

/--
Make the first directory of a list.  If the next one, which is around it, is not
there, that one is made first; then nothing more is done for a path that ends with
a dot, and it does not matter that something else than a directory is in the way.
-/
def makeWithin (tree : FileTree) : List String → Attempt
  | [] => ⟨tree, none⟩
  | path :: around =>
    if around.head?.all tree.contains then tree.attemptDirectory path
    else
      let prepared := tree.makeWithin around
      match prepared.error with
      | none | some ⟨.alreadyExists, _⟩ =>
        if endsWithDot path then ⟨prepared.tree, none⟩ else prepared.tree.attemptDirectory path
      | some error => ⟨prepared.tree, some error⟩

/-- The number of directories of a list that are made before one is there. -/
def depth (tree : FileTree) : List String → Nat
  | [] => 0
  | _ :: around => if around.head?.all tree.contains then 1 else tree.depth around + 1

/-- Make the directories before the name of a file, at most so many as the limit says. -/
def prepare (tree : FileTree) (limit : Nat) (path : String) : Attempt :=
  let directories := (beginnings (directoryPart path)).reverse
  if tree.depth directories > limit then ⟨tree, some ⟨.tooDeep, path⟩⟩
  else tree.makeWithin directories

/-- Write a file after making the directories before its name. -/
def saveBytes (tree : FileTree) (limit : Nat) (path : String) (contents : ByteArray) :
    Attempt :=
  let prepared := tree.prepare limit path
  match prepared.error with
  | some error => ⟨prepared.tree, some error⟩
  | none =>
    match prepared.tree.writeBytes path contents with
    | .ok written => ⟨written, none⟩
    | .error error => ⟨prepared.tree, some error⟩

/-- Write the text of a file after making the directories before its name. -/
def save (tree : FileTree) (limit : Nat) (path text : String) : Attempt :=
  tree.saveBytes limit path text.toUTF8

/-- A tree of nothing but a current directory and the directories around it. -/
def ofCurrent (current : Location) : FileTree :=
  (List.range current.length).foldl
    (fun tree depth => tree.put (current.take (depth + 1)) (.directory [])) { current }

/-- A path without empty names and dots; a path without any name is a dot. -/
def normalPath (path : String) : String :=
  let slashes := path.toList.takeWhile (· = '/')
  let root := if slashes.length = 2 then "//" else if slashes.isEmpty then "" else "/"
  let body := "/".intercalate ((names path).filter (· ≠ "."))
  if root = "" && body = "" then "." else root ++ body

/--
Make the first directory of a list, and if need be the next one before it, as long as
the limit allows.
-/
def makeInnermost (tree : FileTree) (limit : Nat) : List String → Except FileError FileTree
  | [] => .ok tree
  | path :: around =>
    match limit with
    | 0 => .error ⟨.tooNested, path⟩
    | limit + 1 =>
      match tree.makeDirectory path with
      | .ok made => .ok made
      | .error error =>
        if error.fault = .notFound && !around.isEmpty then
          match tree.makeInnermost limit around with
          | .ok prepared => prepared.ensureDirectory path
          | .error outer => .error outer
        else if error.fault.isSystem && tree.isDirectory path then .ok tree
        else .error error

/--
Make a directory with those around it, at most so many as the limit says; it is no error
that it is there already.
-/
def makeNested (tree : FileTree) (limit : Nat) (path : String) : Except FileError FileTree :=
  tree.makeInnermost limit (beginnings (normalPath path)).reverse

end RegularModels.FileTree
