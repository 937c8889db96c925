import RegularModels.Table

/-!
# Files and directories

A file holds its bytes, a directory the entries in it by name.  `putIn` puts an
entry some names below a directory, and `takeOut` takes one out.  A `Place` is an entry
together with the directories around it, so that one can go up from it as well as down.
-/

namespace RegularModels

/-- A file with its bytes, or a directory with the entries in it. -/
inductive FileEntry where
  | file (contents : ByteArray)
  | directory (entries : List (String × FileEntry))

/-- A place in a tree: the names from the root down. -/
abbrev Location := List String

namespace FileEntry

/-- The entries in a directory; there are none in a file. -/
def entries : FileEntry → List (String × FileEntry)
  | file _ => []
  | directory entries => entries

/-- The entry of a name in a directory. -/
def child? (entry : FileEntry) (name : String) : Option FileEntry :=
  Table.lookup name entry.entries

/--
Put an entry below a directory with the given entries, replacing what was there.
Every name but the last must be that of a directory, or nothing is changed.
-/
def putIn (entries : List (String × FileEntry)) :
    Location → FileEntry → List (String × FileEntry)
  | [], _ => entries
  | [name], entry => Table.write name entry entries
  | name :: next :: rest, entry =>
    match Table.lookup name entries with
    | some (.directory inner) =>
      Table.write name (.directory (putIn inner (next :: rest) entry)) entries
    | some (.file _) | none => entries

/-- Take an entry out from below a directory with the given entries, if it is there. -/
def takeOut (entries : List (String × FileEntry)) : Location → List (String × FileEntry)
  | [] => entries
  | [name] => entries.filter fun entry => entry.1 ≠ name
  | name :: next :: rest =>
    match Table.lookup name entries with
    | some (.directory inner) =>
      Table.write name (.directory (takeOut inner (next :: rest))) entries
    | some (.file _) | none => entries

end FileEntry

/-- An entry and the way to it. -/
structure Place where
  entry : FileEntry
  /-- The names that lead here, each with the directory that holds it, the last one first. -/
  around : List (String × FileEntry) := []

namespace Place

/-- The names from the root down. -/
def location (place : Place) : Location :=
  (place.around.map Prod.fst).reverse

/-- One directory up; the root stays where it is. -/
def up (place : Place) : Place :=
  match place.around with
  | [] => place
  | (_, directory) :: around => { entry := directory, around }

/-- Down to an entry of a given name. -/
def down (place : Place) (name : String) (entry : FileEntry) : Place :=
  { entry, around := (name, place.entry) :: place.around }

/-- Down some names, if there is an entry for each of them. -/
def descend? (place : Place) : Location → Option Place
  | [] => some place
  | name :: rest =>
    match place.entry.child? name with
    | some entry => (place.down name entry).descend? rest
    | none => none

/-- Going down and up again leads back. -/
@[simp]
theorem up_down (place : Place) (name : String) (entry : FileEntry) :
    (place.down name entry).up = place := rfl

/-- Going down adds the name to the location. -/
@[simp]
theorem location_down (place : Place) (name : String) (entry : FileEntry) :
    (place.down name entry).location = place.location ++ [name] := by
  simp [down, location]

end Place

end RegularModels
