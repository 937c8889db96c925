import RegularModels.Dot.Identifier
import RegularModels.Dot.Package
import RegularModels.Files.Directories
import RegularModels.Order

/-!
# Texts of graphs

The text of a graph in the DOT language, with names written in a given way, and the
packages that produce such texts and call a given program for the images.
-/

namespace RegularModels.Dot

variable (quoting : Quoting)

/-- An attribute with its value. -/
def attributeText (pair : String × String) : String :=
  quoting.identifier pair.1 ++ "=" ++ quoting.identifier pair.2

/-- A list of attributes: the label first, then the others by name. -/
def attributesText (label : Option String) (attributes : Attributes) : String :=
  let labels := label.toList.map ("label", ·)
  match labels ++ sortByName attributes with
  | [] => ""
  | sorted => " [" ++ " ".intercalate (sorted.map (attributeText quoting)) ++ "]"

/-- A statement without the end of its line. -/
def Statement.text : Statement → String
  | node name label attributes =>
    quoting.identifier name ++ attributesText quoting label attributes
  | edge tail head label attributes =>
    quoting.endpoint tail ++ " -> " ++ quoting.endpoint head ++
      attributesText quoting label attributes

namespace Digraph

/-- The opening line; a graph without a name has none in it. -/
def headText (graph : Digraph) : String :=
  if graph.name = "" then "digraph \x7b"
  else "digraph " ++ quoting.identifier graph.name ++ " \x7b"

/-- The lines between the braces: attributes of the whole graph, then its statements. -/
def bodyTexts (graph : Digraph) : List String :=
  ["graph" ++ attributesText quoting none graph.graphAttributes,
    "node" ++ attributesText quoting none graph.nodeAttributes,
    "edge" ++ attributesText quoting none graph.edgeAttributes] ++
    graph.statements.map (Statement.text quoting)

/-- The text of a graph, one statement a line. -/
def text (graph : Digraph) : String :=
  graph.headText quoting ++ "\n" ++
    String.join ((graph.bodyTexts quoting).map fun line => "\t" ++ line ++ "\n") ++ "\x7d\n"

end Digraph

namespace Package

/--
The package on a machine with a program that makes images.  The text of a graph is saved,
with at most so many directories made at once as the limit says.  Then the program is
called with the files and the path, and leaves files with an image or fails.  When there is
an image, the text is removed.
-/
def calling (limit : Nat) (program : FileTree → String → Except RenderError FileTree) :
    Package where
  source := Digraph.text quoting
  render files path graph :=
    let attempt := files.save limit path (graph.text quoting)
    match attempt.error with
    | some error => ⟨.error (.file error), attempt.tree⟩
    | none =>
      match program attempt.tree path with
      | .error error => ⟨.error error, attempt.tree⟩
      | .ok imaged =>
        match imaged.removeFile path with
        | .error error => ⟨.error (.file error), imaged⟩
        | .ok cleaned => ⟨.ok (path ++ ".png"), cleaned⟩

/-- The package on a machine where the program is missing, which is told by a message. -/
def withoutProgram (limit : Nat) (message : String) : Package :=
  calling quoting limit fun _ _ => .error (.noProgram message)

/-- The package with a program that makes the same image of every graph. -/
def imaging (limit : Nat) (image : ByteArray) : Package :=
  calling quoting limit fun files path =>
    (files.writeBytes (path ++ ".png") image).mapError .file

end Package

end RegularModels.Dot
