/-!
# DOT graphs

A directed graph as a list of statements.  Statements are kept apart from their
text, so that what a drawing shows can be told without reading text.
-/

namespace RegularModels.Dot

/-- Names of attributes with their values, in the order in which they are given. -/
abbrev Attributes := List (String × String)

/-- A statement about one node or one edge. -/
inductive Statement where
  | node (name : String) (label : Option String) (attributes : Attributes)
  | edge (tail head : String) (label : Option String) (attributes : Attributes)
deriving DecidableEq, Repr

/-- A directed graph. -/
structure Digraph where
  name : String
  graphAttributes : Attributes
  nodeAttributes : Attributes
  edgeAttributes : Attributes
  statements : List Statement
deriving DecidableEq, Repr

end RegularModels.Dot
