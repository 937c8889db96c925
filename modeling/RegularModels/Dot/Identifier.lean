import RegularModels.Text.Split

/-!
# DOT identifiers

How names are written is up to the package that draws graphs, and is taken from it as
a `Quoting`.  It documents that a name which already is an identifier of the DOT
language stays as it is: a text between angle brackets, a word that is no keyword,
or a numeral.  Every other name stands between double quotes, where a quote is
escaped by a backslash unless an odd number of backslashes stands before it.  At the
end of an edge, a colon in a name separates the node from a port.

A single line break at the very end does not count when a name is tested.
-/

namespace RegularModels.Dot

/-- The characters without one line feed at the end. -/
def withoutFinalBreak (chars : List Char) : List Char :=
  if chars.getLast? = some '\n' then chars.dropLast else chars

/-- The text stands between angle brackets. -/
def isBracketed (chars : List Char) : Bool :=
  let core := withoutFinalBreak chars
  2 ≤ core.length && core.head? == some '<' && core.getLast? == some '>'

/-- The ASCII letters and the underscore. -/
def isWordStart (char : Char) : Bool :=
  char.isAlpha || char == '_'

/-- The ASCII letters, digits and the underscore. -/
def isWordChar (char : Char) : Bool :=
  char.isAlphanum || char == '_'

/-- A word: letters, digits and underscores, not starting with a digit. -/
def isWord : List Char → Bool
  | [] => false
  | first :: rest => isWordStart first && rest.all isWordChar

/-- Digits with at most one point among or around them, and at least one digit. -/
def isUnsignedNumeral (chars : List Char) : Bool :=
  match Text.splitWhere ('.' == ·) chars with
  | [whole] => !whole.isEmpty && whole.all Char.isDigit
  | [whole, fraction] =>
    !(whole.isEmpty && fraction.isEmpty) && whole.all Char.isDigit && fraction.all Char.isDigit
  | _ => false

/-- A numeral: digits with at most one point, and possibly a minus sign. -/
def isNumeral : List Char → Bool
  | '-' :: chars => isUnsignedNumeral chars
  | chars => isUnsignedNumeral chars

/-- The keywords of the language, in any case. -/
def keywords : List String :=
  ["node", "edge", "graph", "digraph", "subgraph", "strict"]

/-- The name is a keyword, whatever the case of its letters. -/
def isKeyword (chars : List Char) : Bool :=
  String.ofList (chars.map Char.toLower) ∈ keywords

/-- The name can be written without quotes. -/
def isPlain (chars : List Char) : Bool :=
  isBracketed chars ||
    ((isWord (withoutFinalBreak chars) || isNumeral (withoutFinalBreak chars)) &&
      !isKeyword chars)

/--
Escape the quotes of a text; `escaped` tells that an odd number of backslashes
stands directly before it.
-/
def escapeQuotes : Bool → List Char → List Char
  | _, [] => []
  | escaped, char :: rest =>
    if char = '"' then
      (if escaped then ['"'] else ['\\', '"']) ++ escapeQuotes false rest
    else char :: escapeQuotes (char == '\\' && !escaped) rest

/-- A text between quotes, with the quotes in it escaped. -/
def quoted (name : String) : String :=
  String.ofList ('"' :: escapeQuotes false name.toList ++ ['"'])

/-- The parts of a text before and behind its first colon. -/
def cutAtColon (chars : List Char) : List Char × List Char :=
  (chars.takeWhile (· ≠ ':'), (chars.dropWhile (· ≠ ':')).drop 1)

/-! ## Ways of writing names -/

/-- How names are written in the text of a graph. -/
structure Quoting where
  /-- The name of a node, or another name or value. -/
  identifier : String → String
  /-- The name of a node at the end of an edge. -/
  endpoint : String → String

namespace Quoting

/-- What the package that draws graphs documents about the names of nodes. -/
structure Documented (quoting : Quoting) : Prop where
  /-- A name that needs no quotes is passed on as it is. -/
  plain : ∀ {name}, isPlain name.toList = true → quoting.identifier name = name
  /-- Every other name is quoted, with the quotes in it escaped. -/
  quoted : ∀ {name}, isPlain name.toList = false → quoting.identifier name = Dot.quoted name
  /-- A name without a colon names a node without a port. -/
  whole : ∀ {name}, ':' ∉ name.toList → quoting.endpoint name = quoting.identifier name

/-- The name as it is if it needs no quotes, or else between quotes. -/
def plainOrQuoted (name : String) : String :=
  if isPlain name.toList then name else Dot.quoted name

/--
The parts of a name between colons: the node, the port, and the compass point, which is
written as it is.
-/
def atColons (name : String) : String :=
  let (node, rest) := cutAtColon name.toList
  let (port, compass) := cutAtColon rest
  ":".intercalate
    (plainOrQuoted (String.ofList node) ::
      ((if rest.isEmpty then [] else [plainOrQuoted (String.ofList port)]) ++
        if compass.isEmpty then [] else [String.ofList compass]))

/-- A way of writing names that is as documented. -/
def standard : Quoting where
  identifier := plainOrQuoted
  endpoint := atColons

end Quoting

end RegularModels.Dot
