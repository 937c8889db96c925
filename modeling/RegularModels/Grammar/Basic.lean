import RegularModels.NameSet
import RegularModels.Outcome
import RegularModels.Text.Split

/-!
# Regular grammars

A right-linear grammar over named non-terminals and terminals.  Productions are
kept as the texts of their right-hand sides, in the order in which they were
added; whether a right-hand side is regular is a matter of reading it against the
declared sets (`Grammar.classify`) and not of adding it.
-/

namespace RegularModels

open Text (trim)

/-- A right-linear grammar. -/
structure Grammar where
  name : String
  nonTerminals : NameSet := ∅
  terminals : NameSet := ∅
  start : Option String := none
  /-- The right-hand sides of each non-terminal, in order of addition. -/
  productions : Table String (List String) := ∅
deriving DecidableEq, Inhabited

/-- A left-hand side and a right-hand side. -/
structure Production where
  lhs : String
  rhs : String
deriving DecidableEq, Repr

/-- Read a production written as two sides around one arrow. -/
def Production.ofText? (piece : String) : Option Production :=
  match Text.splitAtText "->" piece with
  | [lhs, rhs] => some ⟨trim lhs, trim rhs⟩
  | _ => none

namespace Grammar

/-- The right-hand side that stands for the empty word. -/
def epsilon : String := "ε"

/-! ## Changes -/

/--
Declare the non-terminals anew, without blanks around them; productions and start symbol are
kept as they are.
-/
def setNonTerminals (grammar : Grammar) (symbols : List String) : Grammar :=
  { grammar with nonTerminals := .ofList (symbols.map trim) }

/-- Declare the terminals anew, without blanks around them; productions are kept as they are. -/
def setTerminals (grammar : Grammar) (symbols : List String) : Grammar :=
  { grammar with terminals := .ofList (symbols.map trim) }

/-- Choose the start symbol among the non-terminals. -/
def setStart (grammar : Grammar) (symbol : String) : Outcome Grammar :=
  if trim symbol ∈ grammar.nonTerminals then
    .done { grammar with start := some (trim symbol) }
  else .refuse grammar (.unknownStartSymbol (trim symbol))

/-- The right-hand sides of a non-terminal, in order of addition. -/
def rhsList (grammar : Grammar) (lhs : String) : List String :=
  (grammar.productions.get? lhs).getD []

/-- Write a production behind the others of its left-hand side. -/
def append (grammar : Grammar) (production : Production) : Grammar :=
  { grammar with
    productions := grammar.productions.insert production.lhs
      (grammar.rhsList production.lhs ++ [production.rhs]) }

/-- Add a production whose sides are trimmed. -/
def insertProduction (grammar : Grammar) (production : Production) : Outcome Grammar :=
  if production.lhs ∈ grammar.nonTerminals then .done (grammar.append production)
  else .refuse grammar (.unknownNonTerminal production.lhs)

/-- Add a production of a declared non-terminal, without the blanks around its sides. -/
def addProduction (grammar : Grammar) (lhs rhs : String) : Outcome Grammar :=
  grammar.insertProduction ⟨trim lhs, trim rhs⟩

/-- Add the production written in one piece of a list. -/
def addPiece (grammar : Grammar) (piece : String) : Outcome Grammar :=
  match Production.ofText? piece with
  | some production => grammar.insertProduction production
  | none => .refuse grammar (.malformedProduction (trim piece))

/--
Add the productions of a list: pieces between semicolons, each with two sides
around an arrow.  The first piece that is malformed or refused stops the list, and
the pieces before it stay added.
-/
def addProductions (grammar : Grammar) (text : String) : Outcome Grammar :=
  .each addPiece grammar (Text.splitAtChar ';' text)

/-- All productions: left-hand sides by first addition, each with its right-hand sides. -/
def productionList (grammar : Grammar) : List Production :=
  grammar.productions.entries.flatMap fun entry => entry.2.map fun rhs => ⟨entry.1, rhs⟩

/-- Everything that can be done to a grammar. -/
inductive Operation where
  | setNonTerminals (symbols : List String)
  | setTerminals (symbols : List String)
  | setStart (symbol : String)
  | addProduction (lhs rhs : String)
  | addProductions (text : String)
deriving DecidableEq, Repr

/-- Carry out an operation on a grammar. -/
def apply (grammar : Grammar) : Operation → Outcome Grammar
  | .setNonTerminals symbols => .done (grammar.setNonTerminals symbols)
  | .setTerminals symbols => .done (grammar.setTerminals symbols)
  | .setStart symbol => grammar.setStart symbol
  | .addProduction lhs rhs => grammar.addProduction lhs rhs
  | .addProductions text => grammar.addProductions text

end Grammar

end RegularModels
