import RegularModels.Automaton.Basic
import RegularModels.Grammar.Basic
import RegularModels.Order
import RegularModels.Record.Basic
import RegularModels.Text.Lines

/-!
# Catalogs

A catalog holds automata and grammars by name, in the order in which they were
created.  Reading a description applies its records line by line; a model is
created when its name first occurs, and filled in the order of the lines.  The
first line that is refused ends the reading and empties the catalog.
-/

namespace RegularModels

open Text (trim)

/-- Named automata and grammars. -/
structure Catalog where
  /-- Automata that are created are strict. -/
  strict : Bool := false
  automata : Table String Automaton := ∅
  grammars : Table String Grammar := ∅
deriving DecidableEq, Inhabited

/-- Set one field of an automaton. -/
def Automaton.setField (automaton : Automaton) (field : AutomatonField) (payload : String) :
    Outcome Automaton :=
  match field with
  | .states => .done (automaton.setStates (Text.pieces ',' payload))
  | .alphabet => .done (automaton.setAlphabet (Text.pieces ',' payload))
  | .initial => automaton.setInitial payload
  | .finals => automaton.setFinals (Text.pieces ',' payload)
  | .transitions => automaton.addTransitions payload

/-- Set one field of a grammar. -/
def Grammar.setField (grammar : Grammar) (field : GrammarField) (payload : String) :
    Outcome Grammar :=
  match field with
  | .nonTerminals => .done (grammar.setNonTerminals (Text.pieces ',' payload))
  | .terminals => .done (grammar.setTerminals (Text.pieces ',' payload))
  | .start => grammar.setStart payload
  | .productions => grammar.addProductions payload

/-- What became of the lines of a description. -/
structure Reading where
  catalog : Catalog
  /-- What was announced, in order. -/
  events : List Event
  /-- The line that was refused, if one was. -/
  failure : Option LineFailure
deriving DecidableEq

namespace Catalog

/-- Forget all models; the strictness stays. -/
def clear (catalog : Catalog) : Catalog :=
  { strict := catalog.strict }

/-- The automaton of a name, or a new one. -/
def automaton (catalog : Catalog) (name : String) : Automaton :=
  (catalog.automata.get? name).getD { name, strict := catalog.strict }

/-- The grammar of a name, or a new one. -/
def grammar (catalog : Catalog) (name : String) : Grammar :=
  (catalog.grammars.get? name).getD { name }

/-- Put an automaton under a name. -/
def putAutomaton (catalog : Catalog) (name : String) (automaton : Automaton) : Catalog :=
  { catalog with automata := catalog.automata.insert name automaton }

/-- Put a grammar under a name. -/
def putGrammar (catalog : Catalog) (name : String) (grammar : Grammar) : Catalog :=
  { catalog with grammars := catalog.grammars.insert name grammar }

/-- Apply a record to the model that it names. -/
def applyRecord (catalog : Catalog) (record : Record) : Outcome Catalog :=
  match record.field with
  | .automaton field =>
    ((catalog.automaton record.name).setField field record.payload).map
      (catalog.putAutomaton record.name)
  | .grammar field =>
    ((catalog.grammar record.name).setField field record.payload).map
      (catalog.putGrammar record.name)

/-- Apply a line, which must be a record. -/
def applyLine (catalog : Catalog) (line : String) : Outcome Catalog :=
  match Record.ofLine line with
  | .ok record => catalog.applyRecord record
  | .error cause => .refuse catalog cause

/-- The lines of a description that are not blank. -/
def contentLines (content : String) : List String :=
  (Text.lines content).filter fun line => ¬Text.IsBlankText line

/--
Apply lines, the first of which has the given number, up to the first that is
refused; what that line changed before it was refused stays changed.
-/
def applyLines (catalog : Catalog) (number : Nat) : List String → Reading
  | [] => ⟨catalog, [], none⟩
  | line :: rest =>
    let outcome := catalog.applyLine (trim line)
    match outcome.error with
    | some cause => ⟨outcome.model, outcome.events, some ⟨number, line, cause⟩⟩
    | none =>
      let later := outcome.model.applyLines (number + 1) rest
      { later with events := outcome.events ++ later.events }

/-- The announcement that so many lines were read. -/
def readEvent (catalog : Catalog) (count : Nat) : Event :=
  .recordsParsed count (sortNames catalog.automata.keys) (sortNames catalog.grammars.keys)

/-- Read a description into a catalog; a refused line empties it. -/
def read (catalog : Catalog) (content : String) : Reading :=
  let lines := contentLines content
  let reading := catalog.applyLines 1 lines
  match reading.failure with
  | some failure =>
    ⟨catalog.clear, reading.events ++ [.recordParseFailed failure], some failure⟩
  | none =>
    { reading with events := reading.events ++ [reading.catalog.readEvent lines.length] }

/-- Read a description in place of everything that the catalog holds. -/
def reload (catalog : Catalog) (content : String) : Reading :=
  catalog.clear.read content

end Catalog

end RegularModels
