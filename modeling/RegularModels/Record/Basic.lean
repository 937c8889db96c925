import RegularModels.Error
import RegularModels.Text.Digit

/-!
# Records

A record is a line `<code>:<name>:<payload>` that addresses one field of one
named model.  Codes one to five address the fields of an automaton, six to nine
those of a grammar.
-/

namespace RegularModels

/-- The fields of an automaton that a record can set. -/
inductive AutomatonField where
  | states
  | alphabet
  | initial
  | finals
  | transitions
deriving DecidableEq, Repr

/-- The fields of a grammar that a record can set. -/
inductive GrammarField where
  | nonTerminals
  | terminals
  | start
  | productions
deriving DecidableEq, Repr

/-- The field that a record addresses. -/
inductive RecordField where
  | automaton (field : AutomatonField)
  | grammar (field : GrammarField)
deriving DecidableEq, Repr

/-- The field with a given code. -/
def RecordField.ofCode? : Int → Option RecordField
  | 1 => some (.automaton .states)
  | 2 => some (.automaton .alphabet)
  | 3 => some (.automaton .initial)
  | 4 => some (.automaton .finals)
  | 5 => some (.automaton .transitions)
  | 6 => some (.grammar .nonTerminals)
  | 7 => some (.grammar .terminals)
  | 8 => some (.grammar .start)
  | 9 => some (.grammar .productions)
  | _ => none

/-- One line of a description: a field, the model it belongs to, and its contents. -/
structure Record where
  field : RecordField
  name : String
  payload : String
deriving DecidableEq, Repr

/--
Read a record: a code, a name and a content between two colons, of which the code must be
known.
-/
def Record.ofLine (line : String) : Except ModelError Record :=
  match Text.pieces ':' line with
  | [code, name, payload] =>
    match Text.integer? code with
    | none => .error (.malformedCode code line)
    | some number =>
      match RecordField.ofCode? number with
      | some field => .ok ⟨field, name, payload⟩
      | none => .error (.unknownCode number line)
  | _ => .error (.malformedLine line)

end RegularModels
