import RegularModels.Automaton.Diagram
import RegularModels.Automaton.Inspect
import RegularModels.Automaton.Machine
import RegularModels.Conversion.OfAutomaton
import RegularModels.Conversion.OfGrammar
import RegularModels.Failure
import RegularModels.Grammar.Inspect
import RegularModels.Record.Catalog

/-!
# Workspaces

A workspace keeps models under names, its registers, in such a way that several
registers and readers can share one model: a change through one of them is seen
through all.  A reader reads records into models of its own; a register may hold
one of them, and keeps it when the reader forgets it.
-/

namespace RegularModels

/-- A reader of records: the places of its models by name. -/
structure Reader where
  strict : Bool
  automata : Table String Nat := ∅
  grammars : Table String Nat := ∅
deriving Inhabited

/-- What a register holds: the place of a machine, a grammar or a reader. -/
inductive Handle where
  | machine (place : Nat)
  | grammar (place : Nat)
  | reader (place : Nat)
deriving DecidableEq, Repr

/-- Models, readers and the registers that refer to them, with the files around. -/
structure Workspace where
  machines : Array Machine := #[]
  grammars : Array Grammar := #[]
  readers : Array Reader := #[]
  registers : Table String Handle := ∅
  files : FileTree := {}

/-- What a change of a workspace leaves behind. -/
structure Changed where
  workspace : Workspace
  events : List Event := []
  failure : Option Failure := none

namespace Workspace

/-! ## Registers -/

/-- Let a register refer to something. -/
def bind (workspace : Workspace) (register : String) (handle : Handle) : Workspace :=
  { workspace with registers := workspace.registers.insert register handle }

/-- Let a register refer to something, if a register is named. -/
def bind? (workspace : Workspace) (register : Option String) (handle : Handle) : Workspace :=
  match register with
  | some register => workspace.bind register handle
  | none => workspace

/-- Put a machine at a new place. -/
def addMachine (workspace : Workspace) (machine : Machine) : Workspace × Nat :=
  ({ workspace with machines := workspace.machines.push machine }, workspace.machines.size)

/-- Put a grammar at a new place. -/
def addGrammar (workspace : Workspace) (grammar : Grammar) : Workspace × Nat :=
  ({ workspace with grammars := workspace.grammars.push grammar }, workspace.grammars.size)

/-- Put a reader at a new place. -/
def addReader (workspace : Workspace) (reader : Reader) : Workspace × Nat :=
  ({ workspace with readers := workspace.readers.push reader }, workspace.readers.size)

/-- Keep a machine in a register, if one is named. -/
def keepMachine (workspace : Workspace) (register : Option String) (machine : Machine) :
    Workspace :=
  let (next, place) := workspace.addMachine machine
  next.bind? register (.machine place)

/-- Keep a grammar in a register, if one is named. -/
def keepGrammar (workspace : Workspace) (register : Option String) (grammar : Grammar) :
    Workspace :=
  let (next, place) := workspace.addGrammar grammar
  next.bind? register (.grammar place)

/-- Keep a reader in a register, if one is named. -/
def keepReader (workspace : Workspace) (register : Option String) (reader : Reader) :
    Workspace :=
  let (next, place) := workspace.addReader reader
  next.bind? register (.reader place)

/-- Put a machine in place of another; nothing changes if there is no such place. -/
def setMachine (workspace : Workspace) (place : Nat) (machine : Machine) : Workspace :=
  { workspace with machines := workspace.machines.setIfInBounds place machine }

/-- Put a grammar in place of another; nothing changes if there is no such place. -/
def setGrammar (workspace : Workspace) (place : Nat) (grammar : Grammar) : Workspace :=
  { workspace with grammars := workspace.grammars.setIfInBounds place grammar }

/-- Put a reader in place of another; nothing changes if there is no such place. -/
def setReader (workspace : Workspace) (place : Nat) (reader : Reader) : Workspace :=
  { workspace with readers := workspace.readers.setIfInBounds place reader }

/-- The machine at a place, which is an empty one if there is no such place. -/
def machine (workspace : Workspace) (place : Nat) : Machine :=
  workspace.machines.getD place default

/-- The grammar at a place, which is an empty one if there is no such place. -/
def grammar (workspace : Workspace) (place : Nat) : Grammar :=
  workspace.grammars.getD place default

/-- The reader at a place, which is an empty one if there is no such place. -/
def reader (workspace : Workspace) (place : Nat) : Reader :=
  workspace.readers.getD place default

/--
Two handles refer to equal things: automata and grammars are compared by what
they are, readers by which they are.
-/
def same (workspace : Workspace) : Handle → Handle → Bool
  | .machine left, .machine right =>
    decide ((workspace.machine left).automaton.Same (workspace.machine right).automaton)
  | .grammar left, .grammar right =>
    decide ((workspace.grammar left).Same (workspace.grammar right))
  | .reader left, .reader right => left == right
  | _, _ => false

/-! ## Changing models -/

/-- The failure of a change of a model. -/
def modelFailure (error : Option ModelError) : Option Failure :=
  error.map .model

/-- Carry out an operation on a machine. -/
def applyMachine (workspace : Workspace) (place : Nat) (operation : Machine.Operation) :
    Changed :=
  let outcome := (workspace.machine place).apply operation
  { workspace := workspace.setMachine place outcome.model
    events := outcome.events
    failure := modelFailure outcome.error }

/-- Let a machine consume one symbol. -/
def process (workspace : Workspace) (place : Nat) (symbol : String) : Workspace × Progress :=
  let (machine, progress) := (workspace.machine place).process symbol
  (workspace.setMachine place machine, progress)

/-- Let a machine try a word. -/
def recognize (workspace : Workspace) (place : Nat) (word : String) :
    Workspace × Recognition × List Event :=
  let (machine, recognition) := (workspace.machine place).recognize word
  (workspace.setMachine place machine, recognition,
    machine.automaton.recognitionEvents recognition)

/-- Carry out an operation on a grammar. -/
def applyGrammar (workspace : Workspace) (place : Nat) (operation : Grammar.Operation) :
    Changed :=
  let outcome := (workspace.grammar place).apply operation
  { workspace := workspace.setGrammar place outcome.model
    events := outcome.events
    failure := modelFailure outcome.error }

/-! ## Readers -/

/-- The models of a reader as they stand at their places, by name. -/
def catalog (workspace : Workspace) (reader : Reader) : Catalog where
  strict := reader.strict
  automata := reader.automata.mapValues fun _ place => (workspace.machine place).automaton
  grammars := reader.grammars.mapValues fun _ place => workspace.grammar place

/-- Put an automaton where a reader has its name, or at a new place. -/
def settleAutomaton (known : Table String Nat) (state : Workspace × Table String Nat)
    (entry : String × Automaton) : Workspace × Table String Nat :=
  match known.get? entry.1 with
  | some place =>
    let machine := { state.1.machine place with automaton := entry.2 }
    (state.1.setMachine place machine, state.2.insert entry.1 place)
  | none =>
    let (next, place) := state.1.addMachine { automaton := entry.2 }
    (next, state.2.insert entry.1 place)

/-- Put a grammar where a reader has its name, or at a new place. -/
def settleGrammar (known : Table String Nat) (state : Workspace × Table String Nat)
    (entry : String × Grammar) : Workspace × Table String Nat :=
  match known.get? entry.1 with
  | some place => (state.1.setGrammar place entry.2, state.2.insert entry.1 place)
  | none =>
    let (next, place) := state.1.addGrammar entry.2
    (next, state.2.insert entry.1 place)

/-- Put the models of a catalog where a reader has their names, or at new places. -/
def settle (workspace : Workspace) (place : Nat) (catalog : Catalog) : Workspace :=
  let reader := workspace.reader place
  let (withAutomata, automata) :=
    catalog.automata.entries.foldl (settleAutomaton reader.automata) (workspace, ∅)
  let (withGrammars, grammars) :=
    catalog.grammars.entries.foldl (settleGrammar reader.grammars) (withAutomata, ∅)
  withGrammars.setReader place { reader with automata, grammars }

/-- Let a reader forget its models, which stay where they are. -/
def clear (workspace : Workspace) (place : Nat) : Workspace :=
  workspace.setReader place { strict := (workspace.reader place).strict }

/-- Let a reader apply one line. -/
def readLine (workspace : Workspace) (place : Nat) (line : String) : Changed :=
  let outcome := (workspace.catalog (workspace.reader place)).applyLine line
  { workspace := workspace.settle place outcome.model
    events := outcome.events
    failure := modelFailure outcome.error }

/--
Let a reader read a description.  When a line is refused the reader forgets its
models, but what was changed in them before stays changed.
-/
def read (workspace : Workspace) (place : Nat) (content : String) : Changed :=
  let before := workspace.catalog (workspace.reader place)
  let reached := before.applyLines 1 (Catalog.contentLines content)
  let reading := before.read content
  let settled := workspace.settle place reached.catalog
  { workspace := if reading.failure.isSome then settled.clear place else settled
    events := reading.events
    failure := reading.failure.map .line }

/-- Let a reader read a file in place of all that it holds. -/
def load (workspace : Workspace) (place : Nat) (path : String) : Changed :=
  match workspace.files.readText path with
  | .error error => { workspace, failure := some (.file error) }
  | .ok content => (workspace.clear place).read place content

/-- Read a file into a catalog of its own. -/
def loadCatalog (workspace : Workspace) (path : String) (strict : Bool) :
    Except FileError Reading :=
  (workspace.files.readText path).map ({ strict } : Catalog).reload

/-! ## Drawings -/

/-- The text that a package gives to the drawing of a machine with a highlighted path. -/
def drawing (workspace : Workspace) (package : Dot.Package) (place : Nat)
    (path : List String) : String :=
  package.source ((workspace.machine place).automaton.diagram path)

/--
Let a package render the drawing of a machine, under the name of the automaton if no
other is given.  The result is the path of the image, or the reason why there is none.
-/
def render (workspace : Workspace) (package : Dot.Package) (place : Nat)
    (file : Option String) (path : List String) :
    Workspace × Except Dot.RenderError String :=
  let automaton := (workspace.machine place).automaton
  let rendering :=
    package.render workspace.files (nameOr file automaton.name) (automaton.diagram path)
  ({ workspace with files := rendering.files }, rendering.result)

end Workspace

end RegularModels
