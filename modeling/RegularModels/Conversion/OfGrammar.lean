import RegularModels.Automaton.Basic
import RegularModels.Conversion.Fresh
import RegularModels.Grammar.Shape

/-!
# From grammars to automata

The automaton of a grammar has the non-terminals as states and one further state,
which is final:

* `A -> aB` gives a transition from `A` by `a` to `B`,
* `A -> a` gives a transition from `A` by `a` to the further state,
* `A -> ε` makes `A` final,

and a right-hand side that is not regular gives nothing.

When one pair `A`, `a` has both a step to `B` and an end, its transition goes to
the twin of `B`: a final state of its own with the transitions of `B`.  Of several
steps of one pair the last one stays, as with any repeated transition.  The names
of the further state and of the twins get primes until they are free.
-/

namespace RegularModels

/-- What the productions of one non-terminal and one terminal lead to. -/
structure Branch where
  /-- The non-terminals after the terminal, in order of first occurrence. -/
  steps : List String := []
  /-- The terminal also stands alone. -/
  ends : Bool := false
deriving DecidableEq, Repr, Inhabited

namespace Branch

/-- Add a non-terminal that may follow. -/
def addStep (branch : Branch) (nonTerminal : String) : Branch :=
  if nonTerminal ∈ branch.steps then branch
  else { branch with steps := branch.steps ++ [nonTerminal] }

/-- A branch in which the symbol may also end a word. -/
def addEnd (branch : Branch) : Branch :=
  { branch with ends := true }

/-- The non-terminal whose transition stays, which came last. -/
def survivor? (branch : Branch) : Option String :=
  branch.steps.getLast?

/-- The non-terminal that needs a twin: the last step of a branch that also ends. -/
def twinned? (branch : Branch) : Option String :=
  if branch.ends then branch.survivor? else none

end Branch

/-- What each non-terminal and terminal leads to. -/
abbrev Branches := Table (String × String) Branch

/-- The twins of non-terminals, in order of creation. -/
abbrev Twins := Table String String

namespace Grammar

/-- The name of the further final state before primes. -/
def finalBase : String := "qf"

/-- The name of the further final state. -/
def finalName (grammar : Grammar) : String :=
  fresh grammar.nonTerminals finalBase

/-- Change the branch of a pair. -/
def modifyBranch (branches : Branches) (pair : String × String)
    (change : Branch → Branch) : Branches :=
  branches.insert pair (change ((branches.get? pair).getD {}))

/-- Add what one production leads to. -/
def addBranch (grammar : Grammar) (branches : Branches) (production : Production) : Branches :=
  match grammar.classify production.rhs with
  | some (.step symbol nonTerminal) =>
    modifyBranch branches (production.lhs, symbol) (·.addStep nonTerminal)
  | some (.terminal symbol) => modifyBranch branches (production.lhs, symbol) (·.addEnd)
  | some .epsilon | none => branches

/-- What the productions lead to, pair by pair in order of first occurrence. -/
def branches (grammar : Grammar) : Branches :=
  grammar.productionList.foldl grammar.addBranch ∅

/-- The left-hand sides of productions for the empty word. -/
def nullable (grammar : Grammar) : List String :=
  (grammar.productionList.filter fun production =>
    grammar.classify production.rhs = some .epsilon).map (·.lhs)

/-- Give a non-terminal a twin, unless it has one. -/
def addTwin (finalName : String) (named : Twins × NameSet) (nonTerminal : String) :
    Twins × NameSet :=
  if nonTerminal ∈ named.1 then named
  else
    let twin := fresh named.2 (nonTerminal ++ "+" ++ finalName)
    (named.1.insert nonTerminal twin, named.2.insert twin)

/-- The twins of a grammar, named apart from all other states. -/
def twins (grammar : Grammar) : Twins :=
  ((grammar.branches.values.filterMap Branch.twinned?).foldl (addTwin grammar.finalName)
    (∅, grammar.nonTerminals.insert grammar.finalName)).1

end Grammar

/-- Everything that the automaton of a grammar is built from, besides its symbols. -/
structure Blueprint where
  /-- The name of the further final state. -/
  finalName : String
  branches : Branches
  twins : Twins
  /-- The non-terminals that are final themselves, once for each production. -/
  nullable : List String

namespace Blueprint

/-- Where the transitions of a branch go, in the order in which they are written. -/
def targets (blueprint : Blueprint) (branch : Branch) : List String :=
  match branch.survivor? with
  | none => if branch.ends then [blueprint.finalName] else []
  | some last =>
    if branch.ends then branch.steps.dropLast ++ [(blueprint.twins.get? last).getD last]
    else branch.steps

/-- The states that have the transitions of a non-terminal: itself and its twin. -/
def sources (blueprint : Blueprint) (nonTerminal : String) : List String :=
  nonTerminal :: (blueprint.twins.get? nonTerminal).toList

/-- The transitions of one pair, those of the non-terminal before those of its twin. -/
def transitionsOf (blueprint : Blueprint) (pair : String × String) (branch : Branch) :
    List Transition :=
  (blueprint.sources pair.1).flatMap fun source =>
    (blueprint.targets branch).map fun target => ⟨source, pair.2, target⟩

/-- All transitions, in the order in which they are written. -/
def transitions (blueprint : Blueprint) : List Transition :=
  blueprint.branches.entries.flatMap fun entry => blueprint.transitionsOf entry.1 entry.2

/-- The states that are not non-terminals: the final state and the twins. -/
def newStates (blueprint : Blueprint) : List String :=
  blueprint.finalName :: blueprint.twins.values

/--
The states in which words end: the new final state, the nullable non-terminals, and the
twins.
-/
def finals (blueprint : Blueprint) : List String :=
  blueprint.finalName :: blueprint.nullable ++ blueprint.twins.values

end Blueprint

namespace Grammar

/-- What the automaton of a grammar is built from. -/
def blueprint (grammar : Grammar) : Blueprint where
  finalName := grammar.finalName
  branches := grammar.branches
  twins := grammar.twins
  nullable := grammar.nullable

/-- The states and symbols of the automaton of a grammar, without transitions. -/
def automatonFrame (grammar : Grammar) (blueprint : Blueprint) (name : String) : Automaton :=
  (Automaton.setStates { name }
    (grammar.nonTerminals.toList ++ blueprint.newStates)).setAlphabet grammar.terminals.toList

/--
The automaton of a grammar.  The conversion is refused when there is no start
symbol, unless a non-terminal has the empty name, and when a regular production
belongs to a left-hand side that has been removed.
-/
def toAutomaton (grammar : Grammar) (name : Option String) : Outcome Automaton :=
  let blueprint := grammar.blueprint
  ((grammar.automatonFrame blueprint (nameOr name (grammar.name ++ "_dfa"))).setInitial
    (grammar.start.getD "")).andThen fun framed =>
  (Outcome.each (fun automaton transition =>
    automaton.addTransition transition.source transition.symbol transition.target)
      framed blueprint.transitions).andThen fun connected =>
  (connected.setFinals blueprint.finals).andThen fun automaton =>
  .announce automaton
    [.grammarConverted grammar.name automaton.name automaton.states.size
      automaton.transitions.size]

end Grammar

end RegularModels
