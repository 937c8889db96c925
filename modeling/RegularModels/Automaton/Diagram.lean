import RegularModels.Automaton.Basic
import RegularModels.Dot.Graph
import RegularModels.Order

/-!
# Drawing an automaton

The drawing has one node for each state and an invisible one from which an arrow
leads to the initial state.  Transitions between the same two states share one
arrow, labelled with their symbols in order.  The states of a highlighted path
are orange, and the arrows between its neighbours are red.
-/

namespace RegularModels.Automaton

/-- The name of the invisible node before the initial state. -/
def startMarker : String := "__start__"

/-- The symbols that lead from one state to another, in order of addition. -/
abbrev Arrows := Table (String × String) (List String)

/-- Add a transition to the arrow between its states. -/
def addArrow (arrows : Arrows) (entry : (String × String) × String) : Arrows :=
  let ends := (entry.1.1, entry.2)
  arrows.insert ends ((arrows.get? ends).getD [] ++ [entry.1.2])

/-- The arrows of an automaton, sorted by their ends. -/
def arrows (automaton : Automaton) : List ((String × String) × List String) :=
  sortByPair (automaton.transitions.entries.foldl addArrow ∅).entries

/-- The pairs of neighbours in a path. -/
def neighbours (path : List String) : List (String × String) :=
  path.zip path.tail

/-- The fill colour of a state, if it differs from that of all nodes. -/
def fillColour (automaton : Automaton) (path : List String) (state : String) :
    Option String :=
  if state ∈ path then some "orange"
  else if state ∈ automaton.finals then some "lightgreen"
  else none

/--
The node of a state: its name is its label, final states have a double border, and a fill
colour is told only where it differs.
-/
def stateStatement (automaton : Automaton) (path : List String) (state : String) :
    Dot.Statement :=
  .node state (some state)
    ((automaton.fillColour path state).toList.map ("fillcolor", ·) ++
      if state ∈ automaton.finals then [("shape", "doublecircle")] else [])

/--
The arrow between two states with all its symbols; an arrow from a state to itself leaves and
arrives at the top.
-/
def arrowStatement (path : List String) (arrow : (String × String) × List String) :
    Dot.Statement :=
  .edge arrow.1.1 arrow.1.2 (some (", ".intercalate (sortNames arrow.2)))
    ((if arrow.1 ∈ neighbours path then [("color", "red"), ("penwidth", "2")] else []) ++
      if arrow.1.1 = arrow.1.2 then [("headport", "n"), ("tailport", "n")] else [])

/-- The statement about the invisible node. -/
def markerStatement : Dot.Statement :=
  .node startMarker none [("shape", "point"), ("style", "invis")]

/-- The arrow to the initial state. -/
def startStatement (state : String) : Dot.Statement :=
  .edge startMarker state none [("penwidth", "2")]

/-- The drawing of an automaton with a highlighted path, which may be empty. -/
def diagram (automaton : Automaton) (path : List String) : Dot.Digraph where
  name := automaton.name
  graphAttributes :=
    [("fontname", "Arial"), ("fontsize", "14"), ("label", automaton.name), ("labelloc", "t"),
      ("rankdir", "LR")]
  nodeAttributes :=
    [("fillcolor", "lightblue"), ("fontname", "Arial"), ("shape", "circle"),
      ("style", "filled")]
  edgeAttributes := [("arrowsize", "0.8"), ("fontname", "Arial")]
  statements :=
    [markerStatement] ++ automaton.states.toList.map (automaton.stateStatement path) ++
      automaton.initial.toList.map startStatement ++ automaton.arrows.map (arrowStatement path)

end RegularModels.Automaton
