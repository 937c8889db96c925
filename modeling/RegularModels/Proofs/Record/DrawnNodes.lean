import RegularModels.Proofs.Automaton.Drawing
import RegularModels.Proofs.Record.StateNames

/-!
# Nodes in drawings of automata that are read

Names are written in any way that is as the package documents it.  Names of states that
are read hold no colon, so the end of an arrow is written like the node of its state.
Different states have different nodes unless their names are written alike, and the node
of the marker is its own unless a state has the name of the marker: nothing keeps that
name from the states.  An arrow between states that are not declared any more brings
further nodes.
-/

namespace RegularModels

namespace Automaton

variable {automaton : Automaton}

/-- Transitions of a declared automaton touch declared states only. -/
theorem Declared.mem_of_touched
    (declared : automaton.Declared)
    {state : String}
    (touched : automaton.Touched state) :
    state ∈ automaton.states := by
  rcases touched with initial | ⟨source, symbol, target, found, rfl | rfl⟩
  · rcases declared.initial with ⟨start, isState, chosen⟩
    rw [chosen] at initial
    exact Option.some.inj initial ▸ isState
  · exact (declared.transitions _ _ _ found).source
  · exact (declared.transitions _ _ _ found).target

/-! ## Identifiers of the nodes -/

section Quoting

variable {quoting : Dot.Quoting}

theorem nodeIdentifiers_diagram
    (quoting : Dot.Quoting) (automaton : Automaton) (path : List String) :
    (automaton.diagram path).nodeIdentifiers quoting =
      (startMarker :: automaton.states.toList).map quoting.identifier := by
  rw [Dot.Digraph.nodeIdentifiers, filterMap_node?_diagram]

variable (documented : quoting.Documented)
include documented

/-- The marker is plain, so it is written like no other name. -/
theorem identifier_eq_identifier_startMarker_iff {state : String} :
    quoting.identifier state = quoting.identifier startMarker ↔ state = startMarker := by
  rw [documented.identifier_eq_iff]
  constructor
  · rintro (same | ⟨_, notPlain, _⟩)
    · exact same
    · exact absurd notPlain (by decide)
  · exact .inl

/-- The arrow from the marker leaves from its node. -/
theorem endpoint_startMarker : quoting.endpoint startMarker = quoting.identifier startMarker :=
  documented.whole (by decide)

/-- Nodes are distinct when no state is called like the marker and no two are written alike. -/
theorem nodup_nodeIdentifiers_iff {path : List String} :
    ((automaton.diagram path).nodeIdentifiers quoting).Nodup ↔
      startMarker ∉ automaton.states ∧
        ∀ left ∈ automaton.states, ∀ right ∈ automaton.states,
          Dot.WrittenAlike left right → left = right := by
  have marker :
      quoting.identifier startMarker ∈ automaton.states.toList.map quoting.identifier ↔
        startMarker ∈ automaton.states := by
    simp [List.mem_map, identifier_eq_identifier_startMarker_iff documented, NameSet.mem_toList]
  rw [nodeIdentifiers_diagram, List.map_cons, List.nodup_cons, marker,
    List.nodup_map_iff_inj_on automaton.states.nodup_toList]
  simp only [documented.identifier_eq_iff, NameSet.mem_toList]

/-! ## Ends of the arrows -/

/-- Arrows lead between states that are touched, and from the marker. -/
theorem mem_edgeEnds_iff
    (avoids : automaton.StatesAvoid ':')
    {path : List String} {node : String} :
    node ∈ (automaton.diagram path).edgeEnds quoting ↔
      (∃ state, automaton.Touched state ∧ node = quoting.identifier state) ∨
        automaton.initial.isSome ∧ node = quoting.identifier startMarker := by
  have whole {state : String} (touched : automaton.Touched state) :
      quoting.endpoint state = quoting.identifier state :=
    documented.whole (avoids.touched state touched)
  have marker := endpoint_startMarker documented
  rw [Dot.Digraph.edgeEnds, filterMap_edge?_diagram, List.mem_flatMap]
  constructor
  · rintro ⟨edge, member, isEnd⟩
    rcases List.mem_append.mp member with start | arrow
    · rcases List.mem_map.mp start with ⟨state, initial, rfl⟩
      rw [Option.mem_toList] at initial
      rcases List.mem_pair.mp isEnd with rfl | rfl
      · exact .inr ⟨by rw [initial]; rfl, marker⟩
      · exact .inl ⟨state, .inl initial, whole (.inl initial)⟩
    · rcases List.mem_map.mp arrow with ⟨⟨⟨tail, head⟩, symbols⟩, isArrow, rfl⟩
      rcases ((joins_arrows automaton).mem_iff tail head).mp
        (List.mem_map.mpr ⟨_, isArrow, rfl⟩) with ⟨symbol, found⟩
      rcases List.mem_pair.mp isEnd with rfl | rfl
      · have touched : automaton.Touched tail := .inr ⟨_, _, _, found, .inl rfl⟩
        exact .inl ⟨tail, touched, whole touched⟩
      · have touched : automaton.Touched head := .inr ⟨_, _, _, found, .inr rfl⟩
        exact .inl ⟨head, touched, whole touched⟩
  · rintro (⟨state, touched, rfl⟩ | ⟨initial, rfl⟩)
    · rw [← whole touched]
      rcases touched with initial | ⟨source, symbol, target, found, ends⟩
      · refine ⟨((startMarker, state), none), ?_, by simp⟩
        simp [initial]
      · rcases List.mem_map.mp (((joins_arrows automaton).mem_iff source target).mpr
          ⟨symbol, found⟩) with ⟨arrow, isArrow, ofEnds⟩
        refine ⟨_, List.mem_append_right _ (List.mem_map_of_mem isArrow), ?_⟩
        rw [ofEnds, List.mem_pair]
        exact ends.imp (congrArg _) (congrArg _)
    · rcases Option.isSome_iff_exists.mp initial with ⟨state, chosen⟩
      refine ⟨((startMarker, state), none), ?_, ?_⟩
      · simp [chosen]
      · simp [marker]

/-- All ends of arrows are nodes with statements when all touched states are written so. -/
theorem edgeEnds_declared_iff
    (avoids : automaton.StatesAvoid ':')
    {path : List String} :
    (∀ node ∈ (automaton.diagram path).edgeEnds quoting,
        node ∈ (automaton.diagram path).nodeIdentifiers quoting) ↔
      ∀ state, automaton.Touched state →
        state = startMarker ∨ ∃ other ∈ automaton.states, Dot.WrittenAlike state other := by
  have written (state : String) :
      quoting.identifier state ∈ (automaton.diagram path).nodeIdentifiers quoting ↔
        state = startMarker ∨ ∃ other ∈ automaton.states, Dot.WrittenAlike state other := by
    rw [nodeIdentifiers_diagram, List.map_cons, List.mem_cons,
      identifier_eq_identifier_startMarker_iff documented, List.mem_map]
    simp only [NameSet.mem_toList, eq_comm (b := quoting.identifier state),
      documented.identifier_eq_iff]
  constructor
  · intro declared state touched
    exact (written state).mp (declared _ ((mem_edgeEnds_iff documented avoids).mpr
      (.inl ⟨state, touched, rfl⟩)))
  · intro all node member
    rcases (mem_edgeEnds_iff documented avoids).mp member with ⟨state, touched, rfl⟩ | ⟨_, rfl⟩
    · exact (written state).mpr (all state touched)
    · exact (written startMarker).mpr (.inl rfl)

end Quoting

end Automaton

namespace Catalog

/--
Names are written as the package documents it.  Then the nodes of an automaton that is read
are those of the marker and the states.  They are pairwise distinct exactly when no state
has the name of the marker and no two states are written alike.  The ends of all arrows are
among them exactly when the states that the arrows join are written like states or the
marker, and the start arrow leaves from the node of a state exactly when a state has the
name of the marker.  If nothing of this happens, one node more than there are states is
written.
-/
theorem drawn_nodes_of_read
    {quoting : Dot.Quoting}
    (documented : quoting.Documented)
    (catalog : Catalog) (content name : String) (path : List String)
    {automaton : Automaton}
    (loaded : (catalog.reload content).catalog.automata.get? name = some automaton) :
    (automaton.diagram path).nodeIdentifiers quoting =
      (Automaton.startMarker :: automaton.states.toList).map quoting.identifier ∧
    (((automaton.diagram path).nodeIdentifiers quoting).Nodup ↔
      Automaton.startMarker ∉ automaton.states ∧
        ∀ left ∈ automaton.states, ∀ right ∈ automaton.states,
          Dot.WrittenAlike left right → left = right) ∧
    ((∀ node ∈ (automaton.diagram path).edgeEnds quoting,
        node ∈ (automaton.diagram path).nodeIdentifiers quoting) ↔
      ∀ state, automaton.Touched state →
        state = Automaton.startMarker ∨
          ∃ other ∈ automaton.states, Dot.WrittenAlike state other) ∧
    ((∃ state ∈ automaton.states,
        quoting.identifier state = quoting.endpoint Automaton.startMarker) ↔
      Automaton.startMarker ∈ automaton.states) ∧
    (((automaton.diagram path).nodeIdentifiers quoting).Nodup →
      (∀ node ∈ (automaton.diagram path).edgeEnds quoting,
        node ∈ (automaton.diagram path).nodeIdentifiers quoting) →
      ((automaton.diagram path).writtenNodes quoting).card = automaton.states.size + 1) := by
  have avoids := catalog.statesAvoidColon_reload content name automaton loaded
  have identifiers := Automaton.nodeIdentifiers_diagram quoting automaton path
  refine ⟨identifiers, Automaton.nodup_nodeIdentifiers_iff documented,
    Automaton.edgeEnds_declared_iff documented avoids, ?_, ?_⟩
  · simp only [Automaton.endpoint_startMarker documented,
      Automaton.identifier_eq_identifier_startMarker_iff documented]
    constructor
    · rintro ⟨state, isState, rfl⟩
      exact isState
    · exact fun isState => ⟨_, isState, rfl⟩
  · intro distinct declared
    rw [Dot.Digraph.card_writtenNodes distinct declared, identifiers]
    simp [NameSet.size]

/-- A description of states whose names are a keyword, a bracketed text and a quote. -/
def awkwardContent : String :=
  "1:A:node,<b>,q\",q\n2:A:a\n3:A:node\n5:A:node,a,q\""

/-- The automaton that is read from it. -/
def awkward : Automaton where
  name := "A"
  states := .ofList ["node", "<b>", "q\"", "q"]
  alphabet := .ofList ["a"]
  initial := some "node"
  transitions := Table.insert ∅ ("node", "a") "q\""

/-- Names that have to be quoted, and names that need not be, have nodes of their own. -/
theorem drawn_nodes_of_read_awkward :
    (({} : Catalog).reload awkwardContent).catalog.automata.get? "A" = some awkward ∧
      ((awkward.diagram []).nodeIdentifiers .standard).Nodup ∧
      (∀ node ∈ (awkward.diagram []).edgeEnds .standard,
        node ∈ (awkward.diagram []).nodeIdentifiers .standard) ∧
      ((awkward.diagram []).writtenNodes .standard).card = 5 := by
  have loaded : (({} : Catalog).reload awkwardContent).catalog.automata.get? "A" =
      some awkward := by
    decide +kernel
  have declared : awkward.Declared := by
    decide
  rcases drawn_nodes_of_read Dot.Quoting.documented_standard {} awkwardContent "A" [] loaded with
    ⟨_, nodup_iff, declared_iff, _, count⟩
  have distinct : ((awkward.diagram []).nodeIdentifiers .standard).Nodup := by
    refine nodup_iff.mpr ⟨by decide, ?_⟩
    change ∀ left ∈ awkward.states.toList, ∀ right ∈ awkward.states.toList,
      Dot.WrittenAlike left right → left = right
    decide
  have ends := declared_iff.mpr fun state touched =>
    .inr ⟨state, declared.mem_of_touched touched, .inl rfl⟩
  exact ⟨loaded, distinct, ends, count distinct ends⟩

/-- An automaton with a state that has the name of the marker. -/
def marked : Automaton where
  name := "A"
  states := .ofList ["__start__", "q"]
  initial := some "q"

/--
A state may have the name of the marker.  Then the two share one node, from which the
start arrow leaves, and only as many nodes as states are written.
-/
theorem exists_state_drawn_as_marker :
    (({} : Catalog).reload "1:A:__start__,q\n3:A:q").catalog.automata.get? "A" =
        some marked ∧
      ¬((marked.diagram []).nodeIdentifiers .standard).Nodup ∧
      (∃ state ∈ marked.states,
        Dot.Quoting.standard.identifier state =
          Dot.Quoting.standard.endpoint Automaton.startMarker) ∧
      ((marked.diagram []).writtenNodes .standard).card = marked.states.size := by
  refine ⟨by decide +kernel, by decide +kernel, ⟨"__start__", by decide, by decide⟩, ?_⟩
  decide +kernel

end Catalog

end RegularModels
