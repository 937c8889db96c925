import Mathlib.Data.List.Nodup
import RegularModels.Proofs.Automaton.Connection
import RegularModels.Proofs.Automaton.Recognition
import RegularModels.Proofs.Automaton.Sameness
import RegularModels.Proofs.Dot.Nodes

/-!
# What a drawing shows of a run

A drawing has a node for each state and an arrow for each pair of states that some
transition joins, and the label of the arrow lists the symbols of all these transitions.
When it highlights the path of a word, the states of the path are orange.  Each step of
the path takes a transition, so there is an arrow between its states, and this arrow is
red; no other arrow is.
-/

namespace RegularModels.Automaton

variable {automaton : Automaton}

/-! ## Pairs of states and the symbols between them -/

/-- The symbols that lead from one state to another, in increasing order. -/
def symbolsBetween (automaton : Automaton) (tail head : String) : List String :=
  automaton.alphabet.toList.filter fun symbol => automaton.target? tail symbol = some head

theorem increasing_symbolsBetween (automaton : Automaton) (tail head : String) :
    (automaton.symbolsBetween tail head).Pairwise (· < ·) :=
  automaton.alphabet.increasing.filter _

/-- The symbols between two states are those that lead from one to the other. -/
theorem mem_symbolsBetween_iff
    (declared : automaton.Declared)
    {tail head symbol : String} :
    symbol ∈ automaton.symbolsBetween tail head ↔
      automaton.target? tail symbol = some head := by
  rw [symbolsBetween, List.mem_filter, decide_eq_true_eq]
  constructor
  · exact fun ⟨_, found⟩ => found
  · exact fun found => ⟨(declared.transitions _ _ _ found).symbol, found⟩

/-- The transitions from one state to another, by their symbols. -/
def transitionsBetween (automaton : Automaton) (ends : String × String) :
    List ((String × String) × String) :=
  (automaton.symbolsBetween ends.1 ends.2).map fun symbol => ((ends.1, symbol), ends.2)

theorem nodup_transitionsBetween (automaton : Automaton) (ends : String × String) :
    (automaton.transitionsBetween ends).Nodup := by
  apply List.Nodup.map
  · intro symbol other same
    simpa using same
  · exact automaton.alphabet.nodup_toList.filter _

theorem mem_transitionsBetween_iff
    (declared : automaton.Declared)
    {ends : String × String} {tail symbol head : String} :
    ((tail, symbol), head) ∈ automaton.transitionsBetween ends ↔
      ends = (tail, head) ∧ automaton.target? tail symbol = some head := by
  rw [transitionsBetween, List.mem_map]
  constructor
  · rintro ⟨_, between, same⟩
    cases same
    exact ⟨rfl, (mem_symbolsBetween_iff declared).mp between⟩
  · rintro ⟨rfl, found⟩
    exact ⟨symbol, (mem_symbolsBetween_iff declared).mpr found, rfl⟩

/-- Each pair of states that some transition joins is among these pairs, and once. -/
structure Joins (automaton : Automaton) (pairs : List (String × String)) : Prop where
  nodup : pairs.Nodup
  mem_iff : ∀ tail head, (tail, head) ∈ pairs ↔
    ∃ symbol, automaton.target? tail symbol = some head

/-- Every transition is between exactly one of the pairs. -/
theorem Joins.transitions_perm
    {pairs : List (String × String)}
    (joins : automaton.Joins pairs)
    (declared : automaton.Declared) :
    (pairs.flatMap automaton.transitionsBetween).Perm automaton.transitions.entries := by
  have apart : pairs.Pairwise fun ends otherEnds =>
      List.Disjoint (automaton.transitionsBetween ends)
        (automaton.transitionsBetween otherEnds) := by
    refine joins.nodup.imp ?_
    rintro ends otherEnds different ⟨⟨tail, symbol⟩, head⟩ here there
    have same := ((mem_transitionsBetween_iff declared).mp here).1
    exact different (same.trans ((mem_transitionsBetween_iff declared).mp there).1.symm)
  have nodup : (pairs.flatMap automaton.transitionsBetween).Nodup :=
    List.nodup_flatMap.mpr ⟨fun ends _ => automaton.nodup_transitionsBetween ends, apart⟩
  rw [List.perm_ext_iff_of_nodup nodup automaton.transitions.nodup_entries]
  rintro ⟨⟨tail, symbol⟩, head⟩
  simp only [List.mem_flatMap, mem_transitionsBetween_iff declared, ← Table.get?_eq_some_iff]
  constructor
  · rintro ⟨_, _, _, found⟩
    exact found
  · exact fun found => ⟨(tail, head), (joins.mem_iff _ _).mpr ⟨symbol, found⟩, rfl, found⟩

/-! ## Arrows -/

theorem mem_arrows_iff {ends : String × String} {symbols : List String} :
    (ends, symbols) ∈ automaton.arrows ↔ automaton.arrowTable.get? ends = some symbols := by
  rw [arrows_eq_sortByPair, sortByPair, List.mem_mergeSort, Table.get?_eq_some_iff]

/--
The arrow between two states holds the symbols of all transitions between them, in order of
addition.
-/
theorem get?_arrowTable (automaton : Automaton) (ends : String × String) :
    automaton.arrowTable.get? ends =
      if ∃ entry ∈ automaton.transitions.entries, (entry.1.1, entry.2) = ends then
        some ((automaton.transitions.entries.filter fun entry =>
          (entry.1.1, entry.2) = ends).map (·.1.2))
      else none := by
  rw [arrowTable, Table.get?_pushAll, Table.get?_empty, Option.getD_none, List.nil_append]

/-- There is one arrow for each pair of states that a transition joins, and no other. -/
theorem joins_arrows (automaton : Automaton) :
    automaton.Joins (automaton.arrows.map Prod.fst) := by
  constructor
  · rw [arrows_eq_sortByPair]
    exact ((List.mergeSort_perm _ _).map Prod.fst).nodup_iff.mpr automaton.arrowTable.nodup
  · intro tail head
    have listed : (tail, head) ∈ automaton.arrows.map Prod.fst ↔
        ∃ symbols, automaton.arrowTable.get? (tail, head) = some symbols := by
      simp [mem_arrows_iff]
    rw [listed, get?_arrowTable]
    constructor
    · rintro ⟨symbols, found⟩
      split at found
      · rename_i joined
        rcases joined with ⟨⟨⟨source, symbol⟩, target⟩, member, same⟩
        cases same
        exact ⟨symbol, Table.get?_eq_some_iff.mpr member⟩
      · cases found
    · rintro ⟨symbol, found⟩
      rw [if_pos ⟨_, Table.get?_eq_some_iff.mp found, rfl⟩]
      exact ⟨_, rfl⟩

/-- The symbols on an arrow are those between its ends. -/
theorem sortNames_eq_symbolsBetween
    (declared : automaton.Declared)
    {arrow : (String × String) × List String}
    (member : arrow ∈ automaton.arrows) :
    sortNames arrow.2 = automaton.symbolsBetween arrow.1.1 arrow.1.2 := by
  rcases arrow with ⟨⟨tail, head⟩, symbols⟩
  have found := mem_arrows_iff.mp member
  rw [get?_arrowTable] at found
  split at found
  · cases found
    apply NameSet.eq_of_increasing
    · apply increasing_sortNames
      apply List.Nodup.map_on _ (automaton.transitions.nodup_entries.filter _)
      rintro ⟨⟨source, symbol⟩, target⟩ here ⟨⟨otherSource, otherSymbol⟩, otherTarget⟩ there same
      simp only [List.mem_filter, decide_eq_true_eq, Prod.mk.injEq] at here there same
      rw [here.2.1, here.2.2, there.2.1, there.2.2, same]
    · exact increasing_symbolsBetween automaton tail head
    · intro symbol
      rw [mem_symbolsBetween_iff declared, target?, Table.get?_eq_some_iff, sortNames,
        List.mem_mergeSort]
      simp
  · cases found

/-! ## Steps of a path -/

/-- The path goes on from the first of these states to the second. -/
def Crosses (path : List Visit) (tail head : String) : Prop :=
  ∃ step before after, path[step]? = some before ∧ path[step + 1]? = some after ∧
    before.state = tail ∧ after.state = head

/-- Neighbours in the path are the ends of the steps that it takes. -/
theorem mem_neighbours_iff {path : List Visit} {tail head : String} :
    (tail, head) ∈ neighbours (path.map (·.state)) ↔ Crosses path tail head := by
  rw [neighbours, List.mem_iff_getElem?]
  simp only [List.getElem?_zip_eq_some, List.getElem?_tail, List.getElem?_map,
    Option.map_eq_some_iff]
  constructor
  · rintro ⟨step, ⟨before, here, rfl⟩, after, next, rfl⟩
    exact ⟨step, before, after, here, next, rfl, rfl⟩
  · rintro ⟨step, before, after, here, next, rfl, rfl⟩
    exact ⟨step, ⟨before, here, rfl⟩, after, next, rfl⟩

/-- Following transitions from the initial state, one stays among the states. -/
theorem Declared.mem_of_reached?
    (declared : automaton.Declared)
    {symbols : List String} {state : String}
    (reaches : automaton.reached? symbols = some state) :
    state ∈ automaton.states := by
  induction symbols using List.reverseRecOn generalizing state with
  | nil =>
      rcases declared.initial with ⟨start, isState, initial⟩
      have same : some start = some state := initial.symm.trans reaches
      exact Option.some.inj same ▸ isState
  | append_singleton symbols symbol _ =>
      rw [reached?_concat, Option.bind_eq_some_iff] at reaches
      rcases reaches with ⟨before, _, stepped⟩
      rw [step?] at stepped
      split at stepped
      · exact (declared.transitions _ _ _ stepped).target
      · cases stepped

namespace Follows

variable {symbols : List String} {path : List Visit} {start : String}

/-- Behind the first visit, each one tells the symbol consumed and the state it led to. -/
theorem exists_consumed
    (follows : automaton.Follows symbols path)
    {step : Nat} {visit : Visit}
    (found : path[step + 1]? = some visit) :
    ∃ symbol, symbols[step]? = some symbol ∧ visit.symbol = some symbol ∧
      automaton.reached? (symbols.take (step + 1)) = some visit.state := by
  have inside := (List.getElem?_eq_some_iff.mp found).1
  rw [follows.length] at inside
  have consumed : symbols[step]? = some symbols[step] :=
    List.getElem?_eq_getElem (Nat.lt_of_succ_lt_succ inside)
  rcases follows.later step _ consumed with ⟨state, reaches, visited⟩
  rw [visited] at found
  cases found
  exact ⟨_, consumed, rfl, reaches⟩

/-- Each visit is of the state that the symbols before it lead to. -/
theorem reached?_take
    (follows : automaton.Follows symbols path)
    (initial : automaton.initial = some start)
    {step : Nat} {visit : Visit}
    (found : path[step]? = some visit) :
    automaton.reached? (symbols.take step) = some visit.state := by
  cases step with
  | zero =>
      rw [follows.first start initial] at found
      cases found
      exact initial
  | succ step =>
      rcases follows.exists_consumed found with ⟨_, _, _, reaches⟩
      exact reaches

/-- Each step of the path takes a transition with the symbol that it consumes. -/
theorem exists_target?
    (follows : automaton.Follows symbols path)
    (initial : automaton.initial = some start)
    {step : Nat} {before after : Visit}
    (here : path[step]? = some before)
    (next : path[step + 1]? = some after) :
    ∃ symbol, after.symbol = some symbol ∧
      automaton.target? before.state symbol = some after.state := by
  rcases follows.exists_consumed next with ⟨symbol, consumed, told, reaches⟩
  refine ⟨symbol, told, ?_⟩
  rw [List.take_add_one, consumed, Option.toList_some,
    reached?_concat_of_some (follows.reached?_take initial here), step?] at reaches
  split at reaches
  · exact reaches
  · cases reaches

theorem mem_states
    (follows : automaton.Follows symbols path)
    (declared : automaton.Declared)
    {visit : Visit}
    (member : visit ∈ path) :
    visit.state ∈ automaton.states := by
  rcases declared.initial with ⟨start, _, initial⟩
  rcases List.mem_iff_getElem?.mp member with ⟨step, found⟩
  exact declared.mem_of_reached? (follows.reached?_take initial found)

end Follows

/-! ## The statements of a drawing -/

/-- The statements are those of the marker, the states, the start arrow and the arrows. -/
theorem mem_statements_iff {path : List String} {statement : Dot.Statement} :
    statement ∈ (automaton.diagram path).statements ↔
      statement = markerStatement ∨
      (∃ state ∈ automaton.states, automaton.stateStatement path state = statement) ∨
      (∃ state, automaton.initial = some state ∧ startStatement state = statement) ∨
      ∃ arrow ∈ automaton.arrows, arrowStatement path arrow = statement := by
  simp [diagram, NameSet.mem_toList]

theorem orange_mem_attributes_iff {path : List String} {state : String} :
    ("fillcolor", "orange") ∈ (automaton.stateStatement path state).attributes ↔
      state ∈ path := by
  simp only [stateStatement, Dot.Statement.attributes, fillColour]
  split <;> split <;> simp_all

theorem red_mem_attributes_iff
    {path : List String} {arrow : (String × String) × List String} :
    ("color", "red") ∈ (arrowStatement path arrow).attributes ↔ arrow.1 ∈ neighbours path := by
  simp only [arrowStatement, Dot.Statement.attributes]
  split <;> split <;> simp_all

/-- The node of the state is orange. -/
def Orange (statements : List Dot.Statement) (state : String) : Prop :=
  ∃ statement ∈ statements, statement.node? = some state ∧
    ("fillcolor", "orange") ∈ statement.attributes

/-- There is a red edge with these ends and this label. -/
def Red (statements : List Dot.Statement) (ends : String × String) (label : Option String) :
    Prop :=
  ∃ statement ∈ statements, statement.edge? = some (ends, label) ∧
    ("color", "red") ∈ statement.attributes

/-- A state is drawn orange exactly when it is on the path. -/
theorem orange_diagram_iff {path : List String} {state : String} :
    Orange (automaton.diagram path).statements state ↔
      state ∈ automaton.states ∧ state ∈ path := by
  constructor
  · rintro ⟨statement, member, about, orange⟩
    rcases mem_statements_iff.mp member with
      rfl | ⟨other, isState, rfl⟩ | ⟨other, _, rfl⟩ | ⟨arrow, _, rfl⟩
    · simp [markerStatement, Dot.Statement.attributes] at orange
    · cases about
      exact ⟨isState, orange_mem_attributes_iff.mp orange⟩
    · cases about
    · cases about
  · rintro ⟨isState, visited⟩
    refine ⟨automaton.stateStatement path state, ?_, rfl, orange_mem_attributes_iff.mpr visited⟩
    exact mem_statements_iff.mpr (.inr (.inl ⟨state, isState, rfl⟩))

/-- An arrow is drawn red exactly when its ends are neighbours on the path. -/
theorem red_diagram_iff
    {path : List String} {ends : String × String} {label : Option String} :
    Red (automaton.diagram path).statements ends label ↔
      ends ∈ neighbours path ∧
        ∃ symbols, (ends, symbols) ∈ automaton.arrows ∧
          label = some (", ".intercalate (sortNames symbols)) := by
  constructor
  · rintro ⟨statement, member, about, red⟩
    rcases mem_statements_iff.mp member with
      rfl | ⟨state, _, rfl⟩ | ⟨state, _, rfl⟩ | ⟨⟨arrowEnds, symbols⟩, isArrow, rfl⟩
    · cases about
    · cases about
    · simp [startStatement, Dot.Statement.attributes] at red
    · cases about
      exact ⟨red_mem_attributes_iff.mp red, symbols, isArrow, rfl⟩
  · rintro ⟨taken, symbols, isArrow, rfl⟩
    refine ⟨arrowStatement path (ends, symbols), ?_, rfl, red_mem_attributes_iff.mpr taken⟩
    exact mem_statements_iff.mpr (.inr (.inr (.inr ⟨_, isArrow, rfl⟩)))

/-- The nodes with statements are the marker and then the states in order. -/
theorem filterMap_node?_diagram (automaton : Automaton) (path : List String) :
    (automaton.diagram path).statements.filterMap Dot.Statement.node? =
      startMarker :: automaton.states.toList := by
  have states : automaton.states.toList.filterMap
      (Dot.Statement.node? ∘ automaton.stateStatement path) = automaton.states.toList :=
    List.filterMap_some
  have starts : automaton.initial.toList.filterMap (Dot.Statement.node? ∘ startStatement) = [] :=
    List.filterMap_eq_nil_iff.mpr fun _ _ => rfl
  have arrows : automaton.arrows.filterMap (Dot.Statement.node? ∘ arrowStatement path) = [] :=
    List.filterMap_eq_nil_iff.mpr fun _ _ => rfl
  simp only [diagram, List.filterMap_append, List.filterMap_map, states, starts, arrows,
    List.append_nil]
  rfl

/-- The edges are the start arrow and then one arrow for each joined pair. -/
theorem filterMap_edge?_diagram (automaton : Automaton) (path : List String) :
    (automaton.diagram path).statements.filterMap Dot.Statement.edge? =
      automaton.initial.toList.map (fun state => ((startMarker, state), none)) ++
        automaton.arrows.map fun arrow =>
          (arrow.1, some (", ".intercalate (sortNames arrow.2))) := by
  have states : automaton.states.toList.filterMap
      (Dot.Statement.edge? ∘ automaton.stateStatement path) = [] :=
    List.filterMap_eq_nil_iff.mpr fun _ _ => rfl
  simp only [diagram, List.filterMap_append, List.filterMap_map, states]
  rw [← List.filterMap_eq_map, ← List.filterMap_eq_map]
  rfl

/-! ## The drawing of a run -/

/--
The statements are those of a drawing of the automaton in which a path is highlighted,
with an arrow from the marker to the state `start`.
-/
structure Shows
    (automaton : Automaton) (start : String) (path : List Visit)
    (statements : List Dot.Statement) : Prop where
  /-- The marker and each state have one node. -/
  nodes : statements.filterMap Dot.Statement.node? = startMarker :: automaton.states.toList
  /-- Besides the arrow to `start` there is one for each pair of states that is joined. -/
  edges : ∃ pairs, automaton.Joins pairs ∧
    statements.filterMap Dot.Statement.edge? = ((startMarker, start), none) ::
      pairs.map (fun ends =>
        (ends, some (", ".intercalate (automaton.symbolsBetween ends.1 ends.2)))) ∧
    (pairs.flatMap automaton.transitionsBetween).Perm automaton.transitions.entries
  /-- An arrow lists the symbols that lead from its tail to its head, in order. -/
  symbols : ∀ tail head, (automaton.symbolsBetween tail head).Pairwise (· < ·) ∧
    ∀ symbol, symbol ∈ automaton.symbolsBetween tail head ↔
      automaton.target? tail symbol = some head
  orange : ∀ state, Orange statements state ↔ ∃ visit ∈ path, visit.state = state
  red : ∀ tail head, (∃ label, Red statements (tail, head) label) ↔ Crosses path tail head
  /-- Each step of the path is along a red arrow that lists the symbol it consumes. -/
  taken : ∀ step before after, path[step]? = some before → path[step + 1]? = some after →
    ∃ symbol, after.symbol = some symbol ∧
      symbol ∈ automaton.symbolsBetween before.state after.state ∧
      Red statements (before.state, after.state)
        (some (", ".intercalate (automaton.symbolsBetween before.state after.state)))

/-- What follows symbols from the initial state goes along the arrows of the drawing. -/
theorem Follows.shows
    {symbols : List String} {path : List Visit} {start : String}
    (follows : automaton.Follows symbols path)
    (declared : automaton.Declared)
    (initial : automaton.initial = some start) :
    automaton.Shows start path (automaton.diagram (path.map (·.state))).statements := by
  have joins := joins_arrows automaton
  have red {tail head : String} (crosses : Crosses path tail head) :
      Red (automaton.diagram (path.map (·.state))).statements (tail, head)
        (some (", ".intercalate (automaton.symbolsBetween tail head))) := by
    rcases crosses with ⟨step, before, after, here, next, rfl, rfl⟩
    rcases follows.exists_target? initial here next with ⟨symbol, _, moves⟩
    rcases List.mem_map.mp ((joins.mem_iff _ _).mpr ⟨symbol, moves⟩) with
      ⟨⟨ends, grouped⟩, isArrow, rfl⟩
    refine red_diagram_iff.mpr ⟨?_, grouped, isArrow, ?_⟩
    · exact mem_neighbours_iff.mpr ⟨step, before, after, here, next, rfl, rfl⟩
    · rw [← sortNames_eq_symbolsBetween declared isArrow]
  constructor
  · exact filterMap_node?_diagram automaton _
  · refine ⟨automaton.arrows.map Prod.fst, joins, ?_, joins.transitions_perm declared⟩
    rw [filterMap_edge?_diagram, initial, List.map_map]
    apply congrArg (_ :: ·)
    apply List.map_congr_left
    intro arrow isArrow
    rw [Function.comp_apply, sortNames_eq_symbolsBetween declared isArrow]
  · intro tail head
    exact ⟨increasing_symbolsBetween automaton tail head,
      fun symbol => mem_symbolsBetween_iff declared⟩
  · intro state
    rw [orange_diagram_iff, List.mem_map]
    constructor
    · exact fun ⟨_, visited⟩ => visited
    · rintro ⟨visit, member, rfl⟩
      exact ⟨follows.mem_states declared member, visit, member, rfl⟩
  · intro tail head
    constructor
    · rintro ⟨label, isRed⟩
      exact mem_neighbours_iff.mp (red_diagram_iff.mp isRed).1
    · exact fun crosses => ⟨_, red crosses⟩
  · intro step before after here next
    rcases follows.exists_target? initial here next with ⟨symbol, consumed, moves⟩
    refine ⟨symbol, consumed, (mem_symbolsBetween_iff declared).mpr moves, ?_⟩
    exact red ⟨step, before, after, here, next, rfl, rfl⟩

/--
The drawing that highlights the path of a word has one node for each state and one arrow
for each pair of joined states, with all the symbols between them in order; orange are the
states that the automaton visits as it follows the word, as far as it can, and red are the
arrows along which it goes.
-/
theorem diagram_shows_run
    {start : String}
    (declared : automaton.Declared)
    (initial : automaton.initial = some start)
    (word : String) :
    automaton.Shows start (automaton.recognize word).path
      (automaton.diagram ((automaton.recognize word).path.map (·.state))).statements := by
  rcases exists_answeredBy initial word with ⟨consumed, answered⟩
  exact answered.path.shows declared initial

/-- Two states with a loop and parallel transitions between them. -/
def loops : Automaton where
  name := "loops"
  states := .ofList ["p", "q"]
  alphabet := .ofList ["a", "b", "c"]
  initial := some "p"
  finals := .ofList ["q"]
  transitions := (((Table.insert ∅ ("p", "b") "q").insert ("p", "a") "q").insert
    ("q", "a") "q").insert ("q", "c") "p"

/-- The run of `baab` goes through the loop twice and is then refused. -/
theorem diagram_shows_run_loops :
    loops.Declared ∧ loops.initial = some "p" ∧ (loops.recognize "baab").error.isSome ∧
      (loops.recognize "baab").path.map (·.state) = ["p", "q", "q", "q"] ∧
      loops.Shows "p" (loops.recognize "baab").path
        (loops.diagram ((loops.recognize "baab").path.map (·.state))).statements := by
  have declared : loops.Declared := by
    decide
  exact ⟨declared, rfl, by decide +kernel, by decide +kernel,
    diagram_shows_run declared rfl "baab"⟩

end RegularModels.Automaton
