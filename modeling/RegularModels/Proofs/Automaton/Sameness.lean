import RegularModels.Automaton.Diagram
import RegularModels.Automaton.Inspect
import RegularModels.Automaton.Machine
import RegularModels.Proofs.Grouping
import RegularModels.Proofs.Sorting

/-!
# Automata that are the same look the same

Automata that differ at most in the order of their transitions have the same listings,
the same findings, the same answers to words, and the same drawings.  What is listed is
sorted, what is looked up does not depend on the order, and what is grouped into one
arrow of a drawing is sorted twice: the arrows by their ends, and the symbols on each.
-/

namespace RegularModels.Automaton

variable {left right : Automaton}

namespace Same

theorem target?_eq
    (same : left.Same right)
    (state symbol : String) :
    left.target? state symbol = right.target? state symbol := by
  rcases same with ⟨_, _, _, _, _, _, agrees⟩
  exact agrees.get?_eq (state, symbol)

/-! ## Listings and findings -/

/-- Transitions are listed in order, whatever order they were added in. -/
theorem transitionList_eq (same : left.Same right) :
    left.transitionList = right.transitionList := by
  rcases same with ⟨_, _, _, _, _, _, agrees⟩
  rw [transitionList, transitionList, sortedEntries, sortedEntries, sortByPair_eq_of_agrees agrees]

theorem info_eq (same : left.Same right) :
    left.info = right.info := by
  have transitions := same.transitionList_eq
  rcases same with ⟨name, states, alphabet, initial, finals, _, agrees⟩
  have size : left.transitions.size = right.transitions.size := agrees.perm.length_eq
  simp only [info, name, states, alphabet, initial, finals, size, transitions]

theorem missing_eq (same : left.Same right) :
    left.missing = right.missing := by
  rcases same with ⟨_, states, alphabet, _, _, _, agrees⟩
  simp only [missing, pairs, states, alphabet, agrees.mem_iff]

theorem isComplete_eq (same : left.Same right) :
    left.isComplete = right.isComplete := by
  rw [isComplete, isComplete, same.missing_eq]

theorem validate_eq (same : left.Same right) :
    left.validate = right.validate := by
  have missing := same.missing_eq
  have complete := same.isComplete_eq
  rcases same with ⟨_, states, alphabet, initial, finals, _, _⟩
  simp only [validate, states, alphabet, initial, finals, missing, complete]

/-! ## Answers to words -/

theorem advance_eq
    (same : left.Same right)
    (run : Run) (symbol : String) :
    left.advance run symbol = right.advance run symbol := by
  have targets := same.target?_eq
  rcases same with ⟨_, _, alphabet, _, _, _, _⟩
  simp only [advance, step?, alphabet, targets]

theorem feed_eq
    (same : left.Same right)
    (run : Run) (symbols : List String) :
    left.feed run symbols = right.feed run symbols := by
  induction symbols generalizing run with
  | nil => rfl
  | cons symbol rest ih => simp only [feed, same.advance_eq, ih]

theorem recognize_eq
    (same : left.Same right)
    (word : String) :
    left.recognize word = right.recognize word := by
  have feeds := same.feed_eq
  rcases same with ⟨_, _, _, initial, finals, _, _⟩
  have isFinal (state : Option String) : left.isFinal state = right.isFinal state := by
    cases state with
    | none => rfl
    | some state => simp only [Automaton.isFinal, finals]
  simp only [recognize, attempt, start, initial, feeds, isFinal]

end Same

/-! ## Drawings -/

/-- The symbols between two states, grouped as they come. -/
def arrowTable (automaton : Automaton) : Arrows :=
  (∅ : Arrows).pushAll (fun entry => (entry.1.1, entry.2)) (·.1.2) automaton.transitions.entries

theorem arrows_eq_sortByPair (automaton : Automaton) :
    automaton.arrows = sortByPair automaton.arrowTable.entries :=
  rfl

/-- The statement about an arrow depends on its symbols up to their order only. -/
theorem arrowStatement_sortNames
    (path : List String) (arrow : (String × String) × List String) :
    arrowStatement path (arrow.1, sortNames arrow.2) = arrowStatement path arrow := by
  simp only [arrowStatement, sortNames_sortNames]

/-- Labels show symbols in order, whatever order they were added in. -/
theorem map_arrowStatement (automaton : Automaton) (path : List String) :
    automaton.arrows.map (arrowStatement path) =
      (sortByPair (automaton.arrowTable.mapValues fun _ => sortNames).entries).map
        (arrowStatement path) := by
  have sorted : automaton.arrows.map (fun arrow => (arrow.1, sortNames arrow.2)) =
      sortByPair (automaton.arrowTable.mapValues fun _ => sortNames).entries := by
    rw [arrows_eq_sortByPair]
    exact map_sortByPair (fun _ => sortNames) automaton.arrowTable.entries
  rw [← sorted, List.map_map]
  apply List.map_congr_left
  intro arrow _
  exact (arrowStatement_sortNames path arrow).symm

namespace Same

/-- The arrows join the same states, with the same symbols on each. -/
theorem agrees_arrowTable (same : left.Same right) :
    (left.arrowTable.mapValues fun _ => sortNames).Agrees
      (right.arrowTable.mapValues fun _ => sortNames) := by
  rcases same with ⟨_, _, _, _, _, _, agrees⟩
  exact (Table.rearranged_pushAll agrees.perm ∅).agrees_sortNames

/-- Same automata have the same drawing, whatever text or image is made of it. -/
theorem diagram_eq
    (same : left.Same right)
    (path : List String) :
    left.diagram path = right.diagram path := by
  have arrows : left.arrows.map (arrowStatement path) = right.arrows.map (arrowStatement path) := by
    rw [map_arrowStatement, map_arrowStatement, sortByPair_eq_of_agrees same.agrees_arrowTable]
  rcases same with ⟨name, states, _, initial, finals, _, _⟩
  have statement : left.stateStatement path = right.stateStatement path := by
    funext state
    simp only [stateStatement, fillColour, finals]
  simp only [diagram, name, states, initial, arrows, statement]

end Same

end RegularModels.Automaton
