import RegularModels.Dot.Package
import RegularModels.Proofs.Automaton.Sameness
import RegularModels.Proofs.Conversion.Productions
import RegularModels.Proofs.Grammar.Appending

/-!
# The order of transitions

Automata that differ in the order of their transitions only have the same productions in
different orders.  So the conversion goes through for both or for none, and leads to
grammars of one name that are the same.  With what is listed, recognized and drawn, this
is all that can be asked of an automaton: nothing tells two such automata apart.
-/

namespace RegularModels

open Text (trim)

namespace Automaton.Same

variable {left right : Automaton}

/-- Same automata are written as the same productions in different orders. -/
theorem perm_productions (same : left.Same right) :
    left.productions.Perm right.productions := by
  rcases same with ⟨_, _, _, initial, finals, _, agrees⟩
  have transitions : left.transitionProductions = right.transitionProductions := by
    funext transition
    simp only [transitionProductions, finals]
  have emptyWord : left.emptyWordProductions = right.emptyWordProductions := by
    simp only [emptyWordProductions, initial, finals]
  rw [productions, productions, transitions, emptyWord]
  exact (agrees.perm.flatMap_right _).append_right _

theorem convertedGrammar
    (same : left.Same right)
    (name : String) :
    (left.convertedGrammar name).Same (right.convertedGrammar name) ∧
      (left.convertedGrammar name).name = (right.convertedGrammar name).name := by
  have perm := same.perm_productions.map Production.trimmed
  rcases same with ⟨_, states, alphabet, initial, _, _, _⟩
  have started : ({ left.grammarSymbols name with
        start := some (trim (left.initial.getD "")) } : Grammar) =
      { right.grammarSymbols name with start := some (trim (right.initial.getD "")) } := by
    simp only [grammarSymbols, states, alphabet, initial]
  rw [Automaton.convertedGrammar, Automaton.convertedGrammar, started]
  refine ⟨Grammar.same_foldl_append_of_perm perm _, ?_⟩
  rw [Grammar.foldl_append_frame, Grammar.foldl_append_frame _ (right.productions.map _)]

end Automaton.Same

/-- Both conversions are refused, or they lead to grammars of one name that are the same. -/
def Grammar.ConvertedAlike (left right : Outcome Grammar) : Prop :=
  (left.Succeeds ↔ right.Succeeds) ∧
    (left.Succeeds → left.model.Same right.model ∧ left.model.name = right.model.name)

theorem Automaton.Same.toGrammar
    {left right : Automaton}
    (same : left.Same right)
    (name : Option String) :
    Grammar.ConvertedAlike (left.toGrammar name) (right.toGrammar name) := by
  have perm := same.perm_productions
  have alike := same.convertedGrammar (nameOr name (left.name ++ "_rg"))
  rcases same with ⟨nameSame, states, _, initial, _, _, _⟩
  have leftGoes : (left.toGrammar name).Guarded _
      (· = left.convertedGrammar (nameOr name (left.name ++ "_rg"))) :=
    guarded_toGrammar rfl
  have rightGoes : (right.toGrammar name).Guarded _
      (· = right.convertedGrammar (nameOr name (left.name ++ "_rg"))) :=
    guarded_toGrammar (by rw [nameSame])
  -- Both ask for the same declared names, since they have the same productions.
  simp only [← states, ← initial, ← perm.mem_iff] at rightGoes
  refine ⟨leftGoes.succeeds.trans rightGoes.succeeds.symm, ?_⟩
  intro went
  have met := leftGoes.succeeds.mp went
  rw [leftGoes.model met, rightGoes.model met]
  exact alike

namespace Machine

/-- Whatever is asked, the two machines give the same answer. -/
structure Indistinguishable (left right : Machine) : Prop where
  info : left.automaton.info = right.automaton.info
  transitionList : left.automaton.transitionList = right.automaton.transitionList
  missing : left.automaton.missing = right.automaton.missing
  isComplete : left.automaton.isComplete = right.automaton.isComplete
  validate : left.automaton.validate = right.automaton.validate
  recognize : ∀ word, (left.recognize word).2 = (right.recognize word).2
  drawing : ∀ (package : Dot.Package) path,
    package.source (left.automaton.diagram path) = package.source (right.automaton.diagram path)
  toGrammar : ∀ name,
    Grammar.ConvertedAlike (left.automaton.toGrammar name) (right.automaton.toGrammar name)

/-- Nothing tells machines apart whose automata are the same, whatever their runs. -/
theorem indistinguishable_of_same
    {left right : Machine}
    (same : left.automaton.Same right.automaton) :
    left.Indistinguishable right where
  info := same.info_eq
  transitionList := same.transitionList_eq
  missing := same.missing_eq
  isComplete := same.isComplete_eq
  validate := same.validate_eq
  recognize := same.recognize_eq
  drawing := fun package path => congrArg package.source (same.diagram_eq path)
  toGrammar := same.toGrammar

/-- A machine with two transitions, one of which is put in place of another before. -/
def hasty : Machine :=
  (new "m" false).behind
    [.setStates ["p", "q"], .setAlphabet ["a", "b"], .setInitial "p", .setFinals ["q"],
      .addTransitions "p,a,p; p,b,q; p,a,q"]

/-- The same transitions the other way round, and a word that has been tried. -/
def orderly : Machine :=
  (new "m" false).behind
    [.setStates ["q", "p"], .setAlphabet ["b", "a"], .setInitial "p", .setFinals ["q"],
      .addTransitions "p,b,q; p,a,q", .recognize "b"]

/-- Replacing a transition or adding it late leaves no trace. -/
theorem indistinguishable_of_same_hasty :
    hasty ≠ orderly ∧ hasty.automaton.Same orderly.automaton ∧
      hasty.Indistinguishable orderly := by
  have same : hasty.automaton.Same orderly.automaton := by
    decide +kernel
  exact ⟨by decide +kernel, same, indistinguishable_of_same same⟩

end Machine

end RegularModels
