import RegularModels.Proofs.Automaton.Connection
import RegularModels.Proofs.Guarded
import RegularModels.Proofs.Text.Trimmed

/-!
# When changes of an automaton go through

An initial state, final states and transitions are accepted exactly when all names that
they use are declared, as long as the automaton is not strict.  What is refused is the
first that uses another name, and the error says which.
-/

namespace RegularModels

open Text (trim)

/-- The transition as it is written down, with trimmed names. -/
def Transition.trimmed (transition : Transition) : Transition :=
  ⟨trim transition.source, trim transition.symbol, trim transition.target⟩

namespace Automaton

variable {automaton : Automaton}

/-! ## Chosen states -/

/-- Only a declared state becomes the initial state. -/
theorem guarded_setInitial (automaton : Automaton) (name : String) :
    (automaton.setInitial name).Guarded (trim name ∈ automaton.states)
      (· = { automaton with initial := some (trim name) }) := by
  unfold setInitial
  split
  · rename_i known
    exact .of_succeeds known rfl rfl
  · rename_i unknown
    exact .of_refuse unknown _ _

/-- Final states are set all together or not at all. -/
theorem guarded_setFinals (automaton : Automaton) (names : List String) :
    (automaton.setFinals names).Guarded (∀ name ∈ names.map trim, name ∈ automaton.states)
      (· = { automaton with finals := .ofList (names.map trim) }) := by
  unfold setFinals
  split
  · rename_i name unknown
    apply Outcome.Guarded.of_refuse
    intro known
    have absent := List.find?_some unknown
    simp [known name (List.mem_of_find?_eq_some unknown)] at absent
  · rename_i known
    refine .of_succeeds ?_ rfl rfl
    simpa using List.find?_eq_none.mp known

/-! ## Transitions -/

/-- A lenient automaton accepts exactly the transitions whose names it declares. -/
theorem guarded_insertTransition
    (lenient : automaton.strict = false)
    (transition : Transition) :
    (automaton.insertTransition transition).Guarded (automaton.Declares transition)
      (· = automaton.connect transition) := by
  unfold insertTransition
  split
  · rename_i error refused
    apply Outcome.Guarded.of_refuse
    rw [← undeclared?_eq_none_iff, refused]
    exact Option.some_ne_none error
  · rename_i accepted
    have declared := undeclared?_eq_none_iff.mp accepted
    split
    · exact .of_succeeds declared rfl rfl
    · rw [lenient]
      exact .of_succeeds declared rfl rfl

theorem guarded_addPiece
    (lenient : automaton.strict = false)
    (piece : String) :
    (automaton.addPiece piece).Guarded
      (∃ transition, Transition.ofText? piece = some transition ∧ automaton.Declares transition)
      (· = automaton.connectAll (Transition.ofText? piece).toList) := by
  unfold addPiece
  cases read : Transition.ofText? piece with
  | some transition =>
      apply (guarded_insertTransition lenient transition).congr
      simp
  | none =>
      apply Outcome.Guarded.of_refuse
      simp

/-- A text of transitions is accepted when each of its pieces is. -/
theorem guarded_addTransitions
    (lenient : automaton.strict = false)
    (text : String) :
    (automaton.addTransitions text).Guarded
      (∀ piece ∈ Text.splitAtChar ';' text, ∃ transition,
        Transition.ofText? piece = some transition ∧ automaton.Declares transition)
      (· = automaton.connectAll ((Text.splitAtChar ';' text).filterMap Transition.ofText?)) := by
  apply Outcome.guarded_each_read
  intro earlier piece
  have stillLenient : (automaton.connectAll earlier).strict = false := by
    rw [connectAll_frame]
    exact lenient
  apply (guarded_addPiece stillLenient piece).congr
  simp only [declares_connectAll_iff]

/-- A list of transitions is accepted when each of them is declared. -/
theorem guarded_addAll
    (lenient : automaton.strict = false)
    (transitions : List Transition) :
    (automaton.addAll transitions).Guarded
      (∀ transition ∈ transitions, automaton.Declares transition.trimmed)
      (· = automaton.connectAll (transitions.map Transition.trimmed)) := by
  rw [← List.filterMap_eq_map]
  -- Every transition of the list can be read: as what is written down for it.
  have guarded : (automaton.addAll transitions).Guarded
      (∀ transition ∈ transitions, ∃ written,
        some transition.trimmed = some written ∧ automaton.Declares written)
      (· = automaton.connectAll (transitions.filterMap (some ∘ Transition.trimmed))) := by
    apply Outcome.guarded_each_read
    intro earlier transition
    have stillLenient : (automaton.connectAll earlier).strict = false := by
      rw [connectAll_frame]
      exact lenient
    apply (guarded_insertTransition stillLenient transition.trimmed).congr
    simp [declares_connectAll_iff]
  apply guarded.congr
  simp

theorem Declares.trimmed_eq
    {transition : Transition}
    (declares : automaton.Declares transition)
    (names : automaton.NamesTrimmed) :
    transition.trimmed = transition := by
  rw [Transition.trimmed, names.states _ declares.source, names.states _ declares.target,
    names.alphabet _ declares.symbol]

/-- Transitions between declared names are all written. -/
theorem addAll_of_declares
    {transitions : List Transition}
    (names : automaton.NamesTrimmed)
    (lenient : automaton.strict = false)
    (declares : ∀ transition ∈ transitions, automaton.Declares transition) :
    (automaton.addAll transitions).Succeeds ∧
      (automaton.addAll transitions).model = automaton.connectAll transitions := by
  have guarded := guarded_addAll lenient transitions
  have same : ∀ transition ∈ transitions, transition.trimmed = transition :=
    fun transition member => (declares transition member).trimmed_eq names
  have met : ∀ transition ∈ transitions, automaton.Declares transition.trimmed :=
    fun transition member => (same transition member).symm ▸ declares transition member
  have written : transitions.map Transition.trimmed = transitions := by
    rw [List.map_congr_left same, List.map_id']
  refine ⟨guarded.succeeds.mpr met, ?_⟩
  rw [guarded.model met, written]

/-! ## Reasons of refusals -/

/-- The error about final states names one that is not declared. -/
theorem error_setFinals
    {names : List String} {cause : ModelError}
    (refused : (automaton.setFinals names).error = some cause) :
    ∃ name ∈ names.map trim, name ∉ automaton.states ∧ cause = .unknownFinalState name := by
  unfold setFinals at refused
  split at refused
  · rename_i name unknown
    refine ⟨name, List.mem_of_find?_eq_some unknown, ?_, (Option.some.inj refused).symm⟩
    simpa using List.find?_some unknown
  · cases refused

/-- What a transition may run into is an undeclared name. -/
theorem kind_undeclared?
    {transition : Transition} {cause : ModelError}
    (refused : automaton.undeclared? transition = some cause) :
    cause.kind = .reference := by
  unfold undeclared? at refused
  split at refused
  · rw [← Option.some.inj refused]
    rfl
  · split at refused
    · rw [← Option.some.inj refused]
      rfl
    · split at refused
      · rw [← Option.some.inj refused]
        rfl
      · cases refused

/-- An automaton that is not strict only refuses a transition with an undeclared name. -/
theorem error_insertTransition
    (lenient : automaton.strict = false)
    (transition : Transition) :
    (automaton.insertTransition transition).error = automaton.undeclared? transition := by
  unfold insertTransition
  split
  · rename_i refused
    rw [refused]
    rfl
  · rename_i accepted
    rw [accepted, lenient]
    split <;> rfl

theorem undeclared?_connectAll (earlier : List Transition) (transition : Transition) :
    (automaton.connectAll earlier).undeclared? transition = automaton.undeclared? transition := by
  rw [connectAll_frame]
  rfl

/-- The error about a list of transitions is that of one of them. -/
theorem error_addAll
    (lenient : automaton.strict = false)
    {transitions : List Transition} {cause : ModelError}
    (refused : (automaton.addAll transitions).error = some cause) :
    ∃ transition ∈ transitions, automaton.undeclared? transition.trimmed = some cause := by
  have kept : ∀ reached (transition : Transition),
      (∃ earlier, reached = automaton.connectAll earlier) →
        ∃ earlier, (reached.insertTransition transition.trimmed).model =
          automaton.connectAll earlier := by
    rintro _ transition ⟨earlier, rfl⟩
    rcases (automaton.connectAll earlier).model_insertTransition transition.trimmed with
      same | ⟨_, written⟩
    · exact ⟨earlier, same⟩
    · exact ⟨earlier ++ [transition.trimmed], by rw [written, connectAll_concat]⟩
  rcases Outcome.error_each _ kept ⟨[], rfl⟩ refused with
    ⟨_, ⟨earlier, rfl⟩, transition, member, stopped⟩
  have stillLenient : (automaton.connectAll earlier).strict = false := by
    rw [connectAll_frame]
    exact lenient
  refine ⟨transition, member, ?_⟩
  rw [← undeclared?_connectAll earlier, ← error_insertTransition stillLenient]
  exact stopped

end Automaton

end RegularModels
