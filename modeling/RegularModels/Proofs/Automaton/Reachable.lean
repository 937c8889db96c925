import RegularModels.Automaton.Machine
import RegularModels.Proofs.Changes
import RegularModels.Proofs.Text.Trimmed

/-!
# Machines and automata that can be built

A machine is reachable when some history of operations makes it of a new one; an
operation that is refused belongs to the history with what it left behind.  An
automaton is built when it is that of a reachable machine.  Operations that run the
machine leave its automaton alone, and all states and symbols of a built automaton are
trimmed.
-/

namespace RegularModels

open Text (Trimmed trimmed_of_mem_ofList_trim)

/-- The machines that histories of operations make of new ones. -/
inductive Machine.Reachable : Machine → Prop where
  | new (name : String) (strict : Bool) : Machine.Reachable (.new name strict)
  | apply {machine : Machine}
      (reachable : Machine.Reachable machine)
      (operation : Machine.Operation) :
      Machine.Reachable (machine.apply operation).model

/-- What a list of operations makes of the machine of a new automaton. -/
def Machine.after (name : String) (operations : List Machine.Operation) : Machine :=
  operations.foldl (fun machine operation => (machine.apply operation).model)
    (.new name false)

theorem Machine.reachable_after (name : String) (operations : List Machine.Operation) :
    (Machine.after name operations).Reachable := by
  apply List.foldlRecOn
  · exact .new name false
  · intro machine reachable operation _
    exact reachable.apply operation

/-! ## Operations that run a machine -/

namespace Machine

/-- The operation runs the machine and leaves its automaton alone. -/
def Operation.Runs : Operation → Prop
  | reset | process _ | recognize _ => True
  | setStates _ | setAlphabet _ | setInitial _ | setFinals _ => False
  | addTransition .. | addTransitions _ => False

instance : DecidablePred Operation.Runs
  | .reset | .process _ | .recognize _ => isTrue trivial
  | .setStates _ | .setAlphabet _ | .setInitial _ | .setFinals _ => isFalse id
  | .addTransition .. | .addTransitions _ => isFalse id

/-- The machine behind a history of operations; a refused one leaves behind what it does. -/
def behind (machine : Machine) (history : List Operation) : Machine :=
  history.foldl (fun reached operation => (reached.apply operation).model) machine

theorem automaton_apply_of_runs
    {operation : Operation}
    (runs : operation.Runs)
    (machine : Machine) :
    (machine.apply operation).model.automaton = machine.automaton := by
  cases operation with
  | reset | recognize => rfl
  | process symbol =>
      simp only [apply, process]
      cases machine.automaton.advance machine.run symbol <;> rfl
  | setStates | setAlphabet | setInitial | setFinals | addTransition | addTransitions =>
      exact runs.elim

/-- Histories that only run do not change the automaton. -/
theorem automaton_behind_of_runs
    {history : List Operation}
    (runs : ∀ operation ∈ history, operation.Runs)
    (machine : Machine) :
    (machine.behind history).automaton = machine.automaton := by
  induction history generalizing machine with
  | nil => rfl
  | cons operation rest ih =>
      rw [List.forall_mem_cons] at runs
      rw [behind, List.foldl_cons, ← behind, ih runs.2, automaton_apply_of_runs runs.1]

end Machine

namespace Automaton

/-- The automaton is that of a reachable machine. -/
def Built (automaton : Automaton) : Prop :=
  ∃ run, Machine.Reachable ⟨automaton, run⟩

variable {automaton : Automaton} {Holds : Automaton → Prop}

/-! ## Adding a transition -/

/-- What is announced about the previous target of a pair, if there is one. -/
def overwriting (automaton : Automaton) (transition : Transition) : List Event :=
  match automaton.target? transition.source transition.symbol with
  | none => []
  | some previous =>
      [.transitionOverwrite automaton.name transition.source transition.symbol previous
        transition.target]

/--
A transition is refused, or its names are declared, the pair is new if the automaton is
strict, and it is written and its previous target announced.
-/
theorem insertTransition_cases (automaton : Automaton) (transition : Transition) :
    (∃ error, automaton.insertTransition transition = .refuse automaton error) ∨
      automaton.undeclared? transition = none ∧
        (automaton.strict = true →
          automaton.target? transition.source transition.symbol = none) ∧
        automaton.insertTransition transition =
          .announce (automaton.connect transition) (automaton.overwriting transition) := by
  unfold insertTransition overwriting
  cases automaton.undeclared? transition with
  | some error => exact .inl ⟨error, rfl⟩
  | none =>
      cases automaton.target? transition.source transition.symbol with
      | none => exact .inr ⟨rfl, fun _ => rfl, rfl⟩
      | some previous =>
          cases automaton.strict with
          | false => exact .inr ⟨rfl, fun strict => absurd strict Bool.false_ne_true, rfl⟩
          | true => exact .inl ⟨_, rfl⟩

/-- A transition is refused, with nothing changed, or it is accepted. -/
theorem refused_or_succeeds (automaton : Automaton) (transition : Transition) :
    (∃ error, automaton.insertTransition transition = .refuse automaton error) ∨
      (automaton.insertTransition transition).Succeeds := by
  rcases automaton.insertTransition_cases transition with refused | ⟨_, _, written⟩
  · exact .inl refused
  · rw [written]
    exact .inr rfl

theorem model_insertTransition (automaton : Automaton) (transition : Transition) :
    (automaton.insertTransition transition).model = automaton ∨
      (automaton.insertTransition transition).Succeeds ∧
        (automaton.insertTransition transition).model = automaton.connect transition := by
  rcases automaton.insertTransition_cases transition with ⟨error, refused⟩ | ⟨_, _, written⟩
  · rw [refused]
    exact .inl rfl
  · rw [written]
    exact .inr ⟨rfl, rfl⟩

section Accepted

variable {transition : Transition}

/-- What is accepted is declared, replaces nothing in a strict automaton, and is connected. -/
theorem accepted_of_succeeds
    (accepted : (automaton.insertTransition transition).Succeeds) :
    automaton.undeclared? transition = none ∧
      (automaton.strict = true →
        automaton.target? transition.source transition.symbol = none) ∧
      automaton.insertTransition transition =
        .announce (automaton.connect transition) (automaton.overwriting transition) := by
  apply (automaton.insertTransition_cases transition).resolve_left
  rintro ⟨error, refused⟩
  rw [refused] at accepted
  exact Outcome.not_succeeds_refuse _ _ accepted

theorem undeclared?_of_succeeds
    (accepted : (automaton.insertTransition transition).Succeeds) :
    automaton.undeclared? transition = none :=
  (accepted_of_succeeds accepted).1

/-- A strict automaton accepts new pairs only. -/
theorem target?_eq_none_of_strict
    (strict : automaton.strict = true)
    (accepted : (automaton.insertTransition transition).Succeeds) :
    automaton.target? transition.source transition.symbol = none :=
  (accepted_of_succeeds accepted).2.1 strict

theorem insertTransition_of_succeeds
    (accepted : (automaton.insertTransition transition).Succeeds) :
    automaton.insertTransition transition =
      .announce (automaton.connect transition) (automaton.overwriting transition) :=
  (accepted_of_succeeds accepted).2.2

end Accepted

/-! ## What every change keeps -/

/-- The property is kept by each single change that is accepted. -/
structure Kept (Holds : Automaton → Prop) : Prop where
  setStates : ∀ automaton names, Holds automaton → Holds (automaton.setStates names)
  setAlphabet : ∀ automaton symbols, Holds automaton → Holds (automaton.setAlphabet symbols)
  initial : ∀ automaton, ∀ state ∈ automaton.states, Holds automaton →
    Holds { automaton with initial := some state }
  finals : ∀ automaton finals, Holds automaton → Holds { automaton with finals }
  connect : ∀ automaton transition, (automaton.insertTransition transition).Succeeds →
    Holds automaton → Holds (automaton.connect transition)

theorem Kept.insertTransition
    (kept : Kept Holds)
    (holds : Holds automaton)
    (transition : Transition) :
    Holds (automaton.insertTransition transition).model := by
  rcases automaton.model_insertTransition transition with same | ⟨accepted, written⟩
  · rw [same]
    exact holds
  · rw [written]
    exact kept.connect automaton transition accepted holds

/-- What accepted transitions keep, a piece of a text keeps. -/
theorem Kept.addPiece
    (kept : Kept Holds)
    (holds : Holds automaton)
    (piece : String) :
    Holds (automaton.addPiece piece).model := by
  unfold Automaton.addPiece
  split
  · exact kept.insertTransition holds _
  · exact holds

/-- Every operation keeps what the single changes keep, also when it is refused. -/
theorem Kept.apply
    (kept : Kept Holds)
    {machine : Machine}
    (holds : Holds machine.automaton)
    (operation : Machine.Operation) :
    Holds (machine.apply operation).model.automaton := by
  cases operation with
  | setStates names => exact kept.setStates _ names holds
  | setAlphabet symbols => exact kept.setAlphabet _ symbols holds
  | setInitial name =>
      simp only [Machine.apply, Machine.withAutomaton, Outcome.map, setInitial]
      split
      · exact kept.initial _ _ ‹_› holds
      · exact holds
  | setFinals names =>
      simp only [Machine.apply, Machine.withAutomaton, Outcome.map, setFinals]
      split
      · exact holds
      · exact kept.finals _ _ holds
  | addTransition source symbol target => exact kept.insertTransition holds _
  | addTransitions text =>
      exact Outcome.each_model_of Holds (fun _ piece held => kept.addPiece held piece) holds _
  | reset | process | recognize =>
      rw [Machine.automaton_apply_of_runs (by exact trivial)]
      exact holds

/-- What accepted changes keep, every history keeps. -/
theorem Kept.behind
    (kept : Kept Holds)
    {machine : Machine}
    (holds : Holds machine.automaton)
    (history : List Machine.Operation) :
    Holds (machine.behind history).automaton := by
  apply List.foldlRecOn (motive := fun reached : Machine => Holds reached.automaton)
  · exact holds
  · intro reached held operation _
    exact kept.apply held operation

/-- What new automata have and accepted changes keep, every built automaton has. -/
theorem Kept.of_built
    (kept : Kept Holds)
    (new : ∀ name strict, Holds { name, strict })
    (built : automaton.Built) :
    Holds automaton := by
  rcases built with ⟨run, reachable⟩
  have reached : ∀ machine : Machine, machine.Reachable → Holds machine.automaton := by
    intro machine reachable
    induction reachable with
    | new name strict => exact new name strict
    | apply _ operation ih => exact kept.apply ih operation
  exact reached _ reachable

/-! ## Trimmed names -/

/-- All states and symbols are trimmed. -/
structure NamesTrimmed (automaton : Automaton) : Prop where
  states : ∀ state ∈ automaton.states, Trimmed state
  alphabet : ∀ symbol ∈ automaton.alphabet, Trimmed symbol

/--
The initial state and the sources of the transitions are trimmed as well, although they
may not be declared any more.
-/
structure ReferencesTrimmed (automaton : Automaton) : Prop where
  names : automaton.NamesTrimmed
  initial : ∀ state, automaton.initial = some state → Trimmed state
  sources : ∀ pair ∈ automaton.transitions, Trimmed pair.1

/-- What is referred to was declared, and so trimmed, at the time when it was chosen. -/
theorem kept_referencesTrimmed : Kept ReferencesTrimmed where
  setStates _ _ trimmed :=
    { trimmed with
      names := ⟨fun _ member => trimmed_of_mem_ofList_trim member, trimmed.names.alphabet⟩ }
  setAlphabet _ _ trimmed :=
    { trimmed with
      names := ⟨trimmed.names.states, fun _ member => trimmed_of_mem_ofList_trim member⟩ }
  initial _ state member trimmed :=
    { trimmed with
      names := ⟨trimmed.names.states, trimmed.names.alphabet⟩
      initial := fun _ chosen => Option.some.inj chosen ▸ trimmed.names.states state member }
  finals _ _ trimmed :=
    { trimmed with names := ⟨trimmed.names.states, trimmed.names.alphabet⟩ }
  connect automaton transition accepted trimmed := by
    have source : transition.source ∈ automaton.states := by
      have declared := undeclared?_of_succeeds accepted
      unfold undeclared? at declared
      split at declared
      · cases declared
      · exact Decidable.not_not.mp ‹_›
    refine ⟨⟨trimmed.names.states, trimmed.names.alphabet⟩, trimmed.initial, ?_⟩
    intro pair member
    rcases Table.mem_insert.mp member with rfl | earlier
    · exact trimmed.names.states _ source
    · exact trimmed.sources pair earlier

/-- Built automata refer to names without blanks around them. -/
theorem Built.referencesTrimmed
    (built : automaton.Built) :
    automaton.ReferencesTrimmed := by
  apply kept_referencesTrimmed.of_built _ built
  intro name strict
  exact ⟨by constructor <;> simp, by simp, fun _ member => absurd member List.not_mem_nil⟩

/-- All states and symbols of a built automaton are trimmed. -/
theorem Built.namesTrimmed
    (built : automaton.Built) :
    automaton.NamesTrimmed :=
  built.referencesTrimmed.names

end Automaton

end RegularModels
