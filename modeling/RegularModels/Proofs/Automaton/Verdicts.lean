import RegularModels.Proofs.Automaton.Recognition

/-!
# Verdicts on words

A word that is tried is either answered with an error, and then nothing is accepted,
reached or announced, or it is followed to a state, which is told and announced.  The
empty word on an automaton without an initial state is the only one that gets neither: no
symbol of it asks for the current state that is missing, so it is announced as consumed
although it has led nowhere.
-/

namespace RegularModels

namespace Automaton

variable {automaton : Automaton} {answer : Recognition}

/-! ## What is announced -/

/-- The word and the state are announced when there is no error. -/
theorem recognitionEvents_of_error_eq_none (fine : answer.error = none) :
    automaton.recognitionEvents answer =
      [.wordRecognized automaton.name answer.word answer.accepted answer.finalState] := by
  unfold Recognition.error at fine
  unfold recognitionEvents Recognition.accepted Recognition.finalState
  cases ended : answer.verdict with
  | finished state accepted => rfl
  | stuck symbol state | notInitialized =>
      rw [ended] at fine
      cases fine

theorem recognitionEvents_of_error
    {message : String}
    (failed : answer.error = some message) :
    automaton.recognitionEvents answer = [] := by
  unfold Recognition.error at failed
  unfold recognitionEvents
  cases ended : answer.verdict with
  | finished state accepted =>
      rw [ended] at failed
      cases failed
  | stuck symbol state | notInitialized => rfl

end Automaton

theorem symbols_eq_nil_iff {word : String} : symbols word = [] ↔ word = "" := by
  rw [symbols, List.map_eq_nil_iff, String.toList_eq_nil_iff]

namespace Machine

/-! ## Verdicts -/

/-- The word is answered with an error: it is not accepted, leads nowhere, and is not announced. -/
structure FailsOn (machine : Machine) (word message : String) : Prop where
  error : (machine.recognize word).2.error = some message
  accepted : (machine.recognize word).2.accepted = false
  finalState : (machine.recognize word).2.finalState = none
  silent : (machine.apply (.recognize word)).events = []

/-- The word leads to a state, without an error, and is announced with it once. -/
structure EndsIn (machine : Machine) (word state : String) : Prop where
  error : (machine.recognize word).2.error = none
  finalState : (machine.recognize word).2.finalState = some state
  announced : (machine.apply (.recognize word)).events =
    [.wordRecognized machine.automaton.name word (machine.recognize word).2.accepted (some state)]

/-- The word has neither an error nor a state to end in, and is announced all the same. -/
structure LeavesOpen (machine : Machine) (word : String) : Prop where
  error : (machine.recognize word).2.error = none
  accepted : (machine.recognize word).2.accepted = false
  finalState : (machine.recognize word).2.finalState = none
  announced : (machine.apply (.recognize word)).events =
    [.wordRecognized machine.automaton.name word false none]

variable {machine : Machine} {word : String}

theorem EndsIn.not_failsOn
    {state message : String}
    (ends : machine.EndsIn word state) :
    ¬machine.FailsOn word message := by
  intro fails
  exact absurd (ends.error.symm.trans fails.error) (Option.some_ne_none message).symm

/-- A word that is answered without an error is announced with its answer. -/
theorem events_of_error_eq_none
    (fine : (machine.recognize word).2.error = none) :
    (machine.apply (.recognize word)).events =
      [.wordRecognized machine.automaton.name word (machine.recognize word).2.accepted
        (machine.recognize word).2.finalState] :=
  Automaton.recognitionEvents_of_error_eq_none fine

/-- A word all of whose symbols are read ends in the state that it reaches. -/
theorem endsIn_of_reached?
    {state : String}
    (reaches : machine.automaton.reached? (symbols word) = some state) :
    machine.EndsIn word state := by
  have answered := Automaton.answeredBy_of_reached? reaches
  rcases answered.finished rfl with ⟨other, same, fine, told, _⟩
  cases reaches.symm.trans same
  refine ⟨fine, told, ?_⟩
  rw [events_of_error_eq_none fine]
  exact congrArg (fun final => [Event.wordRecognized _ _ _ final]) told

/-- A word that is refused somewhere is answered with the symbol and the state. -/
theorem exists_failsOn_of_reached?_eq_none
    {initial : String}
    (starts : machine.automaton.initial = some initial)
    (stops : machine.automaton.reached? (symbols word) = none) :
    ∃ message, machine.FailsOn word message := by
  rcases Automaton.exists_answeredBy starts word with ⟨consumed, answered⟩
  rcases Nat.lt_or_eq_of_le answered.within with shorter | whole
  · rcases answered.stopped shorter with ⟨state, symbol, _, _, rejected, nowhere, failed⟩
    exact ⟨_, failed, rejected, nowhere, Automaton.recognitionEvents_of_error failed⟩
  · rcases answered.finished whole with ⟨state, reaches, _⟩
    rw [stops] at reaches
    cases reaches

section Startless

variable (missing : machine.automaton.initial = none)
include missing

/-- Without an initial state, a word that is not empty fails. -/
theorem failsOn_of_initial_eq_none (some : word ≠ "") :
    machine.FailsOn word ModelError.notInitialized.message := by
  rcases Automaton.recognize_of_initial_eq_none missing word with ⟨rejected, nowhere, _⟩
  have failed : (machine.automaton.recognize word).error =
      Option.some ModelError.notInitialized.message := by
    rcases List.exists_cons_of_ne_nil (mt symbols_eq_nil_iff.mp some) with ⟨symbol, rest, cut⟩
    simp only [Automaton.recognize, Automaton.attempt, cut, Automaton.start, missing,
      Automaton.feed, Automaton.advance, Run.current_start, Recognition.error]
  exact ⟨failed, rejected, nowhere, Automaton.recognitionEvents_of_error failed⟩

/-- Without an initial state, nothing is asked of a state by the empty word. -/
theorem leavesOpen_of_initial_eq_none : machine.LeavesOpen "" := by
  rcases Automaton.recognize_of_initial_eq_none missing "" with ⟨rejected, nowhere, _⟩
  have fine : (machine.recognize "").2.error = none := rfl
  refine ⟨fine, rejected, nowhere, ?_⟩
  rw [events_of_error_eq_none fine]
  exact congrArg₂ (fun accepted final => [Event.wordRecognized _ _ accepted final])
    rejected nowhere

end Startless

/-! ## Exactly one verdict -/

theorem EndsIn.not_leavesOpen
    {state : String}
    (ends : machine.EndsIn word state) :
    ¬machine.LeavesOpen word := by
  intro leaves
  exact absurd (leaves.finalState.symm.trans ends.finalState) (Option.some_ne_none state).symm

theorem FailsOn.not_leavesOpen
    {message : String}
    (fails : machine.FailsOn word message) :
    ¬machine.LeavesOpen word := by
  intro leaves
  exact absurd (leaves.error.symm.trans fails.error) (Option.some_ne_none message).symm

/-- What becomes of a word is decided by the initial state and by where its symbols lead. -/
theorem verdict_cases (machine : Machine) (word : String) :
    (machine.automaton.initial = none ∧ word = "" ∧ machine.LeavesOpen word) ∨
      (∃ message, machine.FailsOn word message) ∨
        ∃ state, machine.automaton.reached? (symbols word) = some state := by
  cases starts : machine.automaton.initial with
  | none =>
      by_cases empty : word = ""
      · subst empty
        exact .inl ⟨rfl, rfl, leavesOpen_of_initial_eq_none starts⟩
      · exact .inr (.inl ⟨_, failsOn_of_initial_eq_none starts empty⟩)
  | some initial =>
      cases reaches : machine.automaton.reached? (symbols word) with
      | none => exact .inr (.inl (exists_failsOn_of_reached?_eq_none starts reaches))
      | some state => exact .inr (.inr ⟨state, rfl⟩)

/-- Only the empty word is left open, and only without an initial state. -/
theorem leavesOpen_iff :
    machine.LeavesOpen word ↔ machine.automaton.initial = none ∧ word = "" := by
  constructor
  · intro leaves
    rcases machine.verdict_cases word with
      ⟨missing, empty, _⟩ | ⟨message, fails⟩ | ⟨state, reaches⟩
    · exact ⟨missing, empty⟩
    · exact absurd leaves fails.not_leavesOpen
    · exact absurd leaves (endsIn_of_reached? reaches).not_leavesOpen
  · rintro ⟨missing, rfl⟩
    exact leavesOpen_of_initial_eq_none missing

/-- A word ends in a state exactly when its symbols lead there. -/
theorem endsIn_iff {state : String} :
    machine.EndsIn word state ↔ machine.automaton.reached? (symbols word) = some state := by
  constructor
  · intro ends
    rcases machine.verdict_cases word with ⟨_, _, leaves⟩ | ⟨message, fails⟩ | ⟨other, reaches⟩
    · exact absurd leaves ends.not_leavesOpen
    · exact absurd fails ends.not_failsOn
    · -- Both states are the one that is told.
      rw [reaches, ← (endsIn_of_reached? reaches).finalState]
      exact ends.finalState
  · exact endsIn_of_reached?

/--
A word is left open when it is empty and there is no initial state, and only then.  Every
other word has exactly one verdict: it fails with an error, which tells about the missing
initial state if there is none, or it ends in the state that its symbols lead to.
-/
theorem verdict_unless_open (machine : Machine) (word : String) :
    (machine.LeavesOpen word ↔ machine.automaton.initial = none ∧ word = "") ∧
    (¬machine.LeavesOpen word →
      ((∃ message, machine.FailsOn word message) ∧ ∀ state, ¬machine.EndsIn word state) ∨
        ((∃ state, machine.EndsIn word state) ∧ ∀ message, ¬machine.FailsOn word message)) ∧
    (machine.automaton.initial = none → word ≠ "" →
      machine.FailsOn word ModelError.notInitialized.message) ∧
    ∀ state, machine.EndsIn word state ↔
      machine.automaton.reached? (symbols word) = some state := by
  refine ⟨leavesOpen_iff, ?_, failsOn_of_initial_eq_none, fun _ => endsIn_iff⟩
  intro decided
  rcases machine.verdict_cases word with ⟨_, _, leaves⟩ | ⟨message, fails⟩ | ⟨state, reaches⟩
  · exact absurd leaves decided
  · exact .inl ⟨⟨message, fails⟩, fun state ends => ends.not_failsOn fails⟩
  · have ends := endsIn_of_reached? reaches
    exact .inr ⟨⟨state, ends⟩, fun message => ends.not_failsOn⟩

/-- A machine with a state, none of which has been chosen to begin in. -/
def startless : Machine :=
  .after "startless" [.setStates ["q0"], .setAlphabet ["a"]]

/-- A symbol is answered with the error about the missing initial state. -/
theorem verdict_unless_open_startless :
    startless.automaton.initial = none ∧ "a" ≠ "" ∧
      startless.FailsOn "a" "Automaton has not been initialized, call reset() first" := by
  have missing : startless.automaton.initial = none := by decide +kernel
  have some : "a" ≠ "" := by decide
  exact ⟨missing, some, (verdict_unless_open startless "a").2.2.1 missing some⟩

/-- The empty word is not answered with it: it has neither an error nor a state to end in. -/
theorem startless_without_verdict :
    startless.automaton.initial = none ∧
      (∀ message, ¬startless.FailsOn "" message) ∧ (∀ state, ¬startless.EndsIn "" state) ∧
        (startless.apply (.recognize "")).events =
          [.wordRecognized "startless" "" false none] := by
  have missing : startless.automaton.initial = none := by decide +kernel
  have leaves := leavesOpen_of_initial_eq_none missing
  exact ⟨missing, fun _ fails => fails.not_leavesOpen leaves,
    fun _ ends => ends.not_leavesOpen leaves, leaves.announced⟩

end Machine

end RegularModels
