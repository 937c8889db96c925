import RegularModels.Automaton.Machine

/-!
# Acceptance of words

A word, which is any list of symbols, is accepted when a machine that has been reset
processes its symbols one at a time, refuses none of them and ends in a final state.
`AcceptsFrom` follows the word from any state by recursion.  The run that tries a
text does the same, so `accepts_text_iff` says that trying a text asks for the
acceptance of its characters.
-/

namespace RegularModels

/-- The machine processes every symbol of the word in turn, and none is refused. -/
inductive Machine.Consumes : Machine → List String → Machine → Prop where
  | nil (machine : Machine) : Machine.Consumes machine [] machine
  | cons {machine next last : Machine} {run : Run} {symbol : String} {rest : List String} :
      machine.process symbol = (next, .moved run) → Machine.Consumes next rest last →
        Machine.Consumes machine (symbol :: rest) last

namespace Automaton

/-- The word is processed after a reset, and the run ends in a final state. -/
def Accepts (automaton : Automaton) (word : List String) : Prop :=
  ∃ last, (Machine.reset { automaton }).Consumes word last ∧
    automaton.isFinal last.current = true

/-- The word is consumed from a state and leads to a final state. -/
def AcceptsFrom (automaton : Automaton) (state : String) : List String → Prop
  | [] => state ∈ automaton.finals
  | symbol :: rest =>
      ∃ next, automaton.step? state symbol = some next ∧ automaton.AcceptsFrom next rest

variable {automaton : Automaton}

/-! ## Processing symbols one at a time -/

theorem process_of_moved
    {run next : Run} {symbol : String}
    (moved : automaton.advance run symbol = .moved next) :
    Machine.process ⟨automaton, run⟩ symbol = (⟨automaton, next⟩, .moved next) := by
  simp only [Machine.process, moved]

theorem advance_of_process
    {run moved : Run} {symbol : String} {next : Machine}
    (processed : Machine.process ⟨automaton, run⟩ symbol = (next, .moved moved)) :
    automaton.advance run symbol = .moved moved ∧ next = ⟨automaton, moved⟩ := by
  unfold Machine.process at processed
  cases advanced : automaton.advance run symbol with
  | notInitialized | refused state => simp [advanced] at processed
  | moved other =>
      rw [advanced] at processed
      cases processed
      exact ⟨rfl, rfl⟩

/-- A machine consumes what can be fed to its run. -/
theorem consumes_iff_feed
    {run : Run} {word : List String} {last : Machine} :
    Machine.Consumes ⟨automaton, run⟩ word last ↔
      (automaton.feed run word).2 = .finished ∧
        last = ⟨automaton, (automaton.feed run word).1⟩ := by
  induction word generalizing run with
  | nil =>
      constructor
      · intro consumed
        cases consumed with
        | nil => exact ⟨rfl, rfl⟩
      · rintro ⟨_, rfl⟩
        exact .nil _
  | cons symbol rest ih =>
      constructor
      · intro consumed
        cases consumed with
        | cons processed further =>
            rcases advance_of_process processed with ⟨moved, rfl⟩
            rw [feed, moved]
            exact ih.mp further
      · rintro ⟨finished, equal⟩
        rw [feed] at finished equal
        cases advanced : automaton.advance run symbol with
        | notInitialized | refused state => simp [advanced] at finished
        | moved next =>
            rw [advanced] at finished equal
            exact .cons (process_of_moved advanced) (ih.mpr ⟨finished, equal⟩)

/-- A word is accepted when all its symbols are consumed and the run ends in a final state. -/
theorem accepts_iff_feed (automaton : Automaton) (word : List String) :
    automaton.Accepts word ↔
      (automaton.feed automaton.start word).2 = .finished ∧
        automaton.isFinal (automaton.feed automaton.start word).1.current = true := by
  have consumes : ∀ last, (Machine.reset { automaton }).Consumes word last ↔ _ :=
    fun last => consumes_iff_feed
  constructor
  · rintro ⟨last, consumed, final⟩
    rcases (consumes last).mp consumed with ⟨finished, rfl⟩
    exact ⟨finished, final⟩
  · rintro ⟨finished, final⟩
    exact ⟨_, (consumes _).mpr ⟨finished, rfl⟩, final⟩

/-! ## Following a word from a state -/

/-- Feeding symbols to a run is following transitions from its state. -/
theorem feed_iff_acceptsFrom
    {run : Run} {state : String}
    (current : run.current = some state)
    (word : List String) :
    ((automaton.feed run word).2 = .finished ∧
        automaton.isFinal (automaton.feed run word).1.current = true) ↔
      automaton.AcceptsFrom state word := by
  induction word generalizing run state with
  | nil => simp [feed, AcceptsFrom, isFinal, current]
  | cons symbol rest ih =>
      cases stepped : automaton.step? state symbol with
      | none => simp [feed, advance, current, stepped, AcceptsFrom]
      | some next =>
          have moved : automaton.advance run symbol = .moved (run.visit next symbol) := by
            simp [advance, current, stepped]
          simp only [feed, moved, AcceptsFrom, stepped, Option.some.injEq, exists_eq_left']
          exact ih (Run.current_visit run next symbol)

/-- An automaton accepts what it accepts from its initial state. -/
theorem accepts_iff_acceptsFrom
    {state : String}
    (initial : automaton.initial = some state)
    (word : List String) :
    automaton.Accepts word ↔ automaton.AcceptsFrom state word := by
  rw [accepts_iff_feed]
  apply feed_iff_acceptsFrom
  rw [start, initial, Run.current_start]

/-! ## Trying a text -/

/-- Trying a text asks whether the word of its characters is accepted. -/
theorem accepts_text_iff (automaton : Automaton) (text : String) :
    automaton.accepts text = true ↔ automaton.Accepts (symbols text) := by
  rw [accepts_iff_feed]
  unfold accepts recognize attempt
  rcases automaton.feed automaton.start (symbols text) with ⟨run, halt⟩
  cases halt <;> simp [Recognition.accepted]

/-- Automata that accept the same words give the same answer to every text. -/
theorem accepts_text_congr
    {left right : Automaton}
    (same : ∀ word, left.Accepts word ↔ right.Accepts word)
    (text : String) :
    left.accepts text = right.accepts text := by
  rw [Bool.eq_iff_iff, accepts_text_iff, accepts_text_iff]
  exact same _

end Automaton

end RegularModels
