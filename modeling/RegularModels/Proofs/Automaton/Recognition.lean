import Mathlib.Data.List.Induction
import RegularModels.Proofs.Automaton.Reachable

/-!
# Recognition of words

Trying a word follows the transitions from the initial state as far as they go: up to
the first symbol that is not in the alphabet or has no target in the state reached so
far.  `reached?` is the state that symbols lead to; it is found from the table alone.
The answer tells how far the word was consumed and which states were visited on the way,
and it is the same whatever runs the machine has gone through before.
-/

namespace RegularModels

/-! ## Symbols in turn -/

namespace Machine

/-- Process symbols one after the other, up to the first that is not consumed. -/
def processAll (machine : Machine) : List String → Machine
  | [] => machine
  | symbol :: rest =>
    match machine.process symbol with
    | (next, .moved _) => next.processAll rest
    | (next, .refused _) | (next, .notInitialized) => next

/-- Processing symbols in turn is feeding them to the run. -/
theorem processAll_eq (machine : Machine) (symbols : List String) :
    machine.processAll symbols =
      { machine with run := (machine.automaton.feed machine.run symbols).1 } := by
  induction symbols generalizing machine with
  | nil => rfl
  | cons symbol rest ih =>
      simp only [processAll, process, Automaton.feed]
      cases machine.automaton.advance machine.run symbol with
      | notInitialized | refused state => rfl
      | moved next => exact ih { machine with run := next }

end Machine

namespace Automaton

/-! ## The state that symbols lead to -/

/--
The state that symbols lead to from the initial state, if each of them is in the
alphabet and has a target in the state that the symbols before it lead to.
-/
def reached? (automaton : Automaton) (symbols : List String) : Option String :=
  symbols.foldl
    (fun state? symbol => state?.bind fun state =>
      if symbol ∈ automaton.alphabet then automaton.transitions.get? (state, symbol) else none)
    automaton.initial

variable {automaton : Automaton} {symbols : List String} {state symbol : String}

/-- One more symbol is one more step from the state that was reached. -/
theorem reached?_concat (symbols : List String) (symbol : String) :
    automaton.reached? (symbols ++ [symbol]) =
      (automaton.reached? symbols).bind fun state => automaton.step? state symbol := by
  rw [reached?, List.foldl_append]
  rfl

theorem reached?_concat_of_some
    (reaches : automaton.reached? symbols = some state)
    (symbol : String) :
    automaton.reached? (symbols ++ [symbol]) = automaton.step? state symbol := by
  rw [reached?_concat, reaches, Option.bind_some]

/-- When symbols lead nowhere, more of them do not either. -/
theorem reached?_append_of_none
    (stops : automaton.reached? symbols = none)
    (rest : List String) :
    automaton.reached? (symbols ++ rest) = none := by
  induction rest using List.reverseRecOn with
  | nil => rwa [List.append_nil]
  | append_singleton rest symbol ih =>
      rw [← List.append_assoc, reached?_concat, ih, Option.bind_none]

/-- When symbols lead to a state, so do the first of them, however many. -/
theorem isSome_reached?_take
    (reaches : automaton.reached? symbols = some state)
    (count : Nat) :
    (automaton.reached? (symbols.take count)).isSome := by
  rw [Option.isSome_iff_ne_none]
  intro stops
  have whole := reached?_append_of_none stops (symbols.drop count)
  rw [List.take_append_drop, reaches] at whole
  cases whole

/-- Symbols that lead nowhere are led to some state up to one that stops there. -/
theorem exists_stop_of_reached?_eq_none
    {initial : String}
    (starts : automaton.initial = some initial)
    (stops : automaton.reached? symbols = none) :
    ∃ front symbol rest state, symbols = front ++ symbol :: rest ∧
      automaton.reached? front = some state ∧ automaton.step? state symbol = none := by
  induction symbols using List.reverseRecOn with
  | nil => exact absurd (starts.symm.trans stops) (Option.some_ne_none initial)
  | append_singleton symbols last ih =>
      cases before : automaton.reached? symbols with
      | none =>
          rcases ih before with ⟨front, symbol, rest, state, rfl, reaches, refused⟩
          exact ⟨front, symbol, rest ++ [last], state, by simp, reaches, refused⟩
      | some state =>
          rw [reached?_concat_of_some before] at stops
          exact ⟨symbols, last, [], state, rfl, before, stops⟩

/-- Where a symbol stops is how far the symbols can be followed. -/
theorem isSome_reached?_take_iff
    {front rest : List String}
    (reaches : automaton.reached? front = some state)
    (refused : automaton.step? state symbol = none)
    (count : Nat) :
    (automaton.reached? ((front ++ symbol :: rest).take count)).isSome ↔ count ≤ front.length := by
  constructor
  · intro some
    by_contra longer
    have split : (front ++ symbol :: rest).take count =
        front ++ [symbol] ++ rest.take (count - (front.length + 1)) := by
      have whole : front ++ symbol :: rest = front ++ [symbol] ++ rest := by simp
      rw [whole, List.take_append, List.take_of_length_le]
      · simp
      · simp only [List.length_append, List.length_singleton]
        omega
    have stops : automaton.reached? (front ++ [symbol]) = none := by
      rw [reached?_concat_of_some reaches, refused]
    rw [split, reached?_append_of_none stops] at some
    cases some
  · intro within
    rw [List.take_append_of_le_length within]
    exact isSome_reached?_take reaches count

/-! ## The path along symbols -/

/--
The path begins in the initial state and tells of each of the symbols in turn which
state they have led to with it.
-/
structure Follows
    (automaton : Automaton) (symbols : List String) (path : List Visit) : Prop where
  length : path.length = symbols.length + 1
  first : ∀ initial, automaton.initial = some initial → path[0]? = some ⟨initial, none, 0⟩
  later : ∀ place symbol, symbols[place]? = some symbol →
    ∃ state, automaton.reached? (symbols.take (place + 1)) = some state ∧
      path[place + 1]? = some ⟨state, some symbol, place + 1⟩

theorem follows_nil
    {initial : String}
    (starts : automaton.initial = some initial) :
    automaton.Follows [] automaton.start.path := by
  constructor
  · rw [start, starts]
    rfl
  · intro other same
    rw [start, same]
    rfl
  · intro place symbol found
    simp at found

/-- One more symbol adds the visit of the state that it leads to. -/
theorem Follows.concat
    {path : List Visit}
    (follows : automaton.Follows symbols path)
    (reaches : automaton.reached? (symbols ++ [symbol]) = some state) :
    automaton.Follows (symbols ++ [symbol]) (path ++ [⟨state, some symbol, path.length⟩]) := by
  constructor
  · simp [follows.length]
  · intro initial starts
    rw [List.getElem?_append_left (by rw [follows.length]; omega)]
    exact follows.first initial starts
  · intro place other found
    rcases Nat.lt_or_ge place symbols.length with earlier | last
    · rw [List.getElem?_append_left earlier] at found
      rw [List.take_append_of_le_length earlier,
        List.getElem?_append_left (by rw [follows.length]; omega)]
      exact follows.later place other found
    · have inside := (List.getElem?_eq_some_iff.mp found).1
      rw [List.length_append, List.length_singleton] at inside
      have placeEq : place = symbols.length := by omega
      subst placeEq
      rw [List.getElem?_concat_length, Option.some.injEq] at found
      subst found
      refine ⟨state, ?_, ?_⟩
      · rw [List.take_of_length_le (by simp), reaches]
      · rw [← follows.length, List.getElem?_concat_length]

/-- Symbols in two parts are fed one part after the other, unless one of them is refused. -/
theorem feed_append_of_finished
    {run next : Run} {left : List String}
    (finished : automaton.feed run left = (next, .finished))
    (right : List String) :
    automaton.feed run (left ++ right) = automaton.feed next right := by
  induction left generalizing run with
  | nil =>
      cases finished
      rfl
  | cons symbol rest ih =>
      rw [feed] at finished
      rw [List.cons_append, feed]
      cases advanced : automaton.advance run symbol with
      | notInitialized | refused state =>
          rw [advanced] at finished
          cases finished
      | moved moved =>
          rw [advanced] at finished
          exact ih finished

theorem advance_of_current
    {run : Run}
    (stands : run.current = some state)
    (symbol : String) :
    automaton.advance run symbol =
      match automaton.step? state symbol with
      | none => .refused state
      | some next => .moved (run.visit next symbol) := by
  cases found : automaton.step? state symbol <;> simp only [advance, stands, found]

/-- Symbols that lead to a state are consumed, and the run then stands there. -/
theorem exists_feed_of_reached?
    (reaches : automaton.reached? symbols = some state) :
    ∃ run, automaton.feed automaton.start symbols = (run, .finished) ∧
      run.current = some state ∧ automaton.Follows symbols run.path := by
  induction symbols using List.reverseRecOn generalizing state with
  | nil =>
      have starts : automaton.initial = some state := reaches
      refine ⟨automaton.start, rfl, ?_, follows_nil starts⟩
      rw [start, Run.current_start, starts]
  | append_singleton symbols symbol ih =>
      cases before : automaton.reached? symbols with
      | none =>
          rw [reached?_append_of_none before] at reaches
          cases reaches
      | some previous =>
          rcases ih before with ⟨run, finished, stands, follows⟩
          have stepped := reached?_concat_of_some before symbol
          rw [reaches] at stepped
          refine ⟨run.visit state symbol, ?_, Run.current_visit run state symbol, ?_⟩
          · rw [feed_append_of_finished finished, feed, advance_of_current stands, ← stepped]
            rfl
          · rw [Run.path_visit]
            exact follows.concat reaches

/-! ## Answers to words -/

/--
The answer tells that the automaton can follow so many of the symbols and not one more,
which states it visits on the way, and what comes of it: the state at the end and whether
it is final, or else the symbol and the state where it stops.
-/
structure AnsweredBy
    (automaton : Automaton) (letters : List String) (consumed : Nat) (answer : Recognition) :
    Prop where
  within : consumed ≤ letters.length
  longest : ∀ count ≤ letters.length,
    (automaton.reached? (letters.take count)).isSome ↔ count ≤ consumed
  path : automaton.Follows (letters.take consumed) answer.path
  finished : consumed = letters.length →
    ∃ state, automaton.reached? letters = some state ∧
      answer.error = none ∧ answer.finalState = some state ∧
        (answer.accepted = true ↔ state ∈ automaton.finals)
  stopped : consumed < letters.length →
    ∃ state symbol, automaton.reached? (letters.take consumed) = some state ∧
      letters[consumed]? = some symbol ∧
        answer.accepted = false ∧ answer.finalState = none ∧
          answer.error = some s!"No transition defined for symbol '{symbol}' from state '{state}'"

/-- A word all of whose symbols are read is answered by its whole run. -/
theorem answeredBy_of_reached?
    {word : String}
    (reaches : automaton.reached? (RegularModels.symbols word) = some state) :
    automaton.AnsweredBy (RegularModels.symbols word) (RegularModels.symbols word).length
      (automaton.recognize word) := by
  rcases exists_feed_of_reached? reaches with ⟨run, finished, stands, follows⟩
  have answer : automaton.recognize word =
      ⟨word, .finished (some state) (state ∈ automaton.finals), run.path⟩ := by
    simp only [recognize, attempt, finished, stands, isFinal]
  rw [answer]
  constructor
  · exact Nat.le_refl _
  · exact fun count within => iff_of_true (isSome_reached?_take reaches count) within
  · rw [List.take_length]
    exact follows
  · exact fun _ => ⟨state, reaches, rfl, rfl, decide_eq_true_iff⟩
  · exact fun shorter => absurd shorter (Nat.lt_irrefl _)

/-- A word is answered by its run up to the first symbol that cannot be read. -/
theorem answeredBy_of_stop
    {word : String} {front rest : List String}
    (cut : RegularModels.symbols word = front ++ symbol :: rest)
    (reaches : automaton.reached? front = some state)
    (refused : automaton.step? state symbol = none) :
    automaton.AnsweredBy (RegularModels.symbols word) front.length
      (automaton.recognize word) := by
  rcases exists_feed_of_reached? reaches with ⟨run, finished, stands, follows⟩
  have stopped : automaton.feed automaton.start (RegularModels.symbols word) =
      (run, .refused symbol state) := by
    rw [cut, feed_append_of_finished finished, feed, advance_of_current stands, refused]
  have answer : automaton.recognize word = ⟨word, .stuck symbol state, run.path⟩ := by
    simp only [recognize, attempt, stopped]
  rw [answer, cut]
  constructor
  · simp
  · exact fun count _ => isSome_reached?_take_iff reaches refused count
  · rw [List.take_left]
    exact follows
  · intro whole
    simp at whole
  · intro _
    refine ⟨state, symbol, ?_, ?_, rfl, rfl, rfl⟩
    · rw [List.take_left, reaches]
    · rw [List.getElem?_append_right (Nat.le_refl _), Nat.sub_self]
      rfl

/-- With an initial state, every word is answered by some part of it. -/
theorem exists_answeredBy
    {initial : String}
    (starts : automaton.initial = some initial)
    (word : String) :
    ∃ consumed, automaton.AnsweredBy (RegularModels.symbols word) consumed
      (automaton.recognize word) := by
  cases reaches : automaton.reached? (RegularModels.symbols word) with
  | some state => exact ⟨_, answeredBy_of_reached? reaches⟩
  | none =>
      rcases exists_stop_of_reached?_eq_none starts reaches with
        ⟨front, symbol, rest, state, cut, frontReaches, refused⟩
      exact ⟨_, answeredBy_of_stop cut frontReaches refused⟩

/-- Without an initial state a word is not accepted, and nothing is visited. -/
theorem recognize_of_initial_eq_none
    (missing : automaton.initial = none)
    (word : String) :
    (automaton.recognize word).accepted = false ∧
      (automaton.recognize word).finalState = none ∧ (automaton.recognize word).path = [] := by
  have start : automaton.start = {} := by
    rw [Automaton.start, missing]
    rfl
  cases cut : RegularModels.symbols word with
  | nil =>
      simp only [recognize, attempt, cut, feed, start]
      exact ⟨rfl, rfl, rfl⟩
  | cons symbol rest =>
      have stopped : automaton.feed automaton.start (symbol :: rest) = ({}, .notInitialized) := by
        rw [feed, start]
        rfl
      simp only [recognize, attempt, cut, stopped]
      exact ⟨rfl, rfl, rfl⟩

end Automaton

namespace Machine

/-- Trying a word leaves the machine as processing its symbols after a reset does. -/
theorem recognize_eq_processAll (machine : Machine) (word : String) :
    (machine.recognize word).1 = machine.reset.processAll (symbols word) := by
  rw [processAll_eq, recognize, reset]
  unfold Automaton.attempt
  dsimp only
  rcases machine.automaton.feed machine.automaton.start (symbols word) with ⟨run, halt⟩
  cases halt <;> rfl

/--
Whatever runs a machine has gone through, trying a word tells how far the automaton can
follow it from the initial state, by way of which states, and to which state: a word that
is followed to its end is accepted when that state is final, and otherwise the symbol and
the state where it stops are told.  Without an initial state no word is accepted.  The
machine is left as it is left by processing the word after a reset, up to the first
symbol that is refused; trying a word never fails and changes nothing else.
-/
theorem recognize_behind
    (machine : Machine)
    {history : List Operation}
    (runs : ∀ operation ∈ history, operation.Runs)
    (word : String) :
    let before := machine.behind history
    let answer := (before.recognize word).2
    (∀ initial, machine.automaton.initial = some initial →
        ∃ consumed, machine.automaton.AnsweredBy (symbols word) consumed answer) ∧
      (machine.automaton.initial = none →
        answer.accepted = false ∧ answer.finalState = none ∧ answer.path = []) ∧
      (before.recognize word).1 = before.reset.processAll (symbols word) ∧
      (before.recognize word).1.automaton = machine.automaton ∧
      (before.apply (.recognize word)).Succeeds := by
  intro before answer
  have kept : before.automaton = machine.automaton := automaton_behind_of_runs runs machine
  have told : answer = machine.automaton.recognize word :=
    congrArg (fun automaton : Automaton => automaton.recognize word) kept
  rw [told]
  exact ⟨fun initial starts => Automaton.exists_answeredBy starts word,
    fun missing => Automaton.recognize_of_initial_eq_none missing word,
    before.recognize_eq_processAll word, kept, rfl⟩

/-- A machine whose second transition reads a symbol that is not in the alphabet any more. -/
def stale : Machine where
  automaton :=
    { name := "stale"
      states := .ofList ["off", "on"]
      alphabet := .ofList ["a"]
      initial := some "off"
      finals := .ofList ["on"]
      transitions := (Table.insert ∅ ("off", "a") "on").insert ("on", "b") "off" }

/-- The second symbol is refused although it has a target, in whatever state the run stood. -/
theorem recognize_behind_stale :
    (∀ operation ∈ [Operation.process "a", .recognize "aa", .reset, .process "a"],
        operation.Runs) ∧
      stale.automaton.AnsweredBy (symbols "ab") 1
        ((stale.behind [.process "a", .recognize "aa", .reset, .process "a"]).recognize "ab").2 := by
  have runs : ∀ operation ∈ [Operation.process "a", .recognize "aa", .reset, .process "a"],
      operation.Runs := by
    decide
  refine ⟨runs, ?_⟩
  rcases (recognize_behind stale runs "ab").1 "off" rfl with ⟨consumed, answered⟩
  have first : 1 ≤ consumed := (answered.longest 1 (by decide)).mp (by decide +kernel)
  have second : ¬2 ≤ consumed := by
    rw [← answered.longest 2 (by decide)]
    decide +kernel
  have consumedEq : consumed = 1 := by omega
  exact consumedEq ▸ answered

end Machine

end RegularModels
