import RegularModels.Proofs.Automaton.Acceptance
import RegularModels.Proofs.Conversion.Construction

/-!
# The language of the automaton of a grammar

The automaton of a grammar accepts exactly the words that the grammar generates by
the rule `Keeps`.  The proof follows a word through the automaton: a non-terminal
accepts what it derives, its twin accepts the empty word besides, and the further
state accepts the empty word only.  A branch with a step and an end leads to a twin
for this reason: the word may stop here, or go on as the step says.
-/

namespace RegularModels

variable {grammar : Grammar} {automaton : Automaton}

namespace Grammar

/-! ## The further state and final states -/

namespace Realizes

/-- From the final state only the empty word is accepted. -/
theorem acceptsFrom_finalName_iff
    (realizes : Realizes automaton grammar)
    (declared : grammar.Declared)
    (word : List String) :
    automaton.AcceptsFrom grammar.finalName word ↔ word = [] := by
  cases word with
  | nil =>
      have final : grammar.finalName ∈ automaton.finals :=
        (realizes.finals_iff _).mpr List.mem_cons_self
      simpa [Automaton.AcceptsFrom] using final
  | cons symbol rest =>
      simp [Automaton.AcceptsFrom, Automaton.step?_eq_target? (realizes.declared declared),
        realizes.target?_finalName declared]

/-- A non-terminal is final when it produces the empty word, and a twin is always final. -/
theorem mem_finals_iff
    (realizes : Realizes automaton grammar)
    {lhs source : String}
    (nonTerminal : lhs ∈ grammar.nonTerminals)
    (owned : source ∈ grammar.blueprint.sources lhs) :
    source ∈ automaton.finals ↔ grammar.Produces lhs .epsilon ∨ source ≠ lhs := by
  rw [realizes.finals_iff, mem_blueprint_finals_iff]
  rcases Blueprint.mem_sources_iff.mp owned with rfl | found
  · constructor
    · rintro (new | produced)
      · exact absurd nonTerminal (newState_not_mem new)
      · exact .inl produced
    · rintro (produced | different)
      · exact .inr produced
      · exact absurd rfl different
  · constructor
    · intro _
      refine .inr ?_
      rintro rfl
      exact twin_not_mem found nonTerminal
    · intro _
      exact .inl (mem_newStates_iff.mpr (.inr ⟨lhs, found⟩))

end Realizes

/-! ## Following a word -/

/-- A derivation goes on as the branch of its first symbol says. -/
theorem derives_cons_iff_branch {lhs symbol : String} {rest : List String} :
    Derives grammar.Keeps lhs (symbol :: rest) ↔
      ((grammar.branch lhs symbol).ends = true ∧ rest = []) ∨
        ∃ next, (grammar.branch lhs symbol).survivor? = some next ∧
          Derives grammar.Keeps next rest := by
  simp only [Derives.cons_iff, ends_branch_iff, survivor?_branch_iff]
  rfl

theorem nonTerminal_of_survivor? {lhs symbol next : String}
    (survives : (grammar.branch lhs symbol).survivor? = some next) :
    next ∈ grammar.nonTerminals :=
  (step_of_produces (produces_of_keeps (survivor?_branch_iff.mp survives))).2

/-- A step beside an end leads to a non-terminal that has a twin. -/
theorem exists_twin_of_branch {lhs symbol next : String}
    (ends : (grammar.branch lhs symbol).ends = true)
    (survives : (grammar.branch lhs symbol).survivor? = some next) :
    ∃ twin, grammar.twins.get? next = some twin :=
  Table.mem_iff_exists_get?.mp
    (mem_twins_iff.mpr ⟨lhs, symbol, ends_branch_iff.mp ends, survivor?_branch_iff.mp survives⟩)

/--
A non-terminal accepts the words that it derives, and its twin accepts the empty
word besides.
-/
theorem Realizes.acceptsFrom_iff
    (realizes : Realizes automaton grammar)
    (declared : grammar.Declared)
    {lhs source : String}
    (nonTerminal : lhs ∈ grammar.nonTerminals)
    (owned : source ∈ grammar.blueprint.sources lhs)
    (word : List String) :
    automaton.AcceptsFrom source word ↔
      Derives grammar.Keeps lhs word ∨ word = [] ∧ source ≠ lhs := by
  induction word generalizing lhs source with
  | nil =>
      rw [Automaton.AcceptsFrom, realizes.mem_finals_iff nonTerminal owned, Derives.nil_iff]
      simp [Keeps]
  | cons symbol rest ih =>
      rw [Automaton.AcceptsFrom, Automaton.step?_eq_target? (realizes.declared declared),
        realizes.target?_of_owned declared nonTerminal owned, derives_cons_iff_branch]
      cases survives : (grammar.branch lhs symbol).survivor? with
      | none =>
          rw [Blueprint.getLast?_targets_of_none survives]
          cases (grammar.branch lhs symbol).ends with
          | false => simp
          | true =>
              have further : automaton.AcceptsFrom grammar.blueprint.finalName rest ↔ rest = [] :=
                realizes.acceptsFrom_finalName_iff declared rest
              simpa using further
      | some next =>
          have nextDeclared := nonTerminal_of_survivor? survives
          rw [Blueprint.getLast?_targets_of_some survives]
          cases ends : (grammar.branch lhs symbol).ends with
          | false =>
              have further := ih nextDeclared Blueprint.self_mem_sources
              simpa using further
          | true =>
              rcases exists_twin_of_branch ends survives with ⟨twin, found⟩
              have different : twin ≠ next := by
                rintro rfl
                exact twin_not_mem found nextDeclared
              have further := ih nextDeclared (Blueprint.mem_sources_iff.mpr (.inr found))
              have twinEq : (grammar.blueprint.twins.get? next).getD next = twin := by
                rw [show grammar.blueprint.twins.get? next = some twin from found,
                  Option.getD_some]
              simp [twinEq, further, different, or_comm]

/-- The automaton of a grammar accepts what the grammar generates by the kept steps. -/
theorem Realizes.accepts_iff
    (realizes : Realizes automaton grammar)
    (declared : grammar.Declared)
    (word : List String) :
    automaton.Accepts word ↔ grammar.Generates grammar.Keeps word := by
  rcases declared.start with ⟨start, nonTerminal, chosen⟩
  have initial : automaton.initial = some start := realizes.initial_eq.trans chosen
  rw [Automaton.accepts_iff_acceptsFrom initial, realizes.acceptsFrom_iff declared nonTerminal
    Blueprint.self_mem_sources]
  simp [Generates, chosen]

theorem generates_mono
    {rule wider : String → Shape → Prop}
    (allows : ∀ lhs shape, rule lhs shape → wider lhs shape)
    {word : List String}
    (generated : grammar.Generates rule word) :
    grammar.Generates wider word := by
  rcases generated with ⟨start, chosen, derivation⟩
  exact ⟨start, chosen, derivation.mono allows⟩

/-- In a deterministic grammar all steps are kept, so nothing is lost. -/
theorem generates_keeps_iff
    (deterministic : grammar.Deterministic) {word : List String} :
    grammar.Generates grammar.Keeps word ↔ grammar.Generates grammar.Produces word := by
  constructor
  · exact generates_mono fun _ _ => produces_of_keeps
  · exact generates_mono fun _ _ => (keeps_iff_produces deterministic).mpr

/--
The conversion of a built grammar whose start symbol and left-hand sides are
non-terminals goes through.  Its automaton accepts exactly the words generated by
the kept steps; so it accepts generated words only, and all of them when no pair of
a non-terminal and a terminal has steps to different non-terminals.
-/
theorem toAutomaton_language
    (built : grammar.Built)
    (declared : grammar.Declared)
    (name : Option String) :
    (grammar.toAutomaton name).Succeeds ∧
      (∀ word, (grammar.toAutomaton name).model.Accepts word ↔
        grammar.Generates grammar.Keeps word) ∧
      (∀ word, (grammar.toAutomaton name).model.Accepts word →
        grammar.Generates grammar.Produces word) ∧
      (grammar.Deterministic → ∀ word, (grammar.toAutomaton name).model.Accepts word ↔
        grammar.Generates grammar.Produces word) := by
  rcases realizes_toAutomaton built.namesTrimmed declared name with ⟨went, realizes⟩
  have language := realizes.accepts_iff declared
  refine ⟨went, language, ?_, ?_⟩
  · intro word accepted
    exact generates_mono (fun _ _ => produces_of_keeps) ((language word).mp accepted)
  · intro deterministic word
    rw [language, generates_keeps_iff deterministic]

/--
A grammar with two steps and an end for one pair, repeated and irregular right-hand
sides, and a non-terminal that has the name of the further state.
-/
def branching : Grammar where
  name := "branching"
  nonTerminals := .ofList ["B", "C", "S", "qf"]
  terminals := .ofList ["a", "b"]
  start := some "S"
  productions :=
    ⟨[("S", ["aB", "aC", "aB", "a", "abc"]), ("C", ["b", "bqf"]), ("B", ["ε"])], by decide⟩

theorem branching_built : branching.Built := by
  have history : branching = after "branching"
      [.setNonTerminals ["S", " B", "C", "qf"], .setTerminals ["a", "b"], .setStart "S",
        .addProductions "S->aB;S->aC;S->aB;S->a;S->abc;C->b;C->bqf;B->ε"] := by
    decide +kernel
  exact history ▸ built_after _ _

theorem branching_declared : branching.Declared where
  start := ⟨"S", by decide, by decide⟩
  lhs := by
    change ∀ lhs ∈ branching.productions.keys, lhs ∈ branching.nonTerminals
    decide

/-- The later step is kept: the word goes on as its non-terminal does. -/
theorem toAutomaton_language_branching :
    branching.Built ∧ branching.Declared ∧
      (branching.toAutomaton none).model.Accepts ["a", "b"] := by
  have language := (toAutomaton_language branching_built branching_declared none).2.1
  refine ⟨branching_built, branching_declared, (language _).mpr ⟨"S", by decide, ?_⟩⟩
  have next : branching.Keeps "S" (.step "a" "C") :=
    ⟨["B"], ["B"], by decide, by decide, by decide⟩
  have last : branching.Keeps "C" (.terminal "b") := ⟨"b", by decide, by decide⟩
  exact .step next (.terminal last)

end Grammar

end RegularModels
