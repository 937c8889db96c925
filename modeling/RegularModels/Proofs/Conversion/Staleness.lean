import RegularModels.Proofs.Conversion.Construction

/-!
# Left-hand sides that are not declared any more

New non-terminals need not include the left-hand sides of the productions that are
there.  A regular production that is left over in this way would start at a state that
the automaton does not have, so the conversion is refused and the error names the
left-hand side.  The states of the automaton are the non-terminals, the further final
state and the twins, and the new names are kept apart from the non-terminals alone: a
production that is left over is not noticed when its left-hand side has one of them.
-/

namespace RegularModels.Grammar

open Text (Trimmed map_trim_of_trimmed)

/-- A regular production whose left-hand side is not a non-terminal any more. -/
structure Stale (grammar : Grammar) (production : Production) : Prop where
  listed : production ∈ grammar.productionList
  regular : grammar.IsRegular production.rhs
  removed : production.lhs ∉ grammar.nonTerminals

instance (grammar : Grammar) (production : Production) : Decidable (grammar.Stale production) :=
  decidable_of_iff
    (production ∈ grammar.productionList ∧ grammar.IsRegular production.rhs ∧
      production.lhs ∉ grammar.nonTerminals)
    ⟨fun ⟨listed, regular, removed⟩ => ⟨listed, regular, removed⟩,
      fun ⟨listed, regular, removed⟩ => ⟨listed, regular, removed⟩⟩

/-- The name is a state of the automaton of the grammar. -/
def Offers (grammar : Grammar) (state : String) : Prop :=
  state ∈ grammar.nonTerminals ∨ state ∈ grammar.blueprint.newStates

/-- Something regular is produced only by left-hand sides that are states of the automaton. -/
def Covered (grammar : Grammar) : Prop :=
  ∀ lhs shape, grammar.Produces lhs shape → grammar.Offers lhs

variable {grammar : Grammar} {start : String}

theorem exists_produces_iff {lhs : String} :
    (∃ shape, grammar.Produces lhs shape) ↔
      ∃ rhs, ⟨lhs, rhs⟩ ∈ grammar.productionList ∧ grammar.IsRegular rhs := by
  simp only [mem_productionList, IsRegular, Option.isSome_iff_exists, Produces]
  constructor
  · rintro ⟨shape, rhs, member, read⟩
    exact ⟨rhs, member, shape, read⟩
  · rintro ⟨rhs, member, shape, read⟩
    exact ⟨shape, rhs, member, read⟩

/-- A left-hand side is not covered exactly when it has a stale production under no new name. -/
theorem not_covered_iff :
    ¬grammar.Covered ↔
      ∃ production, grammar.Stale production ∧ production.lhs ∉ grammar.blueprint.newStates := by
  simp only [Covered, Offers]
  push Not
  constructor
  · rintro ⟨lhs, shape, produced, removed, new⟩
    rcases exists_produces_iff.mp ⟨shape, produced⟩ with ⟨rhs, listed, regular⟩
    exact ⟨⟨lhs, rhs⟩, ⟨listed, regular, removed⟩, new⟩
  · rintro ⟨production, stale, new⟩
    rcases exists_produces_iff.mpr ⟨production.rhs, stale.listed, stale.regular⟩ with
      ⟨shape, produced⟩
    exact ⟨production.lhs, shape, produced, stale.removed, new⟩

/-! ## Where transitions start -/

/-- A transition of the blueprint comes of a production of a left side, stale or not. -/
theorem mem_transitions_iff {transition : Transition} :
    transition ∈ grammar.blueprint.transitions ↔
      ∃ lhs, transition.source ∈ grammar.blueprint.sources lhs ∧
        transition.target ∈ grammar.blueprint.targets (grammar.branch lhs transition.symbol) := by
  constructor
  · exact branch_of_mem_transitions
  · rintro ⟨lhs, owned, inTargets⟩
    cases found : grammar.branches.get? (lhs, transition.symbol) with
    | none =>
        rw [branch, found] at inTargets
        simp [Blueprint.targets, Branch.survivor?] at inTargets
    | some branch =>
        rw [Grammar.branch, found] at inTargets
        exact List.mem_flatMap.mpr ⟨((lhs, transition.symbol), branch),
          Table.get?_eq_some_iff.mp found,
          Blueprint.mem_transitionsOf_iff.mpr ⟨owned, rfl, inTargets⟩⟩

/-- A branch with a step or an end leads somewhere. -/
theorem targets_ne_nil {branch : Branch}
    (leads : branch.ends = true ∨ branch.steps ≠ []) :
    grammar.blueprint.targets branch ≠ [] := by
  cases survives : branch.survivor? with
  | none =>
      have noSteps : branch.steps = [] := List.getLast?_eq_none_iff.mp survives
      simp [Blueprint.targets, survives, leads.resolve_right (not_not.mpr noSteps)]
  | some last =>
      intro empty
      have final : (grammar.blueprint.targets branch).getLast? = _ :=
        Blueprint.getLast?_targets_of_some survives
      rw [empty] at final
      cases final

/-- Every regular production is the reason of a transition or of a final state. -/
theorem lhs_used_of_produces
    {lhs : String} {shape : Shape}
    (produced : grammar.Produces lhs shape) :
    (∃ transition ∈ grammar.blueprint.transitions, transition.source = lhs) ∨
      lhs ∈ grammar.blueprint.finals := by
  have leads : ∀ symbol, (grammar.branch lhs symbol).ends = true ∨
      (grammar.branch lhs symbol).steps ≠ [] →
        ∃ transition ∈ grammar.blueprint.transitions, transition.source = lhs := by
    intro symbol somewhere
    rcases List.exists_mem_of_ne_nil _ (targets_ne_nil somewhere) with ⟨target, member⟩
    exact ⟨⟨lhs, symbol, target⟩,
      mem_transitions_iff.mpr ⟨lhs, Blueprint.self_mem_sources, member⟩, rfl⟩
  cases shape with
  | epsilon => exact .inr (mem_blueprint_finals_iff.mpr (.inr produced))
  | terminal symbol => exact .inl (leads symbol (.inl (ends_branch_iff.mpr produced)))
  | step symbol next =>
      exact .inl (leads symbol (.inr (List.ne_nil_of_mem (mem_steps_branch_iff.mpr produced))))

/-- A transition starts at a new state or belongs to a regular production. -/
theorem source_of_transition
    {transition : Transition} (member : transition ∈ grammar.blueprint.transitions) :
    transition.source ∈ grammar.blueprint.newStates ∨
      ∃ shape, grammar.Produces transition.source shape := by
  rcases branch_of_mem_transitions member with ⟨lhs, owned, inTargets⟩
  rcases Blueprint.mem_sources_iff.mp owned with same | twin
  · exact .inr (same ▸ (produces_of_mem_targets inTargets).1)
  · exact .inl (mem_newStates_iff.mpr (.inr ⟨_, twin⟩))

/-- A final state is new or belongs to a production for the empty word. -/
theorem produces_of_mem_finals
    {state : String} (member : state ∈ grammar.blueprint.finals) :
    state ∈ grammar.blueprint.newStates ∨ ∃ shape, grammar.Produces state shape := by
  rcases mem_blueprint_finals_iff.mp member with new | produced
  · exact .inl new
  · exact .inr ⟨_, produced⟩

/-! ## Conditions of the conversion -/

/-- The conversion asks for the sources of all transitions and for the final states. -/
theorem covered_iff :
    grammar.Covered ↔
      (∀ transition ∈ grammar.blueprint.transitions, grammar.Offers transition.source) ∧
        ∀ state ∈ grammar.blueprint.finals, grammar.Offers state := by
  constructor
  · intro covered
    constructor
    · intro transition member
      rcases source_of_transition member with new | ⟨shape, produced⟩
      · exact .inr new
      · exact covered _ shape produced
    · intro state member
      rcases produces_of_mem_finals member with new | ⟨shape, produced⟩
      · exact .inr new
      · exact covered state shape produced
  · rintro ⟨sources, finals⟩ lhs shape produced
    rcases lhs_used_of_produces produced with ⟨transition, member, rfl⟩ | final
    · exact sources transition member
    · exact finals lhs final

section Trimmed

variable (trimmed : grammar.LhsTrimmed)
include trimmed

theorem trimmed_of_produces
    {lhs : String} {shape : Shape} (produced : grammar.Produces lhs shape) :
    Trimmed lhs :=
  trimmed.lhs lhs (lhs_of_produces produced)

theorem trimmed_transition
    {transition : Transition} (member : transition ∈ grammar.blueprint.transitions) :
    transition.trimmed = transition := by
  have source : Trimmed transition.source := by
    rcases source_of_transition member with new | ⟨shape, produced⟩
    · exact trimmed_newState trimmed.names new
    · exact trimmed_of_produces trimmed produced
  rcases branch_of_mem_transitions member with ⟨lhs, _, inTargets⟩
  rcases produces_of_mem_targets inTargets with ⟨_, terminal, leads⟩
  have symbol : Trimmed transition.symbol := trimmed.names.terminals _ terminal
  have target : Trimmed transition.target := by
    rcases leads with nonTerminal | new
    · exact trimmed.names.nonTerminals _ nonTerminal
    · exact trimmed_newState trimmed.names new
  rw [Transition.trimmed, source, symbol, target]

theorem map_trim_finals :
    grammar.blueprint.finals.map Text.trim = grammar.blueprint.finals := by
  apply map_trim_of_trimmed
  intro state member
  rcases produces_of_mem_finals member with new | ⟨shape, produced⟩
  · exact trimmed_newState trimmed.names new
  · exact trimmed_of_produces trimmed produced

/-- Only the source of a transition may be missing. -/
theorem undeclared?_started
    (name : String)
    {transition : Transition} (member : transition ∈ grammar.blueprint.transitions) :
    (grammar.started name).undeclared? transition =
      if transition.source ∈ (grammar.started name).states then none
      else some (.unknownSource transition.source) := by
  rcases branch_of_mem_transitions member with ⟨lhs, _, inTargets⟩
  rcases produces_of_mem_targets inTargets with ⟨_, terminal, leads⟩
  have target : transition.target ∈ (grammar.started name).states :=
    (mem_started_states_iff trimmed.names name _).mpr leads
  have symbol : transition.symbol ∈ (grammar.started name).alphabet := by
    rw [started_alphabet trimmed.names]
    exact terminal
  by_cases source : transition.source ∈ (grammar.started name).states <;>
    simp [Automaton.undeclared?, source, target, symbol]

theorem started_declares_iff
    (name : String)
    {transition : Transition} (member : transition ∈ grammar.blueprint.transitions) :
    (grammar.started name).Declares transition ↔ grammar.Offers transition.source := by
  rw [← Automaton.undeclared?_eq_none_iff, undeclared?_started trimmed name member, Offers,
    ← mem_started_states_iff trimmed.names name]
  split
  · rename_i known
    exact iff_of_true rfl known
  · rename_i unknown
    exact iff_of_false (Option.some_ne_none _) unknown

/-- The transitions are written when all their sources are states. -/
theorem guarded_addAll_started (name : String) :
    ((grammar.started name).addAll grammar.blueprint.transitions).Guarded
      (∀ transition ∈ grammar.blueprint.transitions, grammar.Offers transition.source)
      (· = (grammar.started name).connectAll grammar.blueprint.transitions) := by
  have lenient : (grammar.started name).strict = false := rfl
  have written : grammar.blueprint.transitions.map Transition.trimmed =
      grammar.blueprint.transitions := by
    rw [List.map_congr_left fun _ member => trimmed_transition trimmed member, List.map_id']
  have guarded := Automaton.guarded_addAll lenient grammar.blueprint.transitions
  rw [written] at guarded
  apply guarded.congr
  apply forall₂_congr
  intro transition member
  rw [trimmed_transition trimmed member, started_declares_iff trimmed name member]

/-! ## When the conversion goes through -/

variable (nonTerminal : start ∈ grammar.nonTerminals) (chosen : grammar.start = some start)
include nonTerminal chosen

/-- The conversion goes through when every state that a transition needs is there. -/
theorem succeeds_toAutomaton_iff (name : Option String) :
    (grammar.toAutomaton name).Succeeds ↔ grammar.Covered := by
  simp only [toAutomaton]
  generalize nameOr name (grammar.name ++ "_dfa") = text
  have added := guarded_addAll_started trimmed text
  rw [setInitial_automatonFrame trimmed.names nonTerminal chosen, Outcome.andThen_done,
    Outcome.succeeds_andThen_iff, added.succeeds, covered_iff]
  apply and_congr_right
  intro sources
  have finals : (∀ state ∈ grammar.blueprint.finals, state ∈ (grammar.started text).states) ↔
      ∀ state ∈ grammar.blueprint.finals, grammar.Offers state :=
    forall₂_congr fun state _ => mem_started_states_iff trimmed.names text state
  rw [added.model sources, Outcome.succeeds_andThen_iff,
    (Automaton.guarded_setFinals _ _).succeeds, map_trim_finals trimmed,
    Automaton.connectAll_frame, finals]
  exact and_iff_left rfl

/-- What stops the conversion is the first left-hand side that is not a state. -/
theorem error_toAutomaton
    {name : Option String} {cause : ModelError}
    (refused : (grammar.toAutomaton name).error = some cause) :
    ∃ lhs, (∃ shape, grammar.Produces lhs shape) ∧ ¬grammar.Offers lhs ∧
      (cause = .unknownSource lhs ∨ cause = .unknownFinalState lhs) := by
  simp only [toAutomaton] at refused
  generalize nameOr name (grammar.name ++ "_dfa") = text at refused
  rw [setInitial_automatonFrame trimmed.names nonTerminal chosen, Outcome.andThen_done] at refused
  rcases Outcome.error_andThen refused with adding | ⟨went, later⟩
  · rcases Automaton.error_addAll rfl adding with ⟨transition, member, undeclared⟩
    rw [trimmed_transition trimmed member, undeclared?_started trimmed text member] at undeclared
    split at undeclared
    · cases undeclared
    · rename_i unknown
      rw [mem_started_states_iff trimmed.names] at unknown
      rcases source_of_transition member with new | produced
      · exact absurd (.inr new) unknown
      · exact ⟨transition.source, produced, unknown, .inl (Option.some.inj undeclared).symm⟩
  · have added := guarded_addAll_started trimmed text
    rw [added.model (added.succeeds.mp went)] at later
    rcases Outcome.error_andThen later with choosing | ⟨_, announcing⟩
    · rcases Automaton.error_setFinals choosing with ⟨state, member, unknown, reason⟩
      rw [map_trim_finals trimmed] at member
      rw [Automaton.connectAll_frame, mem_started_states_iff trimmed.names] at unknown
      rcases produces_of_mem_finals member with new | produced
      · exact absurd (.inr new) unknown
      · exact ⟨state, produced, unknown, .inr reason⟩
    · cases announcing

end Trimmed

/--
The conversion of a built grammar whose start symbol is declared is refused exactly when
a production is stale whose left-hand side has none of the new names, and the error names
such a left-hand side.
-/
theorem toAutomaton_refused_iff
    (built : grammar.Built)
    (nonTerminal : start ∈ grammar.nonTerminals)
    (chosen : grammar.start = some start)
    (name : Option String) :
    ((∃ error, (grammar.toAutomaton name).error = some error ∧ error.kind = .reference) ↔
        ∃ production, grammar.Stale production ∧
          production.lhs ∉ grammar.blueprint.newStates) ∧
      ∀ error, (grammar.toAutomaton name).error = some error →
        ∃ production, grammar.Stale production ∧
          production.lhs ∉ grammar.blueprint.newStates ∧
          (error = .unknownSource production.lhs ∨ error = .unknownFinalState production.lhs) := by
  have names : ∀ error, (grammar.toAutomaton name).error = some error →
      ∃ production, grammar.Stale production ∧
        production.lhs ∉ grammar.blueprint.newStates ∧
        (error = .unknownSource production.lhs ∨ error = .unknownFinalState production.lhs) := by
    intro error refused
    rcases error_toAutomaton built.lhsTrimmed nonTerminal chosen refused with
      ⟨lhs, produced, missing, reason⟩
    rcases exists_produces_iff.mp produced with ⟨rhs, listed, regular⟩
    rw [Offers, not_or] at missing
    exact ⟨⟨lhs, rhs⟩, ⟨listed, regular, missing.1⟩, missing.2, reason⟩
  refine ⟨⟨?_, ?_⟩, names⟩
  · rintro ⟨error, refused, _⟩
    rcases names error refused with ⟨production, stale, new, _⟩
    exact ⟨production, stale, new⟩
  · intro stale
    have stopped : (grammar.toAutomaton name).error ≠ none := by
      intro went
      exact not_covered_iff.mpr stale
        ((succeeds_toAutomaton_iff built.lhsTrimmed nonTerminal chosen name).mp went)
    rcases Option.ne_none_iff_exists'.mp stopped with ⟨error, refused⟩
    rcases names error refused with ⟨_, _, _, rfl | rfl⟩
    · exact ⟨_, refused, rfl⟩
    · exact ⟨_, refused, rfl⟩

/-- A grammar with one production from each of two non-terminals, of which one is removed. -/
def bereft (other : String) : Grammar where
  name := "bereft"
  nonTerminals := .ofList ["S"]
  terminals := .ofList ["a"]
  start := some "S"
  productions := (Table.insert ∅ "S" ["a"]).insert other ["a"]

theorem bereft_built
    {other : String}
    (history : bereft other = after "bereft"
      [.setNonTerminals ["S", other], .setTerminals ["a"], .setStart "S",
        .addProduction "S" "a", .addProduction other "a", .setNonTerminals ["S"]]) :
    (bereft other).Built :=
  history ▸ built_after _ _

/-- A production of a non-terminal that is not declared any more is refused. -/
theorem toAutomaton_refused_iff_bereft :
    (bereft "B").Built ∧ "S" ∈ (bereft "B").nonTerminals ∧ (bereft "B").start = some "S" ∧
      (bereft "B").Stale ⟨"B", "a"⟩ ∧
      ∃ error, ((bereft "B").toAutomaton none).error = some error ∧ error.kind = .reference := by
  have built : (bereft "B").Built := bereft_built (by decide +kernel)
  have nonTerminal : "S" ∈ (bereft "B").nonTerminals := by decide
  have stale : (bereft "B").Stale ⟨"B", "a"⟩ := by decide +kernel
  have notNew : "B" ∉ (bereft "B").blueprint.newStates := by decide +kernel
  exact ⟨built, nonTerminal, rfl, stale,
    (toAutomaton_refused_iff built nonTerminal rfl none).1.mpr ⟨_, stale, notNew⟩⟩

/-- A stale production under the name of the further final state is taken for one of its own. -/
theorem exists_stale_accepted :
    (bereft "qf").Built ∧ "S" ∈ (bereft "qf").nonTerminals ∧ (bereft "qf").start = some "S" ∧
      (bereft "qf").Stale ⟨"qf", "a"⟩ ∧
      ((bereft "qf").toAutomaton none).Succeeds ∧
      ((bereft "qf").toAutomaton none).model.accepts "aa" = true := by
  refine ⟨bereft_built (by decide +kernel), ?_⟩
  decide +kernel

end RegularModels.Grammar
