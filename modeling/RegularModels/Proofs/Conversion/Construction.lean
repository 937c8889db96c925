import RegularModels.Proofs.Automaton.Guards
import RegularModels.Proofs.Conversion.Twins
import RegularModels.Proofs.Grammar.Classification
import RegularModels.Proofs.Grammar.Reachable

/-!
# The automaton of a grammar

The conversion of a grammar with trimmed names, whose start symbol and left-hand
sides are non-terminals, goes through.  `Realizes` says what comes out of it: the
states and final states of the blueprint, and for each pair the target that the
blueprint writes last.  Every state is either a non-terminal, the further state or
a twin, and a pair of a non-terminal or its twin leads where the branch of the
non-terminal leads.
-/

namespace RegularModels

open Text (Trimmed map_trim_of_trimmed ofList_map_trim_toList trimmed_of_mem_ofList_trim)

/-! ## Targets of a branch -/

namespace Blueprint

variable {blueprint : Blueprint}

/-- Without a step, a branch leads to the final state or nowhere. -/
theorem getLast?_targets_of_none
    {branch : Branch} (noStep : branch.survivor? = none) :
    (blueprint.targets branch).getLast? =
      if branch.ends then some blueprint.finalName else none := by
  simp only [targets, noStep]
  split <;> rfl

/-- A branch leads to its surviving step, or to the twin of that step if a word may end here. -/
theorem getLast?_targets_of_some
    {branch : Branch} {last : String} (survives : branch.survivor? = some last) :
    (blueprint.targets branch).getLast? =
      some (if branch.ends then (blueprint.twins.get? last).getD last else last) := by
  simp only [targets, survives]
  split
  · rw [List.getLast?_concat]
  · exact survives

/-- A branch leads to its steps, their twins and the final state only. -/
theorem mem_targets {branch : Branch} {target : String}
    (member : target ∈ blueprint.targets branch) :
    target ∈ branch.steps ∨ branch.ends = true ∧
      (target = blueprint.finalName ∨ ∃ owner, blueprint.twins.get? owner = some target) := by
  unfold targets at member
  split at member
  · split at member
    · rename_i ends
      exact .inr ⟨ends, .inl (List.mem_singleton.mp member)⟩
    · simp at member
  · rename_i last survives
    have lastStep : last ∈ branch.steps := List.mem_of_getLast? survives
    split at member
    · rename_i ends
      rcases List.mem_append.mp member with earlier | final
      · exact .inl (List.dropLast_subset _ earlier)
      · rw [List.mem_singleton] at final
        cases found : blueprint.twins.get? last with
        | none =>
            rw [found, Option.getD_none] at final
            exact .inl (final ▸ lastStep)
        | some twin =>
            rw [found, Option.getD_some] at final
            exact .inr ⟨ends, .inr ⟨last, final ▸ found⟩⟩
    · exact .inl member

theorem mem_sources_iff {lhs source : String} :
    source ∈ blueprint.sources lhs ↔ source = lhs ∨ blueprint.twins.get? lhs = some source := by
  simp [sources, eq_comm]

theorem self_mem_sources {lhs : String} : lhs ∈ blueprint.sources lhs :=
  List.mem_cons_self

/-- The transitions of a branch leave from its left side and from the twin of that. -/
theorem mem_transitionsOf_iff
    {pair : String × String} {branch : Branch} {transition : Transition} :
    transition ∈ blueprint.transitionsOf pair branch ↔
      transition.source ∈ blueprint.sources pair.1 ∧ transition.symbol = pair.2 ∧
        transition.target ∈ blueprint.targets branch := by
  rcases transition with ⟨source, symbol, target⟩
  simp only [transitionsOf, List.mem_flatMap, List.mem_map, Transition.mk.injEq]
  constructor
  · rintro ⟨_, owned, _, member, rfl, rfl, rfl⟩
    exact ⟨owned, rfl, member⟩
  · rintro ⟨owned, rfl, member⟩
    exact ⟨source, owned, target, member, rfl, rfl, rfl⟩

end Blueprint

namespace Grammar

variable {grammar : Grammar}

/-! ## What is produced is declared -/

theorem lhs_of_produces {lhs : String} {shape : Shape}
    (produced : grammar.Produces lhs shape) :
    lhs ∈ grammar.productions := by
  rcases produced with ⟨rhs, member, _⟩
  rw [Table.mem_iff_exists_get?]
  cases found : grammar.productions.get? lhs with
  | none => simp [rhsList, found] at member
  | some rhsList => exact ⟨rhsList, rfl⟩

theorem terminal_of_produces {lhs symbol : String}
    (produced : grammar.Produces lhs (.terminal symbol)) :
    symbol ∈ grammar.terminals := by
  rcases produced with ⟨rhs, _, read⟩
  exact (terminal_of_classify read).2

theorem step_of_produces {lhs symbol next : String}
    (produced : grammar.Produces lhs (.step symbol next)) :
    symbol ∈ grammar.terminals ∧ next ∈ grammar.nonTerminals := by
  rcases produced with ⟨rhs, _, read⟩
  exact (step_of_classify read).2.2.2

theorem owner_mem_nonTerminals {owner twin : String}
    (found : grammar.twins.get? owner = some twin) :
    owner ∈ grammar.nonTerminals := by
  rcases mem_twins_iff.mp (Table.mem_iff_exists_get?.mpr ⟨twin, found⟩) with
    ⟨lhs, symbol, _, kept⟩
  exact (step_of_produces (produces_of_keeps kept)).2

/-- The new states are the final state and the twins. -/
theorem mem_newStates_iff {state : String} :
    state ∈ grammar.blueprint.newStates ↔
      state = grammar.finalName ∨ ∃ owner, grammar.twins.get? owner = some state := by
  simp only [Blueprint.newStates, List.mem_cons]
  rw [Table.mem_values_iff]
  rfl

theorem trimmed_newState
    (trimmed : grammar.NamesTrimmed)
    {state : String} (member : state ∈ grammar.blueprint.newStates) :
    Trimmed state := by
  rcases mem_newStates_iff.mp member with rfl | ⟨owner, found⟩
  · exact grammar.trimmed_finalName
  · exact trimmed_twin found (trimmed.nonTerminals _ (owner_mem_nonTerminals found))

theorem newState_not_mem
    {state : String} (member : state ∈ grammar.blueprint.newStates) :
    state ∉ grammar.nonTerminals := by
  rcases mem_newStates_iff.mp member with rfl | ⟨owner, found⟩
  · exact grammar.finalName_not_mem
  · exact twin_not_mem found

theorem newState_ne_empty
    {state : String} (member : state ∈ grammar.blueprint.newStates) :
    state ≠ "" := by
  rcases mem_newStates_iff.mp member with rfl | ⟨owner, found⟩
  · exact fresh_ne_empty (by decide) _
  · rcases grammar.namedApart_twins with ⟨_, apart⟩
    rcases apart.named owner state found with ⟨taken, rfl⟩
    exact fresh_ne_empty (by simp) taken

/-! ## Transitions of the blueprint -/

theorem branch_of_mem_entries
    {entry : (String × String) × Branch}
    (member : entry ∈ grammar.branches.entries) :
    grammar.branch entry.1.1 entry.1.2 = entry.2 := by
  rw [branch, Table.get?_eq_some_iff.mpr member, Option.getD_some]

/-- Where the branch of a pair leads, something was produced. -/
theorem produces_of_mem_targets
    {lhs symbol target : String}
    (member : target ∈ grammar.blueprint.targets (grammar.branch lhs symbol)) :
    (∃ shape, grammar.Produces lhs shape) ∧ symbol ∈ grammar.terminals ∧
      (target ∈ grammar.nonTerminals ∨ target ∈ grammar.blueprint.newStates) := by
  rcases Blueprint.mem_targets member with step | ⟨ends, new⟩
  · have produced := mem_steps_branch_iff.mp step
    rcases step_of_produces produced with ⟨terminal, nonTerminal⟩
    exact ⟨⟨_, produced⟩, terminal, .inl nonTerminal⟩
  · have produced := ends_branch_iff.mp ends
    exact ⟨⟨_, produced⟩, terminal_of_produces produced, .inr (mem_newStates_iff.mpr new)⟩

theorem lhs_of_mem_targets
    {lhs symbol target : String}
    (member : target ∈ grammar.blueprint.targets (grammar.branch lhs symbol)) :
    lhs ∈ grammar.productions := by
  rcases (produces_of_mem_targets member).1 with ⟨shape, produced⟩
  exact lhs_of_produces produced

/-- A state belongs to one non-terminal only. -/
theorem owner_unique
    {left right source : String}
    (leftDeclared : left ∈ grammar.nonTerminals)
    (rightDeclared : right ∈ grammar.nonTerminals)
    (ofLeft : source ∈ grammar.blueprint.sources left)
    (ofRight : source ∈ grammar.blueprint.sources right) :
    left = right := by
  rcases Blueprint.mem_sources_iff.mp ofLeft with rfl | leftFound <;>
    rcases Blueprint.mem_sources_iff.mp ofRight with rfl | rightFound
  · rfl
  · exact absurd leftDeclared (twin_not_mem rightFound)
  · exact absurd rightDeclared (twin_not_mem leftFound)
  · exact twins_injective leftFound rightFound

theorem nodup_sources
    {lhs : String} (declared : lhs ∈ grammar.nonTerminals) :
    (grammar.blueprint.sources lhs).Nodup := by
  unfold Blueprint.sources
  cases found : grammar.blueprint.twins.get? lhs with
  | none => simp
  | some twin =>
      have different : lhs ≠ twin := by
        rintro rfl
        exact twin_not_mem found declared
      simpa using different

/-- Of the transitions of a branch, a source has one for each target. -/
theorem filter_transitionsOf
    {lhs source : String}
    (nonTerminal : lhs ∈ grammar.nonTerminals)
    (owned : source ∈ grammar.blueprint.sources lhs)
    (symbol : String) (branch : Branch) :
    (grammar.blueprint.transitionsOf (lhs, symbol) branch).filter (·.pair = (source, symbol)) =
      (grammar.blueprint.targets branch).map fun target => ⟨source, symbol, target⟩ := by
  rw [Blueprint.transitionsOf, List.filter_flatMap,
    flatMap_eq_of_unique (nodup_sources nonTerminal) owned]
  · rw [List.filter_eq_self]
    intro transition member
    rcases List.mem_map.mp member with ⟨target, _, rfl⟩
    simp [Transition.pair]
  · intro other _ different
    rw [List.filter_eq_nil_iff]
    intro transition member
    rcases List.mem_map.mp member with ⟨target, _, rfl⟩
    simp [Transition.pair, different]

/-- The transitions of one pair of the automaton lead where one branch leads. -/
theorem filter_transitions
    (declared : grammar.Declared)
    {lhs source : String}
    (nonTerminal : lhs ∈ grammar.nonTerminals)
    (owned : source ∈ grammar.blueprint.sources lhs)
    (symbol : String) :
    grammar.blueprint.transitions.filter (·.pair = (source, symbol)) =
      (grammar.blueprint.targets (grammar.branch lhs symbol)).map
        fun target => ⟨source, symbol, target⟩ := by
  rw [Blueprint.transitions, List.filter_flatMap,
    Table.flatMap_entries_eq grammar.blueprint.branches,
    ← filter_transitionsOf nonTerminal owned]
  · have found : grammar.blueprint.branches.get? (lhs, symbol) =
        grammar.branches.get? (lhs, symbol) := rfl
    rw [found, branch]
    cases grammar.branches.get? (lhs, symbol) with
    | none => simp [Blueprint.transitionsOf, Blueprint.targets, Branch.survivor?]
    | some branch => rfl
  · intro entry member other
    rw [List.filter_eq_nil_iff]
    intro transition inEntry
    rcases Blueprint.mem_transitionsOf_iff.mp inEntry with ⟨inSources, symbolEq, inTargets⟩
    rw [← branch_of_mem_entries member] at inTargets
    have entryDeclared := declared.lhs _ (lhs_of_mem_targets inTargets)
    rw [decide_eq_true_eq, Transition.pair, Prod.mk.injEq]
    rintro ⟨sourceEq, sameSymbol⟩
    have owner : entry.1.1 = lhs :=
      owner_unique entryDeclared nonTerminal (sourceEq ▸ inSources) owned
    exact other (Prod.ext owner (symbolEq.symm.trans sameSymbol))

/-- A transition belongs to the branch of a pair whose left-hand side owns its source. -/
theorem branch_of_mem_transitions
    {transition : Transition} (member : transition ∈ grammar.blueprint.transitions) :
    ∃ lhs, transition.source ∈ grammar.blueprint.sources lhs ∧
      transition.target ∈ grammar.blueprint.targets (grammar.branch lhs transition.symbol) := by
  rcases List.mem_flatMap.mp member with ⟨entry, inEntries, inEntry⟩
  rcases Blueprint.mem_transitionsOf_iff.mp inEntry with ⟨owned, symbolEq, inTargets⟩
  rw [← branch_of_mem_entries inEntries, ← symbolEq] at inTargets
  exact ⟨entry.1.1, owned, inTargets⟩

/-- The source of a transition is owned by a non-terminal. -/
theorem source_of_mem_transitions
    (declared : grammar.Declared)
    {transition : Transition} (member : transition ∈ grammar.blueprint.transitions) :
    ∃ lhs ∈ grammar.nonTerminals, transition.source ∈ grammar.blueprint.sources lhs := by
  rcases branch_of_mem_transitions member with ⟨lhs, owned, inTargets⟩
  exact ⟨lhs, declared.lhs _ (lhs_of_mem_targets inTargets), owned⟩

/-- The states of a transition are non-terminals or new, and its symbol is a terminal. -/
theorem names_of_mem_transitions
    (declared : grammar.Declared)
    {transition : Transition} (member : transition ∈ grammar.blueprint.transitions) :
    (transition.source ∈ grammar.nonTerminals ∨
        transition.source ∈ grammar.blueprint.newStates) ∧
      transition.symbol ∈ grammar.terminals ∧
      (transition.target ∈ grammar.nonTerminals ∨
        transition.target ∈ grammar.blueprint.newStates) := by
  rcases branch_of_mem_transitions member with ⟨lhs, owned, inTargets⟩
  rcases produces_of_mem_targets inTargets with ⟨_, terminal, target⟩
  refine ⟨?_, terminal, target⟩
  rcases Blueprint.mem_sources_iff.mp owned with same | twin
  · exact .inl (same ▸ declared.lhs _ (lhs_of_mem_targets inTargets))
  · exact .inr (mem_newStates_iff.mpr (.inr ⟨_, twin⟩))

/-- The final states are the new ones and the left-hand sides of the empty word. -/
theorem mem_blueprint_finals_iff {state : String} :
    state ∈ grammar.blueprint.finals ↔
      state ∈ grammar.blueprint.newStates ∨ grammar.Produces state .epsilon := by
  rw [← mem_nullable_iff, Blueprint.finals, Blueprint.newStates, List.cons_append,
    List.mem_cons, List.mem_cons, List.mem_append, or_right_comm, or_assoc]
  rfl

/-- All final states are non-terminals or new states. -/
theorem finals_declared
    (declared : grammar.Declared)
    {state : String} (member : state ∈ grammar.blueprint.finals) :
    state ∈ grammar.nonTerminals ∨ state ∈ grammar.blueprint.newStates := by
  rcases mem_blueprint_finals_iff.mp member with new | produced
  · exact .inr new
  · exact .inl (declared.lhs _ (lhs_of_produces produced))

/-! ## The conversion goes through -/

/-- The automaton is what the blueprint of the grammar describes. -/
structure Realizes (automaton : Automaton) (grammar : Grammar) : Prop where
  states_iff : ∀ state, state ∈ automaton.states ↔
    state ∈ grammar.nonTerminals ∨ state ∈ grammar.blueprint.newStates
  alphabet_eq : automaton.alphabet = grammar.terminals
  initial_eq : automaton.initial = grammar.start
  finals_iff : ∀ state, state ∈ automaton.finals ↔ state ∈ grammar.blueprint.finals
  target?_eq : ∀ source symbol, automaton.target? source symbol =
    lastTarget? grammar.blueprint.transitions source symbol

/-- The states and symbols of the automaton of a grammar, with its initial state. -/
def started (grammar : Grammar) (name : String) : Automaton :=
  { grammar.automatonFrame grammar.blueprint name with initial := grammar.start }

/-- The states are the non-terminals and the new states. -/
theorem mem_started_states_iff
    (trimmed : grammar.NamesTrimmed) (name state : String) :
    state ∈ (grammar.started name).states ↔
      state ∈ grammar.nonTerminals ∨ state ∈ grammar.blueprint.newStates := by
  have allTrimmed : ∀ given ∈ grammar.nonTerminals.toList ++ grammar.blueprint.newStates,
      Trimmed given := by
    intro given member
    rcases List.mem_append.mp member with nonTerminal | new
    · exact trimmed.nonTerminals _ nonTerminal
    · exact trimmed_newState trimmed new
  simp only [started, automatonFrame, Automaton.setStates, Automaton.setAlphabet,
    map_trim_of_trimmed allTrimmed, NameSet.mem_ofList, List.mem_append, NameSet.mem_toList]

theorem started_alphabet
    (trimmed : grammar.NamesTrimmed) (name : String) :
    (grammar.started name).alphabet = grammar.terminals :=
  ofList_map_trim_toList trimmed.terminals

theorem started_namesTrimmed (grammar : Grammar) (name : String) :
    (grammar.started name).NamesTrimmed where
  states _ member := trimmed_of_mem_ofList_trim member
  alphabet _ member := trimmed_of_mem_ofList_trim member

theorem setInitial_automatonFrame
    (trimmed : grammar.NamesTrimmed)
    {start : String}
    (nonTerminal : start ∈ grammar.nonTerminals)
    (chosen : grammar.start = some start)
    (name : String) :
    (grammar.automatonFrame grammar.blueprint name).setInitial (grammar.start.getD "") =
      .done (grammar.started name) := by
  have startTrimmed : Text.trim start = start := trimmed.nonTerminals start nonTerminal
  have member : start ∈ (grammar.automatonFrame grammar.blueprint name).states :=
    (mem_started_states_iff trimmed name start).mpr (.inl nonTerminal)
  rw [chosen, Option.getD_some, Automaton.setInitial, startTrimmed, if_pos member, started,
    chosen]

/-- All transitions of the blueprint are between declared names. -/
theorem started_declares
    (trimmed : grammar.NamesTrimmed)
    (declared : grammar.Declared)
    (name : String)
    {transition : Transition} (member : transition ∈ grammar.blueprint.transitions) :
    (grammar.started name).Declares transition := by
  rcases names_of_mem_transitions declared member with ⟨source, symbol, target⟩
  constructor
  · exact (mem_started_states_iff trimmed name _).mpr source
  · exact (mem_started_states_iff trimmed name _).mpr target
  · rw [started_alphabet trimmed]
    exact symbol

/-- The automaton that the conversion leaves behind. -/
def realized (grammar : Grammar) (name : String) : Automaton :=
  { (grammar.started name).connectAll grammar.blueprint.transitions with
    finals := .ofList grammar.blueprint.finals }

/-- The final states are declared, so setting them is not refused. -/
theorem setFinals_connectAll
    (trimmed : grammar.NamesTrimmed)
    (declared : grammar.Declared)
    (name : String) :
    ((grammar.started name).connectAll grammar.blueprint.transitions).setFinals
        grammar.blueprint.finals = .done (grammar.realized name) := by
  have states : ((grammar.started name).connectAll grammar.blueprint.transitions).states =
      (grammar.started name).states := by
    rw [Automaton.connectAll_frame]
  have member : ∀ state ∈ grammar.blueprint.finals, state ∈ (grammar.started name).states :=
    fun state final => (mem_started_states_iff trimmed name state).mpr
      (finals_declared declared final)
  have unchanged : grammar.blueprint.finals.map Text.trim = grammar.blueprint.finals :=
    map_trim_of_trimmed fun state final =>
      (grammar.started_namesTrimmed name).states state (member state final)
  have allDeclared : grammar.blueprint.finals.find?
      (· ∉ ((grammar.started name).connectAll grammar.blueprint.transitions).states) = none := by
    rw [List.find?_eq_none]
    intro state final
    simpa [states] using member state final
  rw [Automaton.setFinals, unchanged, allDeclared, realized]

/-- The conversion goes through: it writes the transitions and announces the result. -/
theorem toAutomaton_eq
    (trimmed : grammar.NamesTrimmed)
    (declared : grammar.Declared)
    {name : Option String} {text : String}
    (given : nameOr name (grammar.name ++ "_dfa") = text) :
    grammar.toAutomaton name =
      ⟨grammar.realized text,
        ((grammar.started text).addAll grammar.blueprint.transitions).events ++
          [.grammarConverted grammar.name (grammar.realized text).name
            (grammar.realized text).states.size (grammar.realized text).transitions.size],
        none⟩ := by
  rcases declared.start with ⟨start, nonTerminal, chosen⟩
  have added := Automaton.addAll_of_declares (grammar.started_namesTrimmed text) rfl
    (fun transition member => started_declares trimmed declared text member)
  simp only [toAutomaton, given]
  rw [setInitial_automatonFrame trimmed nonTerminal chosen, Outcome.andThen_done,
    Outcome.andThen_of_succeeds added.1, added.2, setFinals_connectAll trimmed declared,
    Outcome.andThen_done]
  rfl

/-- The automaton of a grammar is what its blueprint describes. -/
theorem realizes_toAutomaton
    (trimmed : grammar.NamesTrimmed)
    (declared : grammar.Declared)
    (name : Option String) :
    (grammar.toAutomaton name).Succeeds ∧ Realizes (grammar.toAutomaton name).model grammar := by
  rw [toAutomaton_eq trimmed declared rfl]
  generalize nameOr name (grammar.name ++ "_dfa") = text
  have frame := Automaton.connectAll_frame (grammar.started text) grammar.blueprint.transitions
  refine ⟨rfl, ?_⟩
  constructor
  · intro state
    rw [← mem_started_states_iff trimmed text, realized, frame]
  · rw [← started_alphabet trimmed text, realized, frame]
  · rw [realized, frame]
    rfl
  · intro state
    exact NameSet.mem_ofList
  · intro source symbol
    have target := Automaton.target?_connectAll (grammar.started text)
      grammar.blueprint.transitions source symbol
    have fresh : (grammar.started text).target? source symbol = none := rfl
    rw [fresh, Option.or_none] at target
    exact target

/-! ## Where the automaton leads -/

namespace Realizes

variable {automaton : Automaton}

/-- The automaton has no transitions but those of the blueprint. -/
theorem mem_transitions_of_target?
    (realizes : Realizes automaton grammar)
    {source symbol target : String}
    (found : automaton.target? source symbol = some target) :
    ⟨source, symbol, target⟩ ∈ grammar.blueprint.transitions := by
  rw [realizes.target?_eq] at found
  exact mem_of_lastTarget? found

theorem declared
    (realizes : Realizes automaton grammar)
    (grammarDeclared : grammar.Declared) :
    automaton.Declared where
  initial := by
    rcases grammarDeclared.start with ⟨start, nonTerminal, chosen⟩
    exact ⟨start, (realizes.states_iff start).mpr (.inl nonTerminal),
      realizes.initial_eq.trans chosen⟩
  finals := by
    intro state final
    exact (realizes.states_iff state).mpr
      (finals_declared grammarDeclared ((realizes.finals_iff state).mp final))
  transitions := by
    intro source symbol target found
    have member := realizes.mem_transitions_of_target? found
    rcases names_of_mem_transitions grammarDeclared member with
      ⟨sourceState, terminal, targetState⟩
    constructor
    · exact (realizes.states_iff source).mpr sourceState
    · exact (realizes.states_iff target).mpr targetState
    · rw [realizes.alphabet_eq]
      exact terminal

/-- A non-terminal and its twin lead where the branch of the non-terminal leads. -/
theorem target?_of_owned
    (realizes : Realizes automaton grammar)
    (declared : grammar.Declared)
    {lhs source : String}
    (nonTerminal : lhs ∈ grammar.nonTerminals)
    (owned : source ∈ grammar.blueprint.sources lhs)
    (symbol : String) :
    automaton.target? source symbol =
      (grammar.blueprint.targets (grammar.branch lhs symbol)).getLast? := by
  rw [realizes.target?_eq, lastTarget?, filter_transitions declared nonTerminal owned,
    List.getLast?_map, Option.map_map]
  exact congrFun Option.map_id _

/-- The further state has no transitions. -/
theorem target?_finalName
    (realizes : Realizes automaton grammar)
    (declared : grammar.Declared)
    (symbol : String) :
    automaton.target? grammar.finalName symbol = none := by
  rw [Option.eq_none_iff_forall_ne_some]
  intro target found
  rcases source_of_mem_transitions declared (realizes.mem_transitions_of_target? found) with
    ⟨lhs, nonTerminal, owned⟩
  rcases Blueprint.mem_sources_iff.mp owned with same | twin
  · have equal : grammar.finalName = lhs := same
    exact grammar.finalName_not_mem (equal ▸ nonTerminal)
  · exact twin_ne_finalName twin rfl

end Realizes

end Grammar

end RegularModels
