import RegularModels.Proofs.Conversion.GrammarLanguage

/-!
# New states of the automaton of a grammar

The automaton of a grammar has the non-terminals as states, the further final state and the
twins.  Every search for a new name ends: it needs at most as many rounds as there are names
in use, and stops at the first name that is free.  So the new names differ from each other
and from the non-terminals, whatever primes those have.

The twins belong to the steps that are kept where their terminal also stands alone
(`NeedsTwin`).  A twin is final and leads wherever its non-terminal leads, and a pair that
ends leads to the twin in place of the non-terminal.  `NewNames` and `Doubles` put this
together.
-/

namespace RegularModels

/-! ## The search for a free name -/

/-- A name with a number of primes behind it. -/
def primed (name : String) : Nat → String
  | 0 => name
  | count + 1 => primed (name ++ "'") count

/--
The search that puts primes behind a name while it is taken ends after some rounds: each
candidate before was taken, and the one that it ends with is not.
-/
structure SearchEnds (taken : NameSet) (name : String) (rounds : Nat) (result : String) :
    Prop where
  result_eq : result = primed name rounds
  free : result ∉ taken
  refused : ∀ fewer < rounds, primed name fewer ∈ taken

/-- The search ends with the result, after at most as many rounds as there are taken names. -/
def SearchFinds (taken : NameSet) (name result : String) : Prop :=
  ∃ rounds ≤ taken.size, SearchEnds taken name rounds result

section Search

variable {taken : NameSet} {name result : String} {rounds : Nat}

theorem searchEnds_of_not_mem
    (absent : name ∉ taken) :
    SearchEnds taken name 0 name where
  result_eq := rfl
  free := absent
  refused := by simp

/-- A taken name goes through one round more than the name with one more prime. -/
theorem SearchEnds.prime
    (present : name ∈ taken)
    (further : SearchEnds taken (name ++ "'") rounds result) :
    SearchEnds taken name (rounds + 1) result where
  result_eq := further.result_eq
  free := further.free
  refused := by
    intro fewer inside
    cases fewer with
    | zero => exact present
    | succ fewer => exact further.refused fewer (Nat.lt_of_succ_lt_succ inside)

/-- Each round leaves fewer of the taken names that are long enough to be met later. -/
theorem exists_searchEnds_fresh (taken : NameSet) (name : String) :
    ∃ rounds ≤ notShorter taken name, SearchEnds taken name rounds (fresh taken name) := by
  fun_induction fresh taken name with
  | case1 name present ih =>
      rcases ih with ⟨rounds, bounded, ends⟩
      exact ⟨rounds + 1, Nat.lt_of_le_of_lt bounded (notShorter_prime_lt present),
        ends.prime present⟩
  | case2 name absent => exact ⟨0, Nat.zero_le _, searchEnds_of_not_mem absent⟩

/-- The search for a fresh name ends with one that is free, behind names that are all taken. -/
theorem searchFinds_fresh (taken : NameSet) (name : String) :
    SearchFinds taken name (fresh taken name) := by
  rcases exists_searchEnds_fresh taken name with ⟨rounds, bounded, ends⟩
  have few : notShorter taken name ≤ taken.size := List.countP_le_length
  exact ⟨rounds, Nat.le_trans bounded few, ends⟩

end Search

namespace Grammar

/-! ## Twins named one after the other -/

/-- The given names, and those of twins that are named already. -/
def namesBehind (names : NameSet) (earlier : List (String × String)) : NameSet :=
  (earlier.map Prod.snd).foldl NameSet.insert names

/-- Every twin has a name that is searched behind the twins before it. -/
abbrev NamedInTurn (names : NameSet) (finalName : String) (twins : Twins) : Prop :=
  InTurn (fun earlier entry =>
    entry.2 = fresh (namesBehind names earlier) (entry.1 ++ "+" ++ finalName)) twins.entries

section Naming

variable {names : NameSet} {finalName : String} {named : Twins × NameSet}

/-- The names in use are exactly the given ones and those of the twins. -/
theorem NamedApart.names_eq
    (apart : NamedApart names finalName named) :
    named.2 = namesBehind names named.1.entries := by
  ext name
  rw [apart.taken_iff, namesBehind, NameSet.mem_foldl_insert, or_comm]
  rfl

/-- One more twin is named after all that were named before. -/
theorem NamedInTurn.addTwin
    (inTurn : NamedInTurn names finalName named.1)
    (apart : NamedApart names finalName named)
    (owner : String) :
    NamedInTurn names finalName (addTwin finalName named owner).1 := by
  unfold Grammar.addTwin
  split
  · exact inTurn
  · rename_i new
    rw [NamedInTurn, Table.entries_insert_of_not_mem new, inTurn_concat_iff]
    exact ⟨inTurn, by rw [apart.names_eq]⟩

theorem NamedInTurn.foldl
    (inTurn : NamedInTurn names finalName named.1)
    (apart : NamedApart names finalName named)
    (owners : List String) :
    NamedInTurn names finalName (owners.foldl (Grammar.addTwin finalName) named).1 := by
  induction owners generalizing named with
  | nil => exact inTurn
  | cons owner rest ih => exact ih (inTurn.addTwin apart owner) (apart.addTwin owner)

end Naming

variable {grammar : Grammar}

theorem namedInTurn_twins (grammar : Grammar) :
    NamedInTurn (grammar.nonTerminals.insert grammar.finalName) grammar.finalName grammar.twins :=
  NamedInTurn.foldl inTurn_nil (namedApart_empty _ _) _

/-- No two new states have the same name. -/
theorem nodup_newStates (grammar : Grammar) : grammar.blueprint.newStates.Nodup := by
  apply List.nodup_cons.mpr
  constructor
  · intro member
    rcases Table.mem_values_iff.mp member with ⟨owner, found⟩
    exact twin_ne_finalName found rfl
  · exact Table.nodup_values fun _ _ _ => twins_injective

/-- The new names, and how they are found. -/
structure NewNames (grammar : Grammar) : Prop where
  /-- The further state has as few primes as keep it from the non-terminals. -/
  finalName : SearchFinds grammar.nonTerminals finalBase grammar.finalName
  /-- Each twin has as few as keep it from all names that are in use when it is named. -/
  twins : InTurn (fun earlier entry =>
    SearchFinds (namesBehind (grammar.nonTerminals.insert grammar.finalName) earlier)
      (entry.1 ++ "+" ++ grammar.finalName) entry.2) grammar.twins.entries
  distinct : (grammar.finalName :: grammar.twins.values).Nodup
  new : ∀ name ∈ grammar.finalName :: grammar.twins.values, name ∉ grammar.nonTerminals

theorem newNames (grammar : Grammar) : NewNames grammar where
  finalName := searchFinds_fresh grammar.nonTerminals finalBase
  twins := by
    intro earlier entry later whole
    rw [grammar.namedInTurn_twins earlier entry later whole]
    exact searchFinds_fresh _ _
  distinct := grammar.nodup_newStates
  new _ member := newState_not_mem member

/-! ## What twins are for -/

/-- The non-terminal is the step that is kept of a pair whose terminal also stands alone. -/
def NeedsTwin (grammar : Grammar) (owner : String) : Prop :=
  ∃ lhs symbol, grammar.Produces lhs (.terminal symbol) ∧ grammar.Keeps lhs (.step symbol owner)

/--
The states of an automaton are the non-terminals of a grammar, its further state and one
twin for each non-terminal that needs one, and the twins stand in for these.
-/
structure Doubles (automaton : Automaton) (grammar : Grammar) : Prop where
  owner_iff : ∀ owner, grammar.NeedsTwin owner ↔ ∃ twin, grammar.twins.get? owner = some twin
  states_iff : ∀ state, state ∈ automaton.states ↔
    state ∈ grammar.nonTerminals ∨ state = grammar.finalName ∨
      ∃ owner, grammar.twins.get? owner = some state
  finals_iff : ∀ state, state ∈ automaton.finals ↔
    state = grammar.finalName ∨ (∃ owner, grammar.twins.get? owner = some state) ∨
      state ∈ grammar.nonTerminals ∧ grammar.Produces state .epsilon
  /-- A twin has the transitions of its non-terminal and no others. -/
  copies : ∀ owner twin, grammar.twins.get? owner = some twin →
    ∀ symbol, automaton.target? twin symbol = automaton.target? owner symbol
  finalName_stops : ∀ symbol, automaton.target? grammar.finalName symbol = none
  /-- Where a pair ends, it leads to the twin of the step that is kept. -/
  diverted : ∀ lhs symbol owner, grammar.Produces lhs (.terminal symbol) →
    grammar.Keeps lhs (.step symbol owner) →
      automaton.target? lhs symbol = grammar.twins.get? owner
  /-- Where a pair ends, it leads to no non-terminal. -/
  avoids_nonTerminals : ∀ lhs symbol, grammar.Produces lhs (.terminal symbol) →
    ∀ owner ∈ grammar.nonTerminals, automaton.target? lhs symbol ≠ some owner

namespace Realizes

variable {automaton : Automaton} {lhs symbol owner : String}

theorem target?_of_lhs
    (realizes : Realizes automaton grammar)
    (declared : grammar.Declared)
    (ends : grammar.Produces lhs (.terminal symbol)) :
    automaton.target? lhs symbol =
      (grammar.blueprint.targets (grammar.branch lhs symbol)).getLast? :=
  realizes.target?_of_owned declared (declared.lhs _ (lhs_of_produces ends))
    Blueprint.self_mem_sources symbol

/-- Where a kept step stands beside an end, the automaton goes to the twin. -/
theorem target?_of_keeps
    (realizes : Realizes automaton grammar)
    (declared : grammar.Declared)
    (ends : grammar.Produces lhs (.terminal symbol))
    (kept : grammar.Keeps lhs (.step symbol owner)) :
    automaton.target? lhs symbol = grammar.twins.get? owner := by
  have survives := survivor?_branch_iff.mpr kept
  have branchEnds := ends_branch_iff.mpr ends
  rcases exists_twin_of_branch branchEnds survives with ⟨twin, found⟩
  have twinEq : grammar.blueprint.twins.get? owner = some twin := found
  rw [realizes.target?_of_lhs declared ends, Blueprint.getLast?_targets_of_some survives,
    if_pos branchEnds, twinEq, found, Option.getD_some]

/-- A pair that ends leads to the twin of its step or, without a step, to the further state. -/
theorem target_mem_newStates
    (realizes : Realizes automaton grammar)
    (declared : grammar.Declared)
    (ends : grammar.Produces lhs (.terminal symbol))
    {target : String}
    (found : automaton.target? lhs symbol = some target) :
    target ∈ grammar.blueprint.newStates := by
  cases survives : (grammar.branch lhs symbol).survivor? with
  | none =>
      rw [realizes.target?_of_lhs declared ends, Blueprint.getLast?_targets_of_none survives,
        if_pos (ends_branch_iff.mpr ends)] at found
      exact mem_newStates_iff.mpr (.inl (Option.some.inj found).symm)
  | some owner =>
      rw [realizes.target?_of_keeps declared ends (survivor?_branch_iff.mp survives)] at found
      exact mem_newStates_iff.mpr (.inr ⟨owner, found⟩)

/-- Twins have the transitions of their owners, and are final. -/
theorem doubles
    (realizes : Realizes automaton grammar)
    (declared : grammar.Declared) :
    Doubles automaton grammar where
  owner_iff owner := mem_twins_iff.symm.trans Table.mem_iff_exists_get?
  states_iff state := (realizes.states_iff state).trans (or_congr_right mem_newStates_iff)
  finals_iff state := by
    have isLhs : grammar.Produces state .epsilon → state ∈ grammar.nonTerminals :=
      fun produced => declared.lhs _ (lhs_of_produces produced)
    rw [realizes.finals_iff, mem_blueprint_finals_iff, mem_newStates_iff, or_assoc,
      and_iff_right_of_imp isLhs]
  copies owner twin found symbol := by
    have nonTerminal := owner_mem_nonTerminals found
    rw [realizes.target?_of_owned declared nonTerminal (Blueprint.mem_sources_iff.mpr (.inr found)),
      realizes.target?_of_owned declared nonTerminal Blueprint.self_mem_sources]
  finalName_stops := realizes.target?_finalName declared
  diverted lhs symbol owner ends kept := realizes.target?_of_keeps declared ends kept
  avoids_nonTerminals lhs symbol ends owner nonTerminal found :=
    newState_not_mem (realizes.target_mem_newStates declared ends found) nonTerminal

end Realizes

/--
The names of the new states of a built grammar whose start symbol and left-hand sides are
non-terminals are found by searches that end, differ from each other and are new.  The
conversion goes through, and the twins of its automaton stand in for the non-terminals that
need one.
-/
theorem newStates_toAutomaton
    (built : grammar.Built)
    (declared : grammar.Declared)
    (name : Option String) :
    NewNames grammar ∧ (grammar.toAutomaton name).Succeeds ∧
      Doubles (grammar.toAutomaton name).model grammar := by
  rcases realizes_toAutomaton built.namesTrimmed declared name with ⟨went, realizes⟩
  exact ⟨grammar.newNames, went, realizes.doubles declared⟩

/--
A grammar that has taken the first names for the further state and for the twin of `B`,
which is a step of itself; of the pair `S`, `a` it is not the step that is kept.
-/
def teeming : Grammar where
  name := "teeming"
  nonTerminals := .ofList ["B", "B+qf'", "C", "S", "qf"]
  terminals := .ofList ["a", "b"]
  start := some "S"
  productions :=
    (Table.insert ∅ "S" ["aB", "aC", "a", "bB", "b"]).insert "B" ["bB", "b"]

theorem teeming_built : teeming.Built := by
  have history : teeming = after "teeming"
      [.setNonTerminals ["S", "B", "C", "qf", "B+qf'"], .setTerminals ["a", "b"],
        .setStart "S", .addProductions "S->aB;S->aC;S->a;S->bB;S->b;B->bB;B->b"] := by
    decide +kernel
  exact history ▸ built_after _ _

/-- The twin of `B` has two primes and leads to itself, as its non-terminal leads to it. -/
theorem newStates_toAutomaton_teeming :
    teeming.Built ∧ teeming.Declared ∧ teeming.NeedsTwin "B" ∧
      teeming.twins.get? "B" = some "B+qf''" ∧
      (teeming.toAutomaton none).model.target? "B" "b" = some "B+qf''" ∧
      (teeming.toAutomaton none).model.target? "B+qf''" "b" = some "B+qf''" ∧
      (teeming.toAutomaton none).model.target? "S" "a" ≠ some "B" := by
  have declared : teeming.Declared := by
    decide
  have twin : teeming.twins.get? "B" = some "B+qf''" := by
    decide +kernel
  have ends : teeming.Produces "B" (.terminal "b") := ⟨"b", by decide, by decide⟩
  have kept : teeming.Keeps "B" (.step "b" "B") := ⟨[], [], by decide, by decide, by decide⟩
  have alone : teeming.Produces "S" (.terminal "a") := ⟨"a", by decide, by decide⟩
  rcases newStates_toAutomaton teeming_built declared none with ⟨_, _, doubles⟩
  have loop := (doubles.diverted "B" "b" "B" ends kept).trans twin
  exact ⟨teeming_built, declared, ⟨"B", "b", ends, kept⟩, twin, loop,
    (doubles.copies "B" "B+qf''" twin "b").trans loop,
    doubles.avoids_nonTerminals "S" "a" alone "B" (by decide)⟩

end Grammar

end RegularModels
