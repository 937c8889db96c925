import Mathlib.Data.List.Basic
import Mathlib.Data.List.ProdSigma
import RegularModels.Automaton.Inspect
import RegularModels.Proofs.Automaton.Acceptance
import RegularModels.Proofs.Automaton.Connection
import RegularModels.Proofs.Automaton.WellFormed
import RegularModels.Proofs.Entries

/-!
# Complete automata

The missing transitions are the pairs of a state and a symbol without a target, in
increasing order, each once.  When all names of the transitions are declared, the missing
pairs and the transitions together are all the pairs, and the automaton is complete
exactly when no run over its alphabet ever gets stuck, from whatever state it starts.
-/

namespace RegularModels.Automaton

variable {automaton : Automaton} {state symbol : String}

/-- All names that the transitions use are declared. -/
def TransitionsDeclared (automaton : Automaton) : Prop :=
  ∀ source symbol target,
    automaton.target? source symbol = some target → automaton.Declares ⟨source, symbol, target⟩

theorem WellFormed.transitionsDeclared (wellFormed : automaton.WellFormed) :
    automaton.TransitionsDeclared :=
  (wellFormed_iff.mp wellFormed).2.2.2

/-! ## The pairs without a target -/

theorem pairs_eq_product (automaton : Automaton) :
    automaton.pairs = automaton.states.toList ×ˢ automaton.alphabet.toList :=
  rfl

theorem mem_pairs_iff :
    (state, symbol) ∈ automaton.pairs ↔
      state ∈ automaton.states ∧ symbol ∈ automaton.alphabet :=
  List.mem_product

/-- A pair is missing when its state and symbol are declared and no transition leaves by it. -/
theorem mem_missing_iff :
    (state, symbol) ∈ automaton.missing ↔
      state ∈ automaton.states ∧ symbol ∈ automaton.alphabet ∧
        automaton.target? state symbol = none := by
  rw [missing, List.mem_filter, mem_pairs_iff, decide_eq_true_eq, target?,
    Table.get?_eq_none_iff, and_assoc]

/-- A pair comes before another by its state or, when they have the same, by its symbol. -/
def PairLt (left right : String × String) : Prop :=
  left.1 < right.1 ∨ left.1 = right.1 ∧ left.2 < right.2

theorem PairLt.ne {left right : String × String} (lower : PairLt left right) : left ≠ right := by
  rintro rfl
  rcases lower with lower | ⟨_, lower⟩ <;> exact String.lt_irrefl _ lower

/-- Pairs are listed by state and then by symbol. -/
theorem increasing_pairs (automaton : Automaton) : automaton.pairs.Pairwise PairLt := by
  rw [pairs, List.pairwise_flatMap]
  constructor
  · intro state _
    rw [List.pairwise_map]
    exact automaton.alphabet.increasing.imp fun lower => .inr ⟨rfl, lower⟩
  · apply automaton.states.increasing.imp
    intro first second lower left inFirst right inSecond
    rcases List.mem_map.mp inFirst with ⟨_, _, rfl⟩
    rcases List.mem_map.mp inSecond with ⟨_, _, rfl⟩
    exact .inl lower

theorem increasing_missing (automaton : Automaton) : automaton.missing.Pairwise PairLt :=
  automaton.increasing_pairs.filter _

/-- The pairs that have a target are those of the transitions. -/
theorem perm_keys_filter_pairs (declared : automaton.TransitionsDeclared) :
    (automaton.pairs.filter (· ∈ automaton.transitions)).Perm automaton.transitions.keys := by
  have different : automaton.pairs.Nodup := automaton.increasing_pairs.imp PairLt.ne
  apply (List.perm_ext_iff_of_nodup (different.filter _) automaton.transitions.nodup).mpr
  rintro ⟨source, symbol⟩
  rw [List.mem_filter, decide_eq_true_eq, mem_pairs_iff]
  constructor
  · exact fun member => member.2
  · intro member
    rcases Table.mem_iff_exists_get?.mp member with ⟨target, found⟩
    have names := declared source symbol target found
    exact ⟨⟨names.source, names.symbol⟩, member⟩

/-- Each pair of a state and a symbol is missing or has exactly one transition. -/
theorem length_missing_add_size (declared : automaton.TransitionsDeclared) :
    automaton.missing.length + automaton.transitions.size =
      automaton.states.size * automaton.alphabet.size := by
  have present : (automaton.pairs.filter (· ∈ automaton.transitions)).length =
      automaton.transitions.size := by
    rw [(perm_keys_filter_pairs declared).length_eq, Table.keys, List.length_map, Table.size]
  have all : automaton.pairs.length = automaton.states.size * automaton.alphabet.size := by
    rw [pairs_eq_product, List.length_product, NameSet.size, NameSet.size]
  rw [← all, ← present, missing, Nat.add_comm]
  simpa using (List.length_eq_length_filter_add (l := automaton.pairs)
    (· ∈ automaton.transitions)).symm

/-! ## Runs that never get stuck -/

/-- The automaton is complete when every state can read every symbol. -/
theorem isComplete_iff :
    automaton.isComplete = true ↔
      ∀ state ∈ automaton.states, ∀ symbol ∈ automaton.alphabet,
        ∃ target, automaton.target? state symbol = some target := by
  rw [isComplete, List.isEmpty_iff, List.eq_nil_iff_forall_not_mem]
  constructor
  · intro none state isState symbol isSymbol
    apply Option.ne_none_iff_exists'.mp
    exact fun stops => none (state, symbol) (mem_missing_iff.mpr ⟨isState, isSymbol, stops⟩)
  · rintro total ⟨state, symbol⟩ absent
    rcases mem_missing_iff.mp absent with ⟨isState, isSymbol, stops⟩
    rcases total state isState symbol isSymbol with ⟨target, found⟩
    rw [stops] at found
    cases found

/-- The run of a complete automaton stays among the states, and so it always goes on. -/
theorem exists_consumes
    (declared : automaton.TransitionsDeclared)
    (complete : automaton.isComplete = true)
    {run : Run}
    (stands : run.current = some state)
    (isState : state ∈ automaton.states)
    {word : List String}
    (isWord : ∀ symbol ∈ word, symbol ∈ automaton.alphabet) :
    ∃ last, Machine.Consumes ⟨automaton, run⟩ word last := by
  induction word generalizing run state with
  | nil => exact ⟨_, .nil _⟩
  | cons symbol rest ih =>
      rw [List.forall_mem_cons] at isWord
      rcases isComplete_iff.mp complete state isState symbol isWord.1 with ⟨target, found⟩
      have moved : automaton.advance run symbol = .moved (run.visit target symbol) := by
        simp only [advance, stands, step?, if_pos isWord.1, found]
      rcases ih (Run.current_visit run target symbol) (declared _ _ _ found).target isWord.2 with
        ⟨last, further⟩
      exact ⟨last, .cons (process_of_moved moved) further⟩

/--
When the names of all transitions are declared, the missing pairs are exactly the pairs of
a state and a symbol without a target, listed once in increasing order; with the
transitions they are as many as there are pairs.  The automaton is complete when from
every state every list of its symbols is consumed, and only then.
-/
theorem missing_and_complete (declared : automaton.TransitionsDeclared) :
    automaton.missing.Pairwise PairLt ∧
    automaton.missing.Nodup ∧
    (∀ state symbol, (state, symbol) ∈ automaton.missing ↔
      state ∈ automaton.states ∧ symbol ∈ automaton.alphabet ∧
        automaton.target? state symbol = none) ∧
    automaton.missing.length + automaton.transitions.size =
      automaton.states.size * automaton.alphabet.size ∧
    (automaton.isComplete = true ↔
      ∀ run state, run.current = some state → state ∈ automaton.states →
        ∀ word, (∀ symbol ∈ word, symbol ∈ automaton.alphabet) →
          ∃ last, Machine.Consumes ⟨automaton, run⟩ word last) := by
  refine ⟨automaton.increasing_missing, automaton.increasing_missing.imp PairLt.ne,
    fun _ _ => mem_missing_iff, length_missing_add_size declared, ?_⟩
  constructor
  · intro complete run state stands isState word isWord
    exact exists_consumes declared complete stands isState isWord
  · intro consumes
    rw [isComplete_iff]
    intro state isState symbol isSymbol
    rcases consumes (.start (some state)) state rfl isState [symbol] (by simpa using isSymbol) with
      ⟨last, consumed⟩
    cases consumed with
    | cons processed _ =>
        have moved := (advance_of_process processed).1
        cases found : automaton.target? state symbol with
        | some target => exact ⟨target, rfl⟩
        | none =>
            simp [advance, step?, isSymbol, found] at moved

/-- An automaton with two states that cannot come back from the second. -/
def oneWay : Automaton :=
  (Machine.after "oneWay"
    [.setStates ["q1", "q0"], .setAlphabet ["b", "a"], .addTransition "q0" "a" "q1"]).automaton

/-- Three of the four pairs are missing, so some run gets stuck. -/
theorem missing_and_complete_oneWay :
    oneWay.TransitionsDeclared ∧
      oneWay.missing = [("q0", "b"), ("q1", "a"), ("q1", "b")] ∧
      oneWay.missing.length + 1 = 2 * 2 ∧
      ¬∀ run state, run.current = some state → state ∈ oneWay.states →
        ∀ word, (∀ symbol ∈ word, symbol ∈ oneWay.alphabet) →
          ∃ last, Machine.Consumes ⟨oneWay, run⟩ word last := by
  have wellFormed : oneWay.WellFormed := by decide +kernel
  have declared := wellFormed.transitionsDeclared
  rcases missing_and_complete declared with ⟨_, _, _, count, complete⟩
  refine ⟨declared, by decide +kernel, count, ?_⟩
  rw [← complete]
  decide +kernel

end RegularModels.Automaton
