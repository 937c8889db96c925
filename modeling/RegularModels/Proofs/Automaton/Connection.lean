import Mathlib.Data.List.Induction
import RegularModels.Automaton.Basic
import RegularModels.Proofs.Automaton.Reachable

/-!
# Adding lists of transitions

A transition between declared names is written, whatever stood there before.  Of several
transitions of one pair the last one stays, and nothing is announced when all pairs are
new and differ from each other.
-/

namespace RegularModels

/-- The state and the symbol that a transition belongs to. -/
def Transition.pair (transition : Transition) : String × String :=
  (transition.source, transition.symbol)

/-- The target that stays when transitions are written one after the other. -/
def lastTarget? (transitions : List Transition) (source symbol : String) : Option String :=
  (transitions.filter (·.pair = (source, symbol))).getLast?.map (·.target)

theorem mem_of_lastTarget?
    {transitions : List Transition} {source symbol target : String}
    (found : lastTarget? transitions source symbol = some target) :
    ⟨source, symbol, target⟩ ∈ transitions := by
  rcases Option.map_eq_some_iff.mp found with ⟨transition, last, rfl⟩
  rcases List.mem_filter.mp (List.mem_of_getLast? last) with ⟨member, same⟩
  rw [decide_eq_true_eq, Transition.pair, Prod.mk.injEq] at same
  rcases same with ⟨rfl, rfl⟩
  exact member

/-- Later transitions take precedence over earlier ones. -/
theorem lastTarget?_append (earlier later : List Transition) (source symbol : String) :
    lastTarget? (earlier ++ later) source symbol =
      (lastTarget? later source symbol).or (lastTarget? earlier source symbol) := by
  rw [lastTarget?, List.filter_append, List.getLast?_append, Option.map_or]
  rfl

/-- A pair is as frequent among the pairs of transitions as transitions belong to it. -/
theorem count_map_pair (transitions : List Transition) (pair : String × String) :
    (transitions.map Transition.pair).count pair =
      (transitions.filter (·.pair = pair)).length := by
  rw [List.count, List.countP_map, ← List.countP_eq_length_filter]
  apply List.countP_congr
  intro transition _
  simp

namespace Automaton

/-- The three names of a transition are declared. -/
structure Declares (automaton : Automaton) (transition : Transition) : Prop where
  source : transition.source ∈ automaton.states
  target : transition.target ∈ automaton.states
  symbol : transition.symbol ∈ automaton.alphabet

/-- All names that the automaton refers to are declared, and it has an initial state. -/
structure Declared (automaton : Automaton) : Prop where
  initial : ∃ state ∈ automaton.states, automaton.initial = some state
  finals : ∀ state ∈ automaton.finals, state ∈ automaton.states
  transitions : ∀ source symbol target,
    automaton.target? source symbol = some target → automaton.Declares ⟨source, symbol, target⟩

/-- Whether all names are declared is a question about finitely many names. -/
theorem declared_iff {automaton : Automaton} :
    automaton.Declared ↔
      (∃ state ∈ automaton.states.toList, automaton.initial = some state) ∧
      (∀ state ∈ automaton.finals.toList, state ∈ automaton.states) ∧
      ∀ entry ∈ automaton.transitions.entries,
        entry.1.1 ∈ automaton.states ∧ entry.2 ∈ automaton.states ∧
          entry.1.2 ∈ automaton.alphabet := by
  constructor
  · rintro ⟨initial, finals, transitions⟩
    refine ⟨initial, finals, ?_⟩
    rintro ⟨⟨source, symbol⟩, target⟩ member
    have declares := transitions source symbol target (Table.get?_eq_some_iff.mpr member)
    exact ⟨declares.source, declares.target, declares.symbol⟩
  · rintro ⟨initial, finals, transitions⟩
    refine ⟨initial, finals, ?_⟩
    intro source symbol target found
    rcases transitions _ (Table.get?_eq_some_iff.mp found) with ⟨isSource, isTarget, isSymbol⟩
    exact ⟨isSource, isTarget, isSymbol⟩

instance (automaton : Automaton) : Decidable automaton.Declared :=
  decidable_of_iff _ declared_iff.symm

/-- Add transitions one after the other, up to the first that is refused. -/
abbrev addAll (automaton : Automaton) (transitions : List Transition) : Outcome Automaton :=
  .each (fun automaton transition =>
    automaton.addTransition transition.source transition.symbol transition.target)
    automaton transitions

/-- Write transitions one after the other. -/
def connectAll (automaton : Automaton) (transitions : List Transition) : Automaton :=
  transitions.foldl connect automaton

variable {automaton : Automaton}

/-- No step is lost to the alphabet when the symbols of all transitions are declared. -/
theorem step?_eq_target?
    (declared : automaton.Declared) (state symbol : String) :
    automaton.step? state symbol = automaton.target? state symbol := by
  unfold step?
  cases found : automaton.target? state symbol with
  | none => simp
  | some target => rw [if_pos (declared.transitions _ _ _ found).symbol]

/-! ## One transition -/

theorem target?_connect (transition : Transition) (source symbol : String) :
    (automaton.connect transition).target? source symbol =
      if transition.pair = (source, symbol) then some transition.target
      else automaton.target? source symbol := by
  rw [target?, connect, Table.get?_insert]
  rfl

theorem declares_connect_iff {written transition : Transition} :
    (automaton.connect written).Declares transition ↔ automaton.Declares transition :=
  ⟨fun declared => ⟨declared.source, declared.target, declared.symbol⟩,
    fun declared => ⟨declared.source, declared.target, declared.symbol⟩⟩

theorem undeclared?_of_declares
    {transition : Transition}
    (declares : automaton.Declares transition) :
    automaton.undeclared? transition = none := by
  simp [undeclared?, declares.source, declares.target, declares.symbol]

theorem undeclared?_eq_none_iff {transition : Transition} :
    automaton.undeclared? transition = none ↔ automaton.Declares transition := by
  constructor
  · intro accepted
    unfold undeclared? at accepted
    split at accepted
    · cases accepted
    · rename_i source
      split at accepted
      · cases accepted
      · rename_i target
        split at accepted
        · cases accepted
        · rename_i symbol
          exact ⟨Decidable.not_not.mp source, Decidable.not_not.mp target,
            Decidable.not_not.mp symbol⟩
  · exact undeclared?_of_declares

/-- A transition between declared names is written, whatever stood there before. -/
theorem addTransition_of_declares
    {transition : Transition}
    (trimmed : automaton.NamesTrimmed)
    (lenient : automaton.strict = false)
    (declares : automaton.Declares transition) :
    automaton.addTransition transition.source transition.symbol transition.target =
      .announce (automaton.connect transition) (automaton.overwriting transition) := by
  have sourceEq := trimmed.states _ declares.source
  have targetEq := trimmed.states _ declares.target
  have symbolEq := trimmed.alphabet _ declares.symbol
  rw [addTransition, sourceEq, targetEq, symbolEq, insertTransition,
    undeclared?_of_declares declares, overwriting]
  cases automaton.target? transition.source transition.symbol with
  | none => rfl
  | some previous => simp [lenient]

/-! ## Lists of transitions -/

theorem connectAll_concat (transitions : List Transition) (transition : Transition) :
    automaton.connectAll (transitions ++ [transition]) =
      (automaton.connectAll transitions).connect transition := by
  rw [connectAll, List.foldl_append]
  rfl

/-- Writing transitions changes nothing else. -/
theorem connectAll_frame (automaton : Automaton) (transitions : List Transition) :
    automaton.connectAll transitions =
      { automaton with transitions := (automaton.connectAll transitions).transitions } := by
  induction transitions generalizing automaton with
  | nil => rfl
  | cons transition rest ih =>
      have frame := ih (automaton.connect transition)
      rw [connectAll, List.foldl_cons]
      exact frame

theorem declares_connectAll_iff {transitions : List Transition} {transition : Transition} :
    (automaton.connectAll transitions).Declares transition ↔ automaton.Declares transition := by
  rw [connectAll_frame]
  exact ⟨fun declared => ⟨declared.1, declared.2, declared.3⟩,
    fun declared => ⟨declared.1, declared.2, declared.3⟩⟩

/--
Of several connections of one pair the last one counts; without any, the pair leads where it
led.
-/
theorem target?_connectAll
    (automaton : Automaton) (transitions : List Transition) (source symbol : String) :
    (automaton.connectAll transitions).target? source symbol =
      (lastTarget? transitions source symbol).or (automaton.target? source symbol) := by
  induction transitions using List.reverseRecOn with
  | nil => rfl
  | append_singleton transitions transition ih =>
      rw [connectAll_concat, target?_connect, ih, lastTarget?, lastTarget?, List.filter_append]
      by_cases same : transition.pair = (source, symbol) <;> simp [same]

/-- Nothing is announced when every pair is written for the first time. -/
theorem events_addAll
    {transitions : List Transition}
    (trimmed : automaton.NamesTrimmed)
    (lenient : automaton.strict = false)
    (declares : ∀ transition ∈ transitions, automaton.Declares transition)
    (new : ∀ transition ∈ transitions,
      automaton.target? transition.source transition.symbol = none)
    (nodup : (transitions.map Transition.pair).Nodup) :
    (automaton.addAll transitions).events = [] := by
  induction transitions generalizing automaton with
  | nil => rfl
  | cons transition rest ih =>
      rcases List.nodup_cons.mp nodup with ⟨different, restNodup⟩
      have silent : automaton.overwriting transition = [] := by
        rw [overwriting, new transition (by simp)]
      have restDeclares : ∀ later ∈ rest, (automaton.connect transition).Declares later :=
        fun later member => declares_connect_iff.mpr (declares later (by simp [member]))
      have restNew : ∀ later ∈ rest,
          (automaton.connect transition).target? later.source later.symbol = none := by
        intro later member
        rw [target?_connect, if_neg, new later (List.mem_cons_of_mem _ member)]
        intro same
        exact different (List.mem_map.mpr ⟨later, member, same.symm⟩)
      rw [addAll, Outcome.each,
        addTransition_of_declares trimmed lenient (declares transition (by simp)), silent,
        Outcome.andThen_announce]
      exact ih ⟨trimmed.states, trimmed.alphabet⟩ lenient restDeclares restNew restNodup

end Automaton

end RegularModels
