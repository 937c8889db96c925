import Mathlib.Data.List.Basic
import RegularModels.Proofs.Automaton.Connection

/-!
# Well-formed automata

An automaton is well-formed when every state and every symbol that it refers to is
declared, and all names that it stores are trimmed.  An operation of a machine keeps
the automaton well-formed, also when it is refused midway, unless it replaces the
states or the alphabet; then it does so exactly when the new set still has every name
that is referred to.
-/

namespace RegularModels

open Text (Trimmed trim trimmed_of_mem_ofList_trim)

namespace Automaton

/-- The initial state, the final states and the ends of the transitions. -/
def referredStates (automaton : Automaton) : List String :=
  automaton.initial.toList ++ automaton.finals.toList ++
    automaton.transitions.entries.flatMap fun entry => [entry.1.1, entry.2]

/-- The symbols of the transitions. -/
def referredSymbols (automaton : Automaton) : List String :=
  automaton.transitions.keys.map Prod.snd

/-- All states and symbols that stand anywhere in the automaton. -/
def storedNames (automaton : Automaton) : List String :=
  automaton.states.toList ++ automaton.alphabet.toList ++
    automaton.referredStates ++ automaton.referredSymbols

/-- All names that the automaton refers to are declared, and all its names are trimmed. -/
structure WellFormed (automaton : Automaton) : Prop where
  states : ∀ state ∈ automaton.referredStates, state ∈ automaton.states
  alphabet : ∀ symbol ∈ automaton.referredSymbols, symbol ∈ automaton.alphabet
  trimmed : ∀ name ∈ automaton.storedNames, Trimmed name

instance (automaton : Automaton) : Decidable automaton.WellFormed :=
  decidable_of_iff
    ((∀ state ∈ automaton.referredStates, state ∈ automaton.states) ∧
      (∀ symbol ∈ automaton.referredSymbols, symbol ∈ automaton.alphabet) ∧
        ∀ name ∈ automaton.storedNames, Trimmed name)
    ⟨fun ⟨states, alphabet, trimmed⟩ => ⟨states, alphabet, trimmed⟩,
      fun ⟨states, alphabet, trimmed⟩ => ⟨states, alphabet, trimmed⟩⟩

variable {automaton : Automaton}

/-- The states that the initial state, the final states or a transition refer to. -/
theorem mem_referredStates_iff {state : String} :
    state ∈ automaton.referredStates ↔
      automaton.initial = some state ∨ state ∈ automaton.finals ∨
        ∃ source symbol target, automaton.target? source symbol = some target ∧
          (state = source ∨ state = target) := by
  simp only [referredStates, target?, Table.get?_eq_some_iff, List.mem_append, List.mem_flatMap,
    List.mem_pair, Option.mem_toList, NameSet.mem_toList, or_assoc]
  constructor
  · rintro (initial | final | ⟨⟨⟨source, symbol⟩, target⟩, member, same⟩)
    · exact .inl initial
    · exact .inr (.inl final)
    · exact .inr (.inr ⟨source, symbol, target, member, same⟩)
  · rintro (initial | final | ⟨source, symbol, target, member, same⟩)
    · exact .inl initial
    · exact .inr (.inl final)
    · exact .inr (.inr ⟨((source, symbol), target), member, same⟩)

theorem mem_referredSymbols_iff {symbol : String} :
    symbol ∈ automaton.referredSymbols ↔
      ∃ source target, automaton.target? source symbol = some target := by
  simp [referredSymbols, Table.keys, target?, Table.get?_eq_some_iff]

/-- Names that are referred to are trimmed when they are declared and declared ones are. -/
theorem wellFormed_iff :
    automaton.WellFormed ↔
      automaton.NamesTrimmed ∧
        (∀ state, automaton.initial = some state → state ∈ automaton.states) ∧
        (∀ state ∈ automaton.finals, state ∈ automaton.states) ∧
        ∀ source symbol target, automaton.target? source symbol = some target →
          automaton.Declares ⟨source, symbol, target⟩ := by
  constructor
  · rintro ⟨states, alphabet, trimmed⟩
    refine ⟨⟨?_, ?_⟩, ?_, ?_, ?_⟩
    · exact fun state member => trimmed state (by simp [storedNames, NameSet.mem_toList, member])
    · exact fun symbol member => trimmed symbol (by simp [storedNames, NameSet.mem_toList, member])
    · exact fun state initial => states state (mem_referredStates_iff.mpr (.inl initial))
    · exact fun state final => states state (mem_referredStates_iff.mpr (.inr (.inl final)))
    · intro source symbol target found
      constructor
      · exact states _ (mem_referredStates_iff.mpr (.inr (.inr ⟨_, _, _, found, .inl rfl⟩)))
      · exact states _ (mem_referredStates_iff.mpr (.inr (.inr ⟨_, _, _, found, .inr rfl⟩)))
      · exact alphabet _ (mem_referredSymbols_iff.mpr ⟨_, _, found⟩)
  · rintro ⟨trimmed, initial, finals, transitions⟩
    have states : ∀ state ∈ automaton.referredStates, state ∈ automaton.states := by
      intro state referred
      rcases mem_referredStates_iff.mp referred with
        chosen | final | ⟨source, symbol, target, found, rfl | rfl⟩
      · exact initial state chosen
      · exact finals state final
      · exact (transitions _ _ _ found).source
      · exact (transitions _ _ _ found).target
    have alphabet : ∀ symbol ∈ automaton.referredSymbols, symbol ∈ automaton.alphabet := by
      intro symbol referred
      rcases mem_referredSymbols_iff.mp referred with ⟨source, target, found⟩
      exact (transitions _ _ _ found).symbol
    refine ⟨states, alphabet, ?_⟩
    intro name stored
    simp only [storedNames, List.mem_append, or_assoc] at stored
    rcases stored with state | symbol | state | symbol
    · exact trimmed.states name state
    · exact trimmed.alphabet name symbol
    · exact trimmed.states name (states name state)
    · exact trimmed.alphabet name (alphabet name symbol)

/-- A new automaton refers to nothing. -/
theorem wellFormed_new (name : String) (strict : Bool) :
    ({ name, strict } : Automaton).WellFormed := by
  refine wellFormed_iff.mpr ⟨⟨?_, ?_⟩, ?_, ?_, ?_⟩ <;> simp [target?]

namespace WellFormed

/-! ## Operations that add something -/

/-- Connecting declared names keeps an automaton well-formed. -/
theorem connect
    (wellFormed : automaton.WellFormed)
    {transition : Transition}
    (declares : automaton.Declares transition) :
    (automaton.connect transition).WellFormed := by
  rcases wellFormed_iff.mp wellFormed with ⟨trimmed, initial, finals, transitions⟩
  refine wellFormed_iff.mpr ⟨⟨trimmed.states, trimmed.alphabet⟩, initial, finals, ?_⟩
  intro source symbol target found
  rw [target?_connect] at found
  split at found
  · rename_i same
    rw [Transition.pair, Prod.mk.injEq] at same
    rw [← same.1, ← same.2, ← Option.some.inj found]
    exact ⟨declares.source, declares.target, declares.symbol⟩
  · have declared := transitions _ _ _ found
    exact ⟨declared.source, declared.target, declared.symbol⟩

/-- Adding a transition keeps an automaton well-formed, whether it is accepted or refused. -/
theorem insertTransition
    (wellFormed : automaton.WellFormed)
    (transition : Transition) :
    (automaton.insertTransition transition).model.WellFormed := by
  unfold Automaton.insertTransition
  split
  · exact wellFormed
  · rename_i accepted
    have connected := wellFormed.connect (undeclared?_eq_none_iff.mp accepted)
    split
    · exact connected
    · split
      · exact wellFormed
      · exact connected

theorem addPiece
    (wellFormed : automaton.WellFormed)
    (piece : String) :
    (automaton.addPiece piece).model.WellFormed := by
  unfold Automaton.addPiece
  split
  · exact wellFormed.insertTransition _
  · exact wellFormed

/-- A list of transitions keeps an automaton well-formed, however far it comes. -/
theorem addTransitions
    (wellFormed : automaton.WellFormed)
    (text : String) :
    (automaton.addTransitions text).model.WellFormed := by
  unfold Automaton.addTransitions
  exact Outcome.each_model_of WellFormed (fun _ piece kept => kept.addPiece piece) wellFormed _

theorem addAll
    (wellFormed : automaton.WellFormed)
    (transitions : List Transition) :
    (automaton.addAll transitions).model.WellFormed :=
  Outcome.each_model_of WellFormed (fun _ _ kept => kept.insertTransition _) wellFormed _

theorem setInitial
    (wellFormed : automaton.WellFormed)
    (name : String) :
    (automaton.setInitial name).model.WellFormed := by
  rcases wellFormed_iff.mp wellFormed with ⟨trimmed, _, finals, transitions⟩
  unfold Automaton.setInitial
  split
  · rename_i declared
    refine wellFormed_iff.mpr ⟨⟨trimmed.states, trimmed.alphabet⟩, ?_, finals, ?_⟩
    · rintro state chosen
      exact Option.some.inj chosen ▸ declared
    · intro source symbol target found
      have declares := transitions _ _ _ found
      exact ⟨declares.source, declares.target, declares.symbol⟩
  · exact wellFormed

theorem setFinals
    (wellFormed : automaton.WellFormed)
    (names : List String) :
    (automaton.setFinals names).model.WellFormed := by
  rcases wellFormed_iff.mp wellFormed with ⟨trimmed, initial, _, transitions⟩
  unfold Automaton.setFinals
  split
  · exact wellFormed
  · rename_i noneUnknown
    refine wellFormed_iff.mpr ⟨⟨trimmed.states, trimmed.alphabet⟩, initial, ?_, ?_⟩
    · intro state final
      have known := List.find?_eq_none.mp noneUnknown state (NameSet.mem_ofList.mp final)
      simpa using known
    · intro source symbol target found
      have declares := transitions _ _ _ found
      exact ⟨declares.source, declares.target, declares.symbol⟩

/-! ## Operations that replace a set -/

/-- The new states are trimmed, so it only matters that none is missing. -/
theorem setStates_iff
    (wellFormed : automaton.WellFormed)
    (names : List String) :
    (automaton.setStates names).WellFormed ↔
      ∀ state ∈ automaton.referredStates, state ∈ names.map trim := by
  constructor
  · intro kept state referred
    exact NameSet.mem_ofList.mp (kept.states state referred)
  · intro retained
    rcases wellFormed_iff.mp wellFormed with ⟨trimmed, _, _, transitions⟩
    have declared : ∀ state ∈ automaton.referredStates,
        state ∈ (automaton.setStates names).states :=
      fun state referred => NameSet.mem_ofList.mpr (retained state referred)
    refine wellFormed_iff.mpr ⟨⟨?_, trimmed.alphabet⟩, ?_, ?_, ?_⟩
    · exact fun _ member => trimmed_of_mem_ofList_trim member
    · exact fun state initial => declared state (mem_referredStates_iff.mpr (.inl initial))
    · exact fun state final => declared state (mem_referredStates_iff.mpr (.inr (.inl final)))
    · intro source symbol target found
      constructor
      · exact declared _ (mem_referredStates_iff.mpr (.inr (.inr ⟨_, _, _, found, .inl rfl⟩)))
      · exact declared _ (mem_referredStates_iff.mpr (.inr (.inr ⟨_, _, _, found, .inr rfl⟩)))
      · exact (transitions _ _ _ found).symbol

/--
Declaring an alphabet keeps an automaton well-formed exactly when no symbol in use is left
out.
-/
theorem setAlphabet_iff
    (wellFormed : automaton.WellFormed)
    (symbols : List String) :
    (automaton.setAlphabet symbols).WellFormed ↔
      ∀ symbol ∈ automaton.referredSymbols, symbol ∈ symbols.map trim := by
  constructor
  · intro kept symbol referred
    exact NameSet.mem_ofList.mp (kept.alphabet symbol referred)
  · intro retained
    rcases wellFormed_iff.mp wellFormed with ⟨trimmed, initial, finals, transitions⟩
    refine wellFormed_iff.mpr ⟨⟨trimmed.states, ?_⟩, initial, finals, ?_⟩
    · exact fun _ member => trimmed_of_mem_ofList_trim member
    · intro source symbol target found
      have declares := transitions _ _ _ found
      have symbolDeclared : symbol ∈ (automaton.setAlphabet symbols).alphabet :=
        NameSet.mem_ofList.mpr
          (retained symbol (mem_referredSymbols_iff.mpr ⟨source, target, found⟩))
      exact ⟨declares.source, declares.target, symbolDeclared⟩

end WellFormed

end Automaton

/-! ## All operations of a machine -/

/--
If the operation replaces the states or the alphabet, the new set has every name that
the automaton refers to.
-/
def Machine.Operation.Retains (automaton : Automaton) : Machine.Operation → Prop
  | .setStates names => ∀ state ∈ automaton.referredStates, state ∈ names.map trim
  | .setAlphabet symbols => ∀ symbol ∈ automaton.referredSymbols, symbol ∈ symbols.map trim
  | _ => True

instance (automaton : Automaton) :
    (operation : Machine.Operation) → Decidable (operation.Retains automaton)
  | .setStates _ | .setAlphabet _ => inferInstanceAs (Decidable (∀ _ ∈ _, _))
  | .setInitial _ | .setFinals _ | .addTransition .. | .addTransitions _ | .reset | .process _
  | .recognize _ => isTrue trivial

/-- The operations that keep an automaton well-formed are those that retain its names. -/
theorem Automaton.WellFormed.apply_iff
    {machine : Machine}
    (wellFormed : machine.automaton.WellFormed)
    (operation : Machine.Operation) :
    (machine.apply operation).model.automaton.WellFormed ↔
      operation.Retains machine.automaton := by
  cases operation with
  | setStates names => exact wellFormed.setStates_iff names
  | setAlphabet symbols => exact wellFormed.setAlphabet_iff symbols
  | setInitial name => exact iff_of_true (wellFormed.setInitial name) trivial
  | setFinals names => exact iff_of_true (wellFormed.setFinals names) trivial
  | addTransition source symbol target =>
      exact iff_of_true (wellFormed.insertTransition _) trivial
  | addTransitions text => exact iff_of_true (wellFormed.addTransitions text) trivial
  | reset | process | recognize =>
      rw [Machine.automaton_apply_of_runs (by exact trivial)]
      exact iff_of_true wellFormed trivial

end RegularModels
