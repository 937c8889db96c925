import RegularModels.Proofs.Automaton.Connection

/-!
# Pairs that are written again

An automaton that is not strict announces each new target of a pair that has one.
Of a list of transitions that are written one after the other, those of one pair are
announced one by one, apart from the first when the pair is new.
-/

namespace RegularModels

namespace Event

/-- The pair that got a new target. -/
def overwrittenPair? : Event → Option (String × String)
  | transitionOverwrite _ state symbol _ _ => some (state, symbol)
  | _ => none

/-- The pairs that got new targets, once for each report. -/
def overwrittenPairs (events : List Event) : List (String × String) :=
  events.filterMap overwrittenPair?

@[simp]
theorem overwrittenPairs_nil : overwrittenPairs [] = [] :=
  rfl

@[simp]
theorem overwrittenPairs_append (earlier later : List Event) :
    overwrittenPairs (earlier ++ later) = overwrittenPairs earlier ++ overwrittenPairs later :=
  List.filterMap_append

theorem overwrittenPair?_eq_none_iff {event : Event} :
    event.overwrittenPair? = none ↔ ¬event.IsOverwrite := by
  cases event <;> simp [overwrittenPair?, IsOverwrite]

theorem overwrittenPairs_eq_nil_iff {events : List Event} :
    overwrittenPairs events = [] ↔ ∀ event ∈ events, ¬event.IsOverwrite := by
  simp only [overwrittenPairs, List.filterMap_eq_nil_iff, overwrittenPair?_eq_none_iff]

end Event

namespace Automaton

open Event (overwrittenPairs)

variable {automaton : Automaton}

/-! ## What additions announce -/

theorem isOverwrite_of_mem_overwriting (automaton : Automaton) (transition : Transition) :
    ∀ event ∈ automaton.overwriting transition, event.IsOverwrite := by
  unfold overwriting
  cases automaton.target? transition.source transition.symbol <;> simp [Event.IsOverwrite]

/-- Nothing but overwriting is announced about a transition. -/
theorem isOverwrite_of_mem_events_insertTransition
    (automaton : Automaton) (transition : Transition) :
    ∀ event ∈ (automaton.insertTransition transition).events, event.IsOverwrite := by
  rcases automaton.insertTransition_cases transition with ⟨error, refused⟩ | ⟨_, _, written⟩
  · simp [refused, Outcome.refuse]
  · rw [written]
    exact automaton.isOverwrite_of_mem_overwriting transition

theorem isOverwrite_of_mem_events_addPiece
    (automaton : Automaton) (piece : String) :
    ∀ event ∈ (automaton.addPiece piece).events, event.IsOverwrite := by
  unfold addPiece
  split
  · exact automaton.isOverwrite_of_mem_events_insertTransition _
  · simp [Outcome.refuse]

theorem isOverwrite_of_mem_events_addTransitions
    (automaton : Automaton) (text : String) :
    ∀ event ∈ (automaton.addTransitions text).events, event.IsOverwrite :=
  Outcome.each_events_of _ isOverwrite_of_mem_events_addPiece automaton _

/-! ## Pairs that are reported -/

/-- Writing a transition reports its own pair, if that has a target already. -/
theorem overwrittenPairs_overwriting (transition : Transition) :
    overwrittenPairs (automaton.overwriting transition) =
      if automaton.target? transition.source transition.symbol = none then []
      else [transition.pair] := by
  unfold overwriting
  cases automaton.target? transition.source transition.symbol <;> rfl

/-- A pair is reported once for each of its transitions, but not for the first of a new pair. -/
theorem count_overwrittenPairs_addAll
    {transitions : List Transition}
    (trimmed : automaton.NamesTrimmed)
    (lenient : automaton.strict = false)
    (declares : ∀ transition ∈ transitions, automaton.Declares transition)
    (source symbol : String) :
    (overwrittenPairs (automaton.addAll transitions).events).count (source, symbol) =
      (transitions.map Transition.pair).count (source, symbol) -
        if automaton.target? source symbol = none then 1 else 0 := by
  induction transitions generalizing automaton with
  | nil => simp [Outcome.each, Outcome.done]
  | cons transition rest ih =>
      have restDeclares : ∀ later ∈ rest, (automaton.connect transition).Declares later :=
        fun later member => declares_connect_iff.mpr (declares later (by simp [member]))
      have further : (overwrittenPairs
          ((automaton.connect transition).addAll rest).events).count (source, symbol) =
            (rest.map Transition.pair).count (source, symbol) -
              if (automaton.connect transition).target? source symbol = none then 1 else 0 :=
        ih ⟨trimmed.states, trimmed.alphabet⟩ lenient restDeclares
      rw [addAll, Outcome.each,
        addTransition_of_declares trimmed lenient (declares transition (by simp)),
        Outcome.andThen_announce, Event.overwrittenPairs_append, List.count_append, further,
        overwrittenPairs_overwriting, target?_connect, List.map_cons, List.count_cons]
      by_cases same : transition.pair = (source, symbol)
      · rcases Prod.mk.inj same with ⟨sameSource, sameSymbol⟩
        rw [sameSource, sameSymbol]
        -- The pair has a target from here on; whether it had one before decides.
        cases automaton.target? source symbol with
        | none => simp [same]
        | some previous => simp [same, Nat.add_comm]
      · have other : (if automaton.target? transition.source transition.symbol = none then []
            else [transition.pair]).count (source, symbol) = 0 := by
          split <;> simp [same]
        simp [other, same]

end Automaton

end RegularModels
