import RegularModels.Proofs.Automaton.Overwrites
import RegularModels.Proofs.Entries
import RegularModels.Proofs.FirstAppearances

/-!
# The account of the transitions

The transitions of an automaton are what the additions that took effect have made of
them: every pair leads where the last of its additions has put it, and the pairs stand
in the order of their first additions.  Each addition has either brought a new pair or
been reported with the target before and the target behind it, so there are as many
additions as transitions and reports.  A strict automaton takes no addition that would
have to be reported.
-/

namespace RegularModels

open Text (trim)

/-- An addition of a transition that took effect, and the automaton as it was before. -/
structure Addition where
  before : Automaton
  transition : Transition

namespace Addition

/-- The automaton as the addition has left it. -/
def after (addition : Addition) : Automaton :=
  (addition.before.insertTransition addition.transition).model

/-- What is reported of a pair that had a target: the one before and the one behind. -/
def report? (addition : Addition) : Option Event :=
  let ⟨source, symbol, _⟩ := addition.transition
  match addition.before.target? source symbol, addition.after.target? source symbol with
  | some previous, some target =>
      some (.transitionOverwrite addition.before.name source symbol previous target)
  | _, _ => none

end Addition

/-! ## What takes effect -/

namespace Automaton

/--
The additions that take effect when transitions are asked for one after the other.  A
malformed text asks for none; it ends the list, and so does a transition that is refused.
-/
def additions (automaton : Automaton) : List (Option Transition) → List Addition
  | [] | none :: _ => []
  | some transition :: later =>
    let outcome := automaton.insertTransition transition
    if outcome.Succeeds then ⟨automaton, transition⟩ :: outcome.model.additions later else []

end Automaton

namespace Machine

/-- The transitions that an operation asks for. -/
def Operation.requests : Operation → List (Option Transition)
  | addTransition source symbol target => [some ⟨trim source, trim symbol, trim target⟩]
  | addTransitions text => (Text.splitAtChar ';' text).map Transition.ofText?
  | setStates _ | setAlphabet _ | setInitial _ | setFinals _ => []
  | reset | process _ | recognize _ => []

/-- The additions that take effect in the course of a history. -/
def additions (machine : Machine) : List Operation → List Addition
  | [] => []
  | operation :: later =>
    machine.automaton.additions operation.requests ++
      (machine.apply operation).model.additions later

/-- The new targets that are reported in the course of a history. -/
def overwrites (machine : Machine) : List Operation → List Event
  | [] => []
  | operation :: later =>
    (machine.apply operation).events.filter (·.IsOverwrite) ++
      (machine.apply operation).model.overwrites later

end Machine

namespace Automaton

variable {automaton : Automaton} {additions : List Addition} {reports : List Event}

/-! ## One addition -/

/-- What is announced is the report with the targets on both sides of the addition. -/
theorem overwriting_eq_report?
    {transition : Transition}
    (accepted : (automaton.insertTransition transition).Succeeds) :
    automaton.overwriting transition =
      (Addition.report? ⟨automaton, transition⟩).toList := by
  have behind : (Addition.after ⟨automaton, transition⟩).target?
      transition.source transition.symbol = some transition.target := by
    rw [Addition.after, insertTransition_of_succeeds accepted, Outcome.announce,
      target?_connect, Transition.pair, if_pos rfl]
  simp only [Addition.report?, behind, overwriting]
  cases automaton.target? transition.source transition.symbol <;> rfl

/-- Writing a transition brings a new pair or a report, and not both. -/
theorem size_connect (transition : Transition) :
    (automaton.connect transition).transitions.size +
      (automaton.overwriting transition).length = automaton.transitions.size + 1 := by
  have written : (automaton.connect transition).transitions.size = _ :=
    automaton.transitions.size_insert (transition.source, transition.symbol) transition.target
  rw [written, overwriting, target?]
  cases automaton.transitions.get? (transition.source, transition.symbol) <;> rfl

/-! ## The account -/

/--
What additions and reports say about an automaton: they count as many additions as
transitions and reports, the reports are those of the additions, every pair leads where
its last addition has put it, and the pairs stand in the order of their first additions.
-/
structure Accounts
    (additions : List Addition) (reports : List Event) (automaton : Automaton) : Prop where
  count : additions.length = automaton.transitions.size + reports.length
  reported : reports = additions.filterMap Addition.report?
  target? : ∀ source symbol,
    automaton.target? source symbol = lastTarget? (additions.map (·.transition)) source symbol
  keys : automaton.transitions.keys =
    firstAppearances (additions.map fun addition => addition.transition.pair)

theorem accounts_new (name : String) (strict : Bool) :
    Accounts [] [] { name, strict } :=
  ⟨rfl, rfl, fun _ _ => rfl, rfl⟩

/-- The account is about the transitions only. -/
theorem Accounts.of_transitions_eq
    {other : Automaton}
    (accounts : Accounts additions reports automaton)
    (same : other.transitions = automaton.transitions) :
    Accounts additions reports other where
  count := by
    rw [same]
    exact accounts.count
  reported := accounts.reported
  target? := by
    intro source symbol
    rw [Automaton.target?, same]
    exact accounts.target? source symbol
  keys := by
    rw [same]
    exact accounts.keys

/-- An accepted transition adds one entry to the account, and a report if it replaces another. -/
theorem Accounts.insertTransition
    (accounts : Accounts additions reports automaton)
    {transition : Transition}
    (accepted : (automaton.insertTransition transition).Succeeds) :
    Accounts (additions ++ [⟨automaton, transition⟩])
      (reports ++ (automaton.insertTransition transition).events)
      (automaton.insertTransition transition).model := by
  rw [insertTransition_of_succeeds accepted]
  constructor
  · have written := automaton.size_connect transition
    have before := accounts.count
    simp only [Outcome.announce, List.length_append, List.length_singleton]
    omega
  · rw [List.filterMap_append, ← accounts.reported, Outcome.announce,
      overwriting_eq_report? accepted, List.filterMap_cons, List.filterMap_nil]
    cases Addition.report? ⟨automaton, transition⟩ <;> rfl
  · intro source symbol
    rw [Outcome.announce, target?_connect, List.map_append, lastTarget?_append,
      accounts.target?]
    by_cases same : transition.pair = (source, symbol) <;> simp [lastTarget?, same]
  · rw [List.map_append]
    exact Table.keys_insert_eq_firstAppearances accounts.keys _ _

/-- Nothing is added behind the first transition that is refused. -/
theorem additions_of_refused
    {transition : Transition} {error : ModelError}
    (refused : automaton.insertTransition transition = .refuse automaton error)
    (later : List (Option Transition)) :
    automaton.additions (some transition :: later) = [] := by
  rw [Automaton.additions, refused]
  exact if_neg (Outcome.not_succeeds_refuse _ _)

theorem additions_of_succeeds
    {transition : Transition}
    (accepted : (automaton.insertTransition transition).Succeeds)
    (later : List (Option Transition)) :
    automaton.additions (some transition :: later) =
      ⟨automaton, transition⟩ ::
        (automaton.insertTransition transition).model.additions later :=
  if_pos accepted

/-- A transition that is asked for is accounted for, accepted or not. -/
theorem Accounts.request
    (accounts : Accounts additions reports automaton)
    (transition : Transition) :
    Accounts (additions ++ automaton.additions [some transition])
      (reports ++ (automaton.insertTransition transition).events)
      (automaton.insertTransition transition).model := by
  rcases automaton.refused_or_succeeds transition with ⟨error, refused⟩ | accepted
  · rw [additions_of_refused refused, refused]
    simpa [Outcome.refuse] using accounts
  · rw [additions_of_succeeds accepted, Automaton.additions]
    exact accounts.insertTransition accepted

/-- A list of texts is accounted for as far as it gets. -/
theorem Accounts.pieces
    (accounts : Accounts additions reports automaton)
    (pieces : List String) :
    Accounts (additions ++ automaton.additions (pieces.map Transition.ofText?))
      (reports ++ (Outcome.each addPiece automaton pieces).events)
      (Outcome.each addPiece automaton pieces).model := by
  induction pieces generalizing automaton additions reports with
  | nil => simpa [Automaton.additions, Outcome.each, Outcome.done] using accounts
  | cons piece rest ih =>
      rw [List.map_cons, Outcome.each]
      cases parsed : Transition.ofText? piece with
      | none =>
          have refused : automaton.addPiece piece =
              .refuse automaton (.malformedTransition (trim piece)) := by
            rw [addPiece, parsed]
          rw [refused, Outcome.andThen_of_error rfl, Automaton.additions]
          simpa [Outcome.refuse] using accounts
      | some transition =>
          have same : automaton.addPiece piece = automaton.insertTransition transition := by
            rw [addPiece, parsed]
          rw [same]
          rcases automaton.refused_or_succeeds transition with ⟨error, refused⟩ | accepted
          · rw [additions_of_refused refused, refused, Outcome.andThen_of_error rfl]
            simpa [Outcome.refuse] using accounts
          · have further := ih (accounts.insertTransition accepted)
            rw [additions_of_succeeds accepted, Outcome.andThen_of_succeeds accepted]
            simpa using further

/-! ## Strict automata -/

/-- No operation changes how strict an automaton is. -/
theorem kept_strict (flag : Bool) : Kept fun automaton => automaton.strict = flag where
  setStates _ _ same := same
  setAlphabet _ _ same := same
  initial _ _ _ same := same
  finals _ _ same := same
  connect _ _ _ same := same

/-- What took effect was accepted, by an automaton as strict as the first. -/
theorem accepted_of_mem_additions
    {requests : List (Option Transition)} {addition : Addition}
    (member : addition ∈ automaton.additions requests) :
    (addition.before.insertTransition addition.transition).Succeeds ∧
      addition.before.strict = automaton.strict := by
  induction requests generalizing automaton with
  | nil => cases member
  | cons request later ih =>
      cases request with
      | none => cases member
      | some transition =>
          rcases automaton.refused_or_succeeds transition with ⟨error, refused⟩ | accepted
          · rw [additions_of_refused refused] at member
            cases member
          · rw [additions_of_succeeds accepted] at member
            rcases List.mem_cons.mp member with rfl | inLater
            · exact ⟨accepted, rfl⟩
            · rcases ih inLater with ⟨laterAccepted, same⟩
              rw [(kept_strict _).insertTransition rfl transition] at same
              exact ⟨laterAccepted, same⟩

/-- A strict automaton accepts only transitions that replace nothing. -/
theorem report?_eq_none_of_strict
    {addition : Addition}
    (strict : addition.before.strict = true)
    (accepted : (addition.before.insertTransition addition.transition).Succeeds) :
    addition.report? = none := by
  have silent := overwriting_eq_report? accepted
  rw [overwriting, target?_eq_none_of_strict strict accepted] at silent
  exact Option.toList_eq_nil_iff.mp silent.symm

/-- The pairs of the earlier automaton have their targets in the later one as well. -/
def Extends (later earlier : Automaton) : Prop :=
  ∀ source symbol target,
    earlier.target? source symbol = some target → later.target? source symbol = some target

/-- A strict automaton only gets new pairs. -/
theorem kept_extends (earlier : Automaton) :
    Kept fun automaton => automaton.strict = true ∧ automaton.Extends earlier where
  setStates _ _ holds := holds
  setAlphabet _ _ holds := holds
  initial _ _ _ holds := holds
  finals _ _ holds := holds
  connect automaton transition accepted holds := by
    refine ⟨holds.1, ?_⟩
    intro source symbol target found
    have present := holds.2 source symbol target found
    rw [target?_connect, if_neg, present]
    intro same
    have new := target?_eq_none_of_strict holds.1 accepted
    rcases Prod.mk.inj same with ⟨sameSource, sameSymbol⟩
    rw [sameSource, sameSymbol, present] at new
    cases new

end Automaton

/-! ## Histories -/

namespace Machine

open Automaton (Accounts)

variable {machine : Machine} {additions : List Addition} {reports : List Event}

/-- What leaves the transitions alone and reports none of them adds nothing. -/
theorem accounts_of_quiet
    {outcome : Outcome Machine}
    (accounts : Accounts additions reports machine.automaton)
    (same : outcome.model.automaton.transitions = machine.automaton.transitions)
    (silent : outcome.events.filter (·.IsOverwrite) = []) :
    Accounts (additions ++ machine.automaton.additions [])
      (reports ++ outcome.events.filter (·.IsOverwrite)) outcome.model.automaton := by
  rw [silent, List.append_nil, Automaton.additions, List.append_nil]
  exact accounts.of_transitions_eq same

/-- Every operation, refused or not, is accounted for by what it asks for. -/
theorem accounts_apply
    (accounts : Accounts additions reports machine.automaton)
    (operation : Operation) :
    Accounts (additions ++ machine.automaton.additions operation.requests)
      (reports ++ (machine.apply operation).events.filter (·.IsOverwrite))
      (machine.apply operation).model.automaton := by
  cases operation with
  | setStates | setAlphabet | reset => exact accounts_of_quiet accounts rfl rfl
  | setInitial name =>
      apply accounts_of_quiet accounts
      all_goals
        simp only [apply, withAutomaton, Outcome.map, Automaton.setInitial]
        split <;> rfl
  | setFinals names =>
      apply accounts_of_quiet accounts
      all_goals
        simp only [apply, withAutomaton, Outcome.map, Automaton.setFinals]
        split <;> rfl
  | process symbol =>
      apply accounts_of_quiet accounts
      all_goals
        simp only [apply, process]
        cases machine.automaton.advance machine.run symbol <;> rfl
  | recognize word =>
      apply accounts_of_quiet accounts rfl
      simp only [apply, recognize, Outcome.announce, Automaton.recognitionEvents]
      split <;> rfl
  | addTransition source symbol target =>
      have overwrites := machine.automaton.isOverwrite_of_mem_events_insertTransition
        ⟨trim source, trim symbol, trim target⟩
      have all : (machine.apply (.addTransition source symbol target)).events.filter
          (·.IsOverwrite) = (machine.apply (.addTransition source symbol target)).events :=
        List.filter_eq_self.mpr fun event member => decide_eq_true (overwrites event member)
      rw [all]
      exact accounts.request _
  | addTransitions text =>
      have overwrites := machine.automaton.isOverwrite_of_mem_events_addTransitions text
      have all : (machine.apply (.addTransitions text)).events.filter
          (·.IsOverwrite) = (machine.apply (.addTransitions text)).events :=
        List.filter_eq_self.mpr fun event member => decide_eq_true (overwrites event member)
      rw [all]
      exact accounts.pieces _

/-- A history goes on with the account of the automaton that it starts from. -/
theorem accounts_history
    (accounts : Accounts additions reports machine.automaton)
    (history : List Operation) :
    Accounts (additions ++ machine.additions history) (reports ++ machine.overwrites history)
      (machine.behind history).automaton := by
  induction history generalizing machine additions reports with
  | nil => simpa [Machine.additions, overwrites, behind] using accounts
  | cons operation later ih =>
      have further := ih (accounts_apply accounts operation)
      simpa [Machine.additions, overwrites, behind] using further

theorem accepted_of_mem_additions
    {history : List Operation} {addition : Addition}
    (member : addition ∈ machine.additions history) :
    (addition.before.insertTransition addition.transition).Succeeds ∧
      addition.before.strict = machine.automaton.strict := by
  induction history generalizing machine with
  | nil => cases member
  | cons operation later ih =>
      rcases List.mem_append.mp member with here | inLater
      · exact Automaton.accepted_of_mem_additions here
      · rcases ih inLater with ⟨accepted, same⟩
        rw [(Automaton.kept_strict _).apply rfl operation] at same
        exact ⟨accepted, same⟩

/--
Behind every history of a new machine, strict or not, the transitions are accounted for
by the additions that took effect and the reports of new targets.  A strict machine
reports none, has one transition for each addition, and keeps the targets that it has.
-/
theorem accounts_behind (name : String) (history : List Operation) :
    (∀ strict, Accounts ((new name strict).additions history)
      ((new name strict).overwrites history) ((new name strict).behind history).automaton) ∧
    (new name true).overwrites history = [] ∧
    ((new name true).additions history).length =
      ((new name true).behind history).automaton.transitions.size ∧
    ∀ later, ((new name true).behind (history ++ later)).automaton.Extends
      ((new name true).behind history).automaton := by
  have accounts (strict : Bool) :
      Accounts ((new name strict).additions history)
        ((new name strict).overwrites history) ((new name strict).behind history).automaton := by
    have start : Accounts [] [] (new name strict).automaton := Automaton.accounts_new name strict
    exact accounts_history start history
  have silent : (new name true).overwrites history = [] := by
    rw [(accounts true).reported, List.filterMap_eq_nil_iff]
    intro addition member
    rcases accepted_of_mem_additions member with ⟨accepted, strict⟩
    exact Automaton.report?_eq_none_of_strict strict accepted
  refine ⟨accounts, silent, ?_, ?_⟩
  · have count := (accounts true).count
    rwa [silent, List.length_nil, Nat.add_zero] at count
  · intro later
    have strict : ((new name true).behind history).automaton.strict = true :=
      (Automaton.kept_strict true).behind rfl history
    have kept := (Automaton.kept_extends _).behind ⟨strict, fun _ _ _ found => found⟩ later
    rw [behind, List.foldl_append]
    exact kept.2

/-- The empty name is a target like any other, and a list counts up to where it stops. -/
example :
    (new "m" false).overwrites
        [.setStates ["", "q"], .setAlphabet ["a"], .addTransition "q" "a" "",
          .addTransitions "q,a,q; q,b,q; q,a,", .setStates ["q"], .addTransition "q" "a" "q"] =
      [.transitionOverwrite "m" "q" "a" "" "q", .transitionOverwrite "m" "q" "a" "q" "q"] := by
  decide +kernel

end Machine

end RegularModels
