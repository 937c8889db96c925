import Mathlib.Logic.Function.Basic
import RegularModels.Proofs.Automaton.Guards
import RegularModels.Proofs.FirstAppearances
import RegularModels.Proofs.Grammar.Guards
import RegularModels.Record.Catalog

/-!
# Contents of records

The contents that records give to the fields of a model, one after the other, say what
the model is: a set of names is the one given last, and transitions and productions
are all those that were given.  What comes next must refer to the names that are in
place, and is refused otherwise.
-/

namespace RegularModels

open Text (trim)

/-! ## What contents list -/

/-- The names that the last of the contents lists; without contents there are none. -/
def latestNames (contents : List String) : List String :=
  contents.getLast?.elim [] (Text.pieces ',')

/-- The transitions that are written in contents, between semicolons. -/
def writtenTransitions (contents : List String) : List Transition :=
  contents.flatMap fun text => (Text.splitAtChar ';' text).filterMap Transition.ofText?

/-- The productions in the contents of some records, in the order in which they are written. -/
def writtenProductions (contents : List String) : List Production :=
  contents.flatMap fun text => (Text.splitAtChar ';' text).filterMap Production.ofText?

theorem Transition.ofText?_eq_some_iff {piece : String} {transition : Transition} :
    Transition.ofText? piece = some transition ↔
      Text.pieces ',' piece = [transition.source, transition.symbol, transition.target] := by
  unfold Transition.ofText?
  split
  · rename_i source symbol target cut
    rw [cut]
    cases transition
    simp
  · rename_i other
    constructor
    · intro found
      cases found
    · intro cut
      exact absurd cut (other _ _ _)

theorem Production.ofText?_eq_some_iff {piece : String} {production : Production} :
    Production.ofText? piece = some production ↔
      ∃ lhs rhs, Text.splitAtText "->" piece = [lhs, rhs] ∧
        production = ⟨trim lhs, trim rhs⟩ := by
  unfold Production.ofText?
  split
  · rename_i lhs rhs cut
    rw [cut]
    simp [eq_comm]
  · rename_i other
    constructor
    · intro found
      cases found
    · rintro ⟨lhs, rhs, cut, _⟩
      exact absurd cut (other lhs rhs)

theorem latestNames_concat (contents : List String) (text : String) :
    latestNames (contents ++ [text]) = Text.pieces ',' text := by
  rw [latestNames, List.getLast?_concat]
  rfl

theorem writtenTransitions_concat (contents : List String) (text : String) :
    writtenTransitions (contents ++ [text]) =
      writtenTransitions contents ++
        (Text.splitAtChar ';' text).filterMap Transition.ofText? := by
  simp [writtenTransitions]

theorem writtenProductions_concat (contents : List String) (text : String) :
    writtenProductions (contents ++ [text]) =
      writtenProductions contents ++
        (Text.splitAtChar ';' text).filterMap Production.ofText? := by
  simp [writtenProductions]

section AddContents

variable {κ : Type} [DecidableEq κ]

/-- Put contents behind the others of their field. -/
def addContents (contents : κ → List String) (field : κ) (text : String) : κ → List String :=
  Function.update contents field (contents field ++ [text])

theorem addContents_self (contents : κ → List String) (field : κ) (text : String) :
    addContents contents field text field = contents field ++ [text] :=
  Function.update_self ..

theorem addContents_of_ne
    {field other : κ}
    (different : other ≠ field)
    (contents : κ → List String) (text : String) :
    addContents contents field text other = contents other :=
  Function.update_of_ne different ..

end AddContents

/-! ## Automata -/

/-- The contents of a field refer to names that the contents before them put in place. -/
def AutomatonField.Fits
    (contents : AutomatonField → List String) (field : AutomatonField) (text : String) : Prop :=
  match field with
  | .states | .alphabet => True
  | .initial => trim text ∈ latestNames (contents .states)
  | .finals => ∀ name ∈ Text.pieces ',' text, name ∈ latestNames (contents .states)
  | .transitions => ∀ piece ∈ Text.splitAtChar ';' text, ∃ source symbol target,
      Text.pieces ',' piece = [source, symbol, target] ∧
        source ∈ latestNames (contents .states) ∧
        symbol ∈ latestNames (contents .alphabet) ∧
        target ∈ latestNames (contents .states)

namespace Automaton

/-- The automaton is what the contents of its fields say. -/
structure DescribedBy
    (automaton : Automaton) (name : String) (contents : AutomatonField → List String) :
    Prop where
  called : automaton.name = name
  lenient : automaton.strict = false
  states : automaton.states = .ofList (latestNames (contents .states))
  alphabet : automaton.alphabet = .ofList (latestNames (contents .alphabet))
  initial : automaton.initial = (contents .initial).getLast?.map trim
  finals : automaton.finals = .ofList (latestNames (contents .finals))
  target? : ∀ source symbol, automaton.target? source symbol =
    lastTarget? (writtenTransitions (contents .transitions)) source symbol
  pairs : automaton.transitions.keys =
    firstAppearances ((writtenTransitions (contents .transitions)).map Transition.pair)

variable {automaton : Automaton}

section DescribedBy

variable {name : String} {contents : AutomatonField → List String}
  (described : automaton.DescribedBy name contents)
include described

theorem DescribedBy.mem_states_iff {state : String} :
    state ∈ automaton.states ↔ state ∈ latestNames (contents .states) := by
  rw [described.states, NameSet.mem_ofList]

theorem DescribedBy.mem_alphabet_iff {symbol : String} :
    symbol ∈ automaton.alphabet ↔ symbol ∈ latestNames (contents .alphabet) := by
  rw [described.alphabet, NameSet.mem_ofList]

theorem DescribedBy.exists_declared_iff {piece : String} :
    (∃ transition, Transition.ofText? piece = some transition ∧ automaton.Declares transition) ↔
      ∃ source symbol target,
        Text.pieces ',' piece = [source, symbol, target] ∧
          source ∈ latestNames (contents .states) ∧
          symbol ∈ latestNames (contents .alphabet) ∧
          target ∈ latestNames (contents .states) := by
  constructor
  · rintro ⟨transition, read, declared⟩
    exact ⟨_, _, _, Transition.ofText?_eq_some_iff.mp read,
      described.mem_states_iff.mp declared.source,
      described.mem_alphabet_iff.mp declared.symbol,
      described.mem_states_iff.mp declared.target⟩
  · rintro ⟨source, symbol, target, cut, inStates, inAlphabet, alsoInStates⟩
    exact ⟨⟨source, symbol, target⟩, Transition.ofText?_eq_some_iff.mpr cut,
      described.mem_states_iff.mpr inStates,
      described.mem_states_iff.mpr alsoInStates,
      described.mem_alphabet_iff.mpr inAlphabet⟩

theorem DescribedBy.connectAll (text : String) :
    (automaton.connectAll
        ((Text.splitAtChar ';' text).filterMap Transition.ofText?)).DescribedBy name
      (addContents contents .transitions text) := by
  have frame := connectAll_frame automaton
    ((Text.splitAtChar ';' text).filterMap Transition.ofText?)
  have written := writtenTransitions_concat (contents .transitions) text
  have whole := addContents_self contents .transitions text
  constructor
  case target? =>
    intro source symbol
    rw [target?_connectAll, described.target?, whole, written, lastTarget?_append]
  case pairs =>
    rw [whole, written, List.map_append]
    exact Table.keys_foldl_eq_firstAppearances Automaton.transitions
      (fun model transition => ⟨transition.target, rfl⟩) described.pairs _
  all_goals rw [frame]
  case called => exact described.called
  case lenient => exact described.lenient
  case states => exact described.states
  case alphabet => exact described.alphabet
  case initial => exact described.initial
  case finals => exact described.finals

/-- The contents of one more record are accepted when they fit, and are added to the others. -/
theorem DescribedBy.setField (field : AutomatonField) (text : String) :
    (automaton.setField field text).Guarded (field.Fits contents text)
      (·.DescribedBy name (addContents contents field text)) := by
  have whole := addContents_self contents field text
  have listed := Text.map_trim_pieces ',' text
  have latest := latestNames_concat (contents field) text
  cases field with
  | states =>
      refine .of_succeeds trivial rfl { described with states := ?_ }
      rw [whole, latest, ← listed]
      rfl
  | alphabet =>
      refine .of_succeeds trivial rfl { described with alphabet := ?_ }
      rw [whole, latest, ← listed]
      rfl
  | initial =>
      apply ((guarded_setInitial automaton text).congr described.mem_states_iff).imp
      rintro _ rfl
      refine { described with initial := ?_ }
      rw [whole, List.getLast?_concat]
      rfl
  | finals =>
      apply ((guarded_setFinals automaton (Text.pieces ',' text)).congr _).imp
      · rintro _ rfl
        refine { described with finals := ?_ }
        rw [whole, latest, listed]
      · simp only [listed, described.mem_states_iff]
        rfl
  | transitions =>
      apply ((guarded_addTransitions described.lenient text).congr _).imp
      · rintro _ rfl
        exact described.connectAll text
      · exact forall₂_congr fun piece _ => described.exists_declared_iff

end DescribedBy

end Automaton

/-! ## Grammars -/

/-- The names in the content of a record are declared by the latest records before it. -/
def GrammarField.Fits
    (contents : GrammarField → List String) (field : GrammarField) (text : String) : Prop :=
  match field with
  | .nonTerminals | .terminals => True
  | .start => trim text ∈ latestNames (contents .nonTerminals)
  | .productions => ∀ piece ∈ Text.splitAtChar ';' text, ∃ lhs rhs,
      Text.splitAtText "->" piece = [lhs, rhs] ∧
        trim lhs ∈ latestNames (contents .nonTerminals)

namespace Grammar

/--
The grammar is what records with these contents say: the latest declarations of its names,
and all productions in the order in which they are written.
-/
structure DescribedBy
    (grammar : Grammar) (name : String) (contents : GrammarField → List String) : Prop where
  called : grammar.name = name
  nonTerminals : grammar.nonTerminals = .ofList (latestNames (contents .nonTerminals))
  terminals : grammar.terminals = .ofList (latestNames (contents .terminals))
  start : grammar.start = (contents .start).getLast?.map trim
  rhsList : ∀ lhs, grammar.rhsList lhs =
    ((writtenProductions (contents .productions)).filter (·.lhs = lhs)).map (·.rhs)
  leftSides : grammar.productions.keys =
    firstAppearances ((writtenProductions (contents .productions)).map (·.lhs))

variable {grammar : Grammar}

section DescribedBy

variable {name : String} {contents : GrammarField → List String}
  (described : grammar.DescribedBy name contents)
include described

theorem DescribedBy.mem_nonTerminals_iff {symbol : String} :
    symbol ∈ grammar.nonTerminals ↔ symbol ∈ latestNames (contents .nonTerminals) := by
  rw [described.nonTerminals, NameSet.mem_ofList]

theorem DescribedBy.exists_declared_iff {piece : String} :
    (∃ production, Production.ofText? piece = some production ∧
        production.lhs ∈ grammar.nonTerminals) ↔
      ∃ lhs rhs,
        Text.splitAtText "->" piece = [lhs, rhs] ∧
          trim lhs ∈ latestNames (contents .nonTerminals) := by
  constructor
  · rintro ⟨production, read, declared⟩
    rcases Production.ofText?_eq_some_iff.mp read with ⟨lhs, rhs, cut, rfl⟩
    exact ⟨lhs, rhs, cut, described.mem_nonTerminals_iff.mp declared⟩
  · rintro ⟨lhs, rhs, cut, known⟩
    exact ⟨_, Production.ofText?_eq_some_iff.mpr ⟨lhs, rhs, cut, rfl⟩,
      described.mem_nonTerminals_iff.mpr known⟩

theorem DescribedBy.foldl_append (text : String) :
    (((Text.splitAtChar ';' text).filterMap Production.ofText?).foldl append
        grammar).DescribedBy name
      (addContents contents .productions text) := by
  have frame := foldl_append_frame grammar
    ((Text.splitAtChar ';' text).filterMap Production.ofText?)
  have written := writtenProductions_concat (contents .productions) text
  have whole := addContents_self contents .productions text
  constructor
  case rhsList =>
    intro lhs
    rw [rhsList_foldl_append, described.rhsList, whole, written, List.filter_append,
      List.map_append]
  case leftSides =>
    rw [whole, written, List.map_append]
    exact Table.keys_foldl_eq_firstAppearances Grammar.productions
      (fun model production => ⟨_, rfl⟩) described.leftSides _
  all_goals rw [frame]
  case called => exact described.called
  case nonTerminals => exact described.nonTerminals
  case terminals => exact described.terminals
  case start => exact described.start

theorem DescribedBy.setField (field : GrammarField) (text : String) :
    (grammar.setField field text).Guarded (field.Fits contents text)
      (·.DescribedBy name (addContents contents field text)) := by
  have whole := addContents_self contents field text
  have listed := Text.map_trim_pieces ',' text
  have latest := latestNames_concat (contents field) text
  cases field with
  | nonTerminals =>
      refine .of_succeeds trivial rfl { described with nonTerminals := ?_ }
      rw [whole, latest, ← listed]
      rfl
  | terminals =>
      refine .of_succeeds trivial rfl { described with terminals := ?_ }
      rw [whole, latest, ← listed]
      rfl
  | start =>
      apply ((guarded_setStart grammar text).congr described.mem_nonTerminals_iff).imp
      rintro _ rfl
      refine { described with start := ?_ }
      rw [whole, List.getLast?_concat]
      rfl
  | productions =>
      apply ((guarded_addProductions grammar text).congr _).imp
      · rintro _ rfl
        exact described.foldl_append text
      · exact forall₂_congr fun piece _ => described.exists_declared_iff

end DescribedBy

end Grammar

end RegularModels
