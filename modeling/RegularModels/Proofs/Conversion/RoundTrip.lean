import RegularModels.Proofs.Conversion.AutomatonLanguage
import RegularModels.Proofs.Conversion.Determinism
import RegularModels.Proofs.Conversion.GrammarLanguage

/-!
# Converting back and forth

An automaton over symbols of which none begins another is converted to a grammar
and back to an automaton without an overwritten transition, and the new automaton
accepts the same words.  The new automaton has states that the old one did not have,
but it meets the same conditions, so this can be repeated: `Faithful` is kept by
one conversion back and forth, and therefore by any number of them.
-/

namespace RegularModels

/-! ## Symbols of which none begins another -/

/-- No symbol is empty or the sign for the empty word, and none begins another symbol. -/
structure PrefixFree (alphabet : NameSet) : Prop where
  empty : "" ∉ alphabet
  epsilon : Grammar.epsilon ∉ alphabet
  eq_of_isPrefix : ∀ left ∈ alphabet, ∀ right ∈ alphabet,
    left.toList <+: right.toList → left = right

namespace PrefixFree

variable {alphabet : NameSet} {symbol other left right : String}

theorem append_not_mem
    (prefixFree : PrefixFree alphabet) (member : symbol ∈ alphabet)
    (nonempty : right ≠ "") :
    symbol ++ right ∉ alphabet := by
  intro whole
  have begins : symbol.toList <+: (symbol ++ right).toList := by
    rw [String.toList_append]
    exact List.prefix_append _ _
  have same : symbol = symbol ++ right := prefixFree.eq_of_isPrefix _ member _ whole begins
  exact nonempty (String.append_right_inj symbol |>.mp (by simpa using same.symm))

/-- A text begins with one symbol only. -/
theorem append_injective
    (prefixFree : PrefixFree alphabet)
    (member : symbol ∈ alphabet) (otherMember : other ∈ alphabet)
    (equal : symbol ++ left = other ++ right) :
    symbol = other ∧ left = right := by
  have lists : symbol.toList ++ left.toList = other.toList ++ right.toList := by
    rw [← String.toList_append, equal, String.toList_append]
  have begins : symbol.toList <+: other.toList ++ right.toList :=
    lists ▸ List.prefix_append _ _
  have same : symbol = other := by
    rcases List.prefix_or_prefix_of_prefix begins (List.prefix_append _ _) with first | second
    · exact prefixFree.eq_of_isPrefix _ member _ otherMember first
    · exact (prefixFree.eq_of_isPrefix _ otherMember _ member second).symm
  subst same
  exact ⟨rfl, String.append_right_inj symbol |>.mp equal⟩

/-- No character begins another one. -/
theorem of_characters
    (single : ∀ symbol ∈ alphabet, symbol.length = 1)
    (epsilon : Grammar.epsilon ∉ alphabet) :
    PrefixFree alphabet where
  empty member := absurd (single "" member) (by decide)
  epsilon := epsilon
  eq_of_isPrefix := by
    intro left leftMember right rightMember begins
    have sameLength : left.toList.length = right.toList.length := by
      rw [String.length_toList, String.length_toList, single left leftMember,
        single right rightMember]
    exact String.toList_inj.mp (begins.eq_of_length sameLength)

end PrefixFree

namespace Automaton

variable {automaton : Automaton}

/--
What converting back and forth needs of an automaton: declared references, symbols
of which none begins another, and no transition to the empty name.
-/
structure Convertible (automaton : Automaton) : Prop where
  declared : automaton.Declared
  prefixFree : PrefixFree automaton.alphabet
  target_ne_empty : ∀ source symbol target,
    automaton.target? source symbol = some target → target ≠ ""

/-- What can be converted is read back as it was written. -/
theorem Convertible.readable (convertible : automaton.Convertible) : automaton.Readable := by
  have prefixFree := convertible.prefixFree
  apply readable_of_transitions convertible.declared prefixFree.empty prefixFree.epsilon
  intro source symbol target found
  have declares := convertible.declared.transitions _ _ _ found
  have nonempty := convertible.target_ne_empty _ _ _ found
  refine ⟨nonempty, prefixFree.append_not_mem declares.symbol nonempty, ?_⟩
  intro other otherSymbol last _ equal
  exact prefixFree.append_injective otherSymbol declares.symbol equal

end Automaton

/-! ## What the conversion of a grammar gives -/

namespace Grammar

variable {grammar : Grammar} {automaton : Automaton}

theorem target_ne_empty_of_mem_transitions
    {transition : Transition} (member : transition ∈ grammar.blueprint.transitions) :
    transition.target ≠ "" := by
  rcases branch_of_mem_transitions member with ⟨lhs, _, inTargets⟩
  rcases Blueprint.mem_targets inTargets with step | ⟨_, new⟩
  · rcases mem_steps_branch_iff.mp step with ⟨rhs, _, read⟩
    exact (step_of_classify read).2.2.1
  · exact newState_ne_empty (mem_newStates_iff.mpr new)

namespace Realizes

theorem namesTrimmed
    (realizes : Realizes automaton grammar)
    (trimmed : grammar.NamesTrimmed) :
    automaton.NamesTrimmed where
  states := by
    intro state member
    rcases (realizes.states_iff state).mp member with nonTerminal | new
    · exact trimmed.nonTerminals state nonTerminal
    · exact trimmed_newState trimmed new
  alphabet := by
    rw [realizes.alphabet_eq]
    exact trimmed.terminals

/-- The automaton of a grammar can be converted when the terminals allow it. -/
theorem convertible
    (realizes : Realizes automaton grammar)
    (grammarDeclared : grammar.Declared)
    (prefixFree : PrefixFree grammar.terminals) :
    automaton.Convertible where
  declared := realizes.declared grammarDeclared
  prefixFree := realizes.alphabet_eq ▸ prefixFree
  target_ne_empty := by
    intro source symbol target found
    exact target_ne_empty_of_mem_transitions (realizes.mem_transitions_of_target? found)

end Realizes

end Grammar

namespace Automaton

variable {automaton : Automaton}

/-! ## One conversion back and forth -/

/-- Convert an automaton to a grammar, and the grammar to an automaton. -/
def roundTrip (automaton : Automaton) : Outcome Automaton :=
  let there := automaton.toGrammar none
  match there.error with
  | some error => ⟨automaton, there.events, some error⟩
  | none =>
    let back := there.model.toAutomaton none
    ⟨back.model, there.events ++ back.events, back.error⟩

/-- Convert an automaton back and forth a number of times. -/
def roundTrips : Nat → Automaton → Outcome Automaton
  | 0, automaton => .done automaton
  | rounds + 1, automaton => automaton.roundTrip.andThen (roundTrips rounds)

/--
A change of an automaton goes through without an overwritten transition, and leaves
an automaton behind that can be converted and accepts the same words.
-/
structure Faithful (automaton : Automaton) (outcome : Outcome Automaton) : Prop where
  succeeds : outcome.Succeeds
  quiet : ∀ event ∈ outcome.events, ¬event.IsOverwrite
  trimmed : outcome.model.NamesTrimmed
  convertible : outcome.model.Convertible
  accepts_iff : ∀ word, outcome.model.Accepts word ↔ automaton.Accepts word

theorem Faithful.done
    (trimmed : automaton.NamesTrimmed)
    (convertible : automaton.Convertible) :
    automaton.Faithful (.done automaton) where
  succeeds := rfl
  quiet _ member := absurd member List.not_mem_nil
  trimmed := trimmed
  convertible := convertible
  accepts_iff _ := .rfl

theorem Faithful.andThen
    {outcome : Outcome Automaton}
    {next : Automaton → Outcome Automaton}
    (first : automaton.Faithful outcome)
    (further : outcome.model.Faithful (next outcome.model)) :
    automaton.Faithful (outcome.andThen next) := by
  rw [Outcome.andThen_of_succeeds first.succeeds]
  constructor
  · exact further.succeeds
  · intro event member
    rcases List.mem_append.mp member with inFirst | inFurther
    · exact first.quiet event inFirst
    · exact further.quiet event inFurther
  · exact further.trimmed
  · exact further.convertible
  · intro word
    exact (further.accepts_iff word).trans (first.accepts_iff word)

/-- A round is the conversion of the grammar that the automaton is written as. -/
theorem roundTrip_eq
    (trimmed : automaton.NamesTrimmed)
    (declared : automaton.Declared)
    {text : String}
    (given : nameOr none (automaton.name ++ "_rg") = text) :
    automaton.roundTrip =
      ⟨((automaton.realizedGrammar text).toAutomaton none).model,
        .automatonConverted automaton.name (automaton.realizedGrammar text).name
            (automaton.realizedGrammar text).productionList.length ::
          ((automaton.realizedGrammar text).toAutomaton none).events,
        ((automaton.realizedGrammar text).toAutomaton none).error⟩ := by
  rw [roundTrip, toGrammar_eq trimmed declared given]
  rfl

/-- The grammar in between is deterministic, so that no word is lost on the way back. -/
theorem roundTrip_faithful
    (trimmed : automaton.NamesTrimmed)
    (convertible : automaton.Convertible) :
    automaton.Faithful automaton.roundTrip := by
  have declared := convertible.declared
  have readable := convertible.readable
  rw [roundTrip_eq trimmed declared rfl]
  generalize nameOr none (automaton.name ++ "_rg") = text
  have grammarTrimmed := realizedGrammar_namesTrimmed trimmed text
  have grammarDeclared := realizedGrammar_declared trimmed declared text
  have deterministic := deterministic_realizedGrammar trimmed readable text
  have prefixFree : PrefixFree (automaton.realizedGrammar text).terminals := by
    rw [realizedGrammar_terminals trimmed]
    exact convertible.prefixFree
  have events := Grammar.events_toAutomaton grammarTrimmed grammarDeclared deterministic none
  rcases Grammar.realizes_toAutomaton grammarTrimmed grammarDeclared none with ⟨went, realizes⟩
  constructor
  · exact went
  · intro event member
    rw [events] at member
    rcases List.mem_pair.mp member with rfl | rfl <;> exact id
  · exact realizes.namesTrimmed grammarTrimmed
  · exact realizes.convertible grammarDeclared prefixFree
  · intro word
    rw [realizes.accepts_iff grammarDeclared, Grammar.generates_keeps_iff deterministic,
      generates_realizedGrammar_iff trimmed declared readable]

/-! ## Any number of conversions -/

/-- Any number of rounds is faithful, since each of them leaves a convertible automaton. -/
theorem roundTrips_faithful
    (trimmed : automaton.NamesTrimmed)
    (convertible : automaton.Convertible)
    (rounds : Nat) :
    automaton.Faithful (roundTrips rounds automaton) := by
  induction rounds generalizing automaton with
  | zero => exact .done trimmed convertible
  | succ rounds ih =>
      have first := roundTrip_faithful trimmed convertible
      exact first.andThen (ih first.trimmed first.convertible)

/--
Converting a built automaton back and forth any number of times goes through and
overwrites no transition.  The last automaton can be converted again, and it accepts
the same words and gives the same answers to all texts as the first one.
-/
theorem roundTrips_language
    (built : automaton.Built)
    (convertible : automaton.Convertible)
    (rounds : Nat) :
    (roundTrips rounds automaton).Succeeds ∧
      (∀ event ∈ (roundTrips rounds automaton).events, ¬event.IsOverwrite) ∧
      (roundTrips rounds automaton).model.Convertible ∧
      (∀ word, (roundTrips rounds automaton).model.Accepts word ↔ automaton.Accepts word) ∧
      ∀ text, (roundTrips rounds automaton).model.accepts text = automaton.accepts text := by
  have faithful := roundTrips_faithful built.namesTrimmed convertible rounds
  exact ⟨faithful.succeeds, faithful.quiet, faithful.convertible, faithful.accepts_iff,
    accepts_text_congr faithful.accepts_iff⟩

theorem cyclic_convertible : cyclic.Convertible where
  declared := cyclic_declared
  prefixFree := by
    apply PrefixFree.of_characters
    · change ∀ symbol ∈ cyclic.alphabet.toList, symbol.length = 1
      decide
    · decide
  target_ne_empty := by
    intro source symbol target found
    have noState : "" ∉ cyclic.states := by decide
    rintro rfl
    exact noState (cyclic_declared.transitions _ _ _ found).target

/-- The second round starts with the twins and the further state of the first one. -/
theorem roundTrips_language_cyclic :
    cyclic.Built ∧ cyclic.Convertible ∧ (roundTrips 2 cyclic).Succeeds ∧
      (roundTrips 2 cyclic).model.accepts "abb" = true := by
  have language := roundTrips_language cyclic_built cyclic_convertible 2
  refine ⟨cyclic_built, cyclic_convertible, language.1, ?_⟩
  rw [language.2.2.2.2]
  decide

end Automaton

end RegularModels
