import RegularModels.Proofs.Entries
import RegularModels.Proofs.Grammar.Appending
import RegularModels.Proofs.Grammar.Reachable

/-!
# Well-formed grammars

A grammar is well-formed when its start symbol and all left-hand sides are
non-terminals, and all symbols and right-hand sides that it stores are trimmed.  Every
operation keeps a grammar well-formed, also when it is refused midway, except that new
non-terminals have to include the start symbol and the left-hand sides.
-/

namespace RegularModels

open Text (Trimmed trim trimmed_trim trimmed_of_mem_ofList_trim)

/-- What is read from a text is trimmed. -/
theorem Production.trimmed_of_ofText?
    {piece : String} {production : Production}
    (found : Production.ofText? piece = some production) :
    Trimmed production.rhs := by
  unfold Production.ofText? at found
  split at found
  · rw [← Option.some.inj found]
    exact trimmed_trim _
  · cases found

namespace Grammar

/-- The start symbol and the left-hand sides. -/
def referredNonTerminals (grammar : Grammar) : List String :=
  grammar.start.toList ++ grammar.productions.keys

/-- All symbols and right-hand sides that stand anywhere in the grammar. -/
def storedTexts (grammar : Grammar) : List String :=
  grammar.nonTerminals.toList ++ grammar.terminals.toList ++
    grammar.referredNonTerminals ++ grammar.productions.values.flatten

/-- The symbols that the grammar refers to are declared, and all its texts are trimmed. -/
structure WellFormed (grammar : Grammar) : Prop where
  nonTerminals : ∀ symbol ∈ grammar.referredNonTerminals, symbol ∈ grammar.nonTerminals
  trimmed : ∀ text ∈ grammar.storedTexts, Trimmed text

instance (grammar : Grammar) : Decidable grammar.WellFormed :=
  decidable_of_iff
    ((∀ symbol ∈ grammar.referredNonTerminals, symbol ∈ grammar.nonTerminals) ∧
      ∀ text ∈ grammar.storedTexts, Trimmed text)
    ⟨fun ⟨nonTerminals, trimmed⟩ => ⟨nonTerminals, trimmed⟩,
      fun ⟨nonTerminals, trimmed⟩ => ⟨nonTerminals, trimmed⟩⟩

variable {grammar : Grammar}

theorem mem_referredNonTerminals_iff {symbol : String} :
    symbol ∈ grammar.referredNonTerminals ↔
      grammar.start = some symbol ∨ symbol ∈ grammar.productions := by
  rw [referredNonTerminals, List.mem_append, Option.mem_toList]
  exact Iff.rfl

theorem mem_flatten_values_iff {rhs : String} :
    rhs ∈ grammar.productions.values.flatten ↔ ∃ lhs, rhs ∈ grammar.rhsList lhs := by
  simp only [List.mem_flatten, Table.mem_values_iff, rhsList]
  constructor
  · rintro ⟨rhsList, ⟨lhs, found⟩, member⟩
    exact ⟨lhs, by rwa [found]⟩
  · rintro ⟨lhs, member⟩
    cases found : grammar.productions.get? lhs with
    | none => simp [found] at member
    | some rhsList =>
        rw [found] at member
        exact ⟨rhsList, ⟨lhs, found⟩, member⟩

/-- Symbols that are referred to are trimmed when they are declared and declared ones are. -/
theorem wellFormed_iff :
    grammar.WellFormed ↔
      grammar.NamesTrimmed ∧
        (∀ symbol, grammar.start = some symbol → symbol ∈ grammar.nonTerminals) ∧
        (∀ lhs ∈ grammar.productions, lhs ∈ grammar.nonTerminals) ∧
        ∀ lhs, ∀ rhs ∈ grammar.rhsList lhs, Trimmed rhs := by
  constructor
  · rintro ⟨nonTerminals, trimmed⟩
    refine ⟨⟨?_, ?_⟩, ?_, ?_, ?_⟩
    · exact fun symbol member => trimmed symbol (by simp [storedTexts, NameSet.mem_toList, member])
    · exact fun symbol member => trimmed symbol (by simp [storedTexts, NameSet.mem_toList, member])
    · exact fun symbol start => nonTerminals symbol (mem_referredNonTerminals_iff.mpr (.inl start))
    · exact fun lhs member => nonTerminals lhs (mem_referredNonTerminals_iff.mpr (.inr member))
    · intro lhs rhs member
      apply trimmed
      exact List.mem_append_right _ (mem_flatten_values_iff.mpr ⟨lhs, member⟩)
  · rintro ⟨trimmed, start, lhs, rhs⟩
    have declared : ∀ symbol ∈ grammar.referredNonTerminals, symbol ∈ grammar.nonTerminals := by
      intro symbol referred
      rcases mem_referredNonTerminals_iff.mp referred with chosen | member
      · exact start symbol chosen
      · exact lhs symbol member
    refine ⟨declared, ?_⟩
    intro text stored
    simp only [storedTexts, List.mem_append, or_assoc] at stored
    rcases stored with nonTerminal | terminal | referred | isRhs
    · exact trimmed.nonTerminals text nonTerminal
    · exact trimmed.terminals text terminal
    · exact trimmed.nonTerminals text (declared text referred)
    · rcases mem_flatten_values_iff.mp isRhs with ⟨lhs, member⟩
      exact rhs lhs text member

/-- A new grammar refers to nothing. -/
theorem wellFormed_new (name : String) : ({ name } : Grammar).WellFormed := by
  refine wellFormed_iff.mpr ⟨⟨?_, ?_⟩, ?_, ?_, ?_⟩
  · simp
  · simp
  · simp
  · exact fun _ member => absurd member List.not_mem_nil
  · simp [rhsList]

namespace WellFormed

/-! ## Operations that add something -/

theorem append
    (wellFormed : grammar.WellFormed)
    {production : Production}
    (declared : production.lhs ∈ grammar.nonTerminals)
    (rhsTrimmed : Trimmed production.rhs) :
    (grammar.append production).WellFormed := by
  rcases wellFormed_iff.mp wellFormed with ⟨trimmed, start, lhs, rhs⟩
  refine wellFormed_iff.mpr ⟨⟨trimmed.nonTerminals, trimmed.terminals⟩, start, ?_, ?_⟩
  · intro other member
    rcases Table.mem_insert.mp member with rfl | earlier
    · exact declared
    · exact lhs other earlier
  · intro other text member
    rw [rhsList_append] at member
    split at member
    · rcases List.mem_append.mp member with earlier | last
      · exact rhs other text earlier
      · rw [List.mem_singleton.mp last]
        exact rhsTrimmed
    · exact rhs other text member

theorem insertProduction
    (wellFormed : grammar.WellFormed)
    {production : Production}
    (rhsTrimmed : Trimmed production.rhs) :
    (grammar.insertProduction production).model.WellFormed := by
  unfold Grammar.insertProduction
  split
  · rename_i declared
    exact wellFormed.append declared rhsTrimmed
  · exact wellFormed

theorem addProduction
    (wellFormed : grammar.WellFormed)
    (lhs rhs : String) :
    (grammar.addProduction lhs rhs).model.WellFormed :=
  wellFormed.insertProduction (trimmed_trim rhs)

theorem addPiece
    (wellFormed : grammar.WellFormed)
    (piece : String) :
    (grammar.addPiece piece).model.WellFormed := by
  unfold Grammar.addPiece
  split
  · rename_i found
    exact wellFormed.insertProduction (Production.trimmed_of_ofText? found)
  · exact wellFormed

/-- A list of productions keeps a grammar well-formed, however far it comes. -/
theorem addProductions
    (wellFormed : grammar.WellFormed)
    (text : String) :
    (grammar.addProductions text).model.WellFormed := by
  unfold Grammar.addProductions
  exact Outcome.each_model_of WellFormed (fun _ piece kept => kept.addPiece piece) wellFormed _

theorem setStart
    (wellFormed : grammar.WellFormed)
    (symbol : String) :
    (grammar.setStart symbol).model.WellFormed := by
  rcases wellFormed_iff.mp wellFormed with ⟨trimmed, _, lhs, rhs⟩
  unfold Grammar.setStart
  split
  · rename_i declared
    refine wellFormed_iff.mpr ⟨⟨trimmed.nonTerminals, trimmed.terminals⟩, ?_, lhs, rhs⟩
    rintro chosen start
    exact Option.some.inj start ▸ declared
  · exact wellFormed

/-! ## Operations that replace a set -/

theorem setTerminals
    (wellFormed : grammar.WellFormed)
    (symbols : List String) :
    (grammar.setTerminals symbols).WellFormed := by
  rcases wellFormed_iff.mp wellFormed with ⟨trimmed, start, lhs, rhs⟩
  refine wellFormed_iff.mpr ⟨⟨trimmed.nonTerminals, ?_⟩, start, lhs, rhs⟩
  exact fun _ member => trimmed_of_mem_ofList_trim member

/-- The new non-terminals are trimmed, so it only matters that none is missing. -/
theorem setNonTerminals_iff
    (wellFormed : grammar.WellFormed)
    (symbols : List String) :
    (grammar.setNonTerminals symbols).WellFormed ↔
      ∀ symbol ∈ grammar.referredNonTerminals, symbol ∈ symbols.map trim := by
  constructor
  · intro kept symbol referred
    exact NameSet.mem_ofList.mp (kept.nonTerminals symbol referred)
  · intro retained
    rcases wellFormed_iff.mp wellFormed with ⟨trimmed, _, _, rhs⟩
    have declared : ∀ symbol ∈ grammar.referredNonTerminals,
        symbol ∈ (grammar.setNonTerminals symbols).nonTerminals :=
      fun symbol referred => NameSet.mem_ofList.mpr (retained symbol referred)
    refine wellFormed_iff.mpr ⟨⟨?_, trimmed.terminals⟩, ?_, ?_, rhs⟩
    · exact fun _ member => trimmed_of_mem_ofList_trim member
    · exact fun symbol start => declared symbol (mem_referredNonTerminals_iff.mpr (.inl start))
    · exact fun lhs member => declared lhs (mem_referredNonTerminals_iff.mpr (.inr member))

end WellFormed

/-! ## All operations -/

/--
If the operation replaces the non-terminals, the new set has the start symbol and all
left-hand sides.
-/
def Operation.Retains (grammar : Grammar) : Operation → Prop
  | .setNonTerminals symbols => ∀ symbol ∈ grammar.referredNonTerminals, symbol ∈ symbols.map trim
  | _ => True

instance (grammar : Grammar) : (operation : Operation) → Decidable (operation.Retains grammar)
  | .setNonTerminals _ => inferInstanceAs (Decidable (∀ _ ∈ _, _))
  | .setTerminals _ | .setStart _ | .addProduction .. | .addProductions _ => isTrue trivial

/-- The operations that keep a grammar well-formed are those that retain its symbols. -/
theorem WellFormed.apply_iff
    (wellFormed : grammar.WellFormed)
    (operation : Operation) :
    (grammar.apply operation).model.WellFormed ↔ operation.Retains grammar := by
  cases operation with
  | setNonTerminals symbols => exact wellFormed.setNonTerminals_iff symbols
  | setTerminals symbols => exact iff_of_true (wellFormed.setTerminals symbols) trivial
  | setStart symbol => exact iff_of_true (wellFormed.setStart symbol) trivial
  | addProduction lhs rhs => exact iff_of_true (wellFormed.addProduction lhs rhs) trivial
  | addProductions text => exact iff_of_true (wellFormed.addProductions text) trivial

end Grammar

end RegularModels
