import RegularModels.Grammar.Basic
import RegularModels.Proofs.Changes
import RegularModels.Proofs.Text.Trimmed

/-!
# Grammars that can be built

A grammar is built when some history of operations makes it of a new one; an
operation that is refused belongs to the history with what it left behind.  All
non-terminals, terminals and left-hand sides of a built grammar are trimmed, but its
start symbol and left-hand sides need not be declared any more.
-/

namespace RegularModels.Grammar

open Text (Trimmed trimmed_of_mem_ofList_trim)

/-- The grammars that histories of operations make of new ones. -/
inductive Built : Grammar → Prop where
  | new (name : String) : Built { name }
  | apply {grammar : Grammar}
      (built : Built grammar)
      (operation : Operation) :
      Built (grammar.apply operation).model

/-- What a list of operations makes of a new grammar. -/
def after (name : String) (operations : List Operation) : Grammar :=
  operations.foldl (fun grammar operation => (grammar.apply operation).model) { name }

theorem built_after (name : String) (operations : List Operation) :
    (after name operations).Built := by
  apply List.foldlRecOn
  · exact .new name
  · intro grammar built operation _
    exact built.apply operation

/-! ## Declared names -/

/-- The start symbol is set, and it and all left-hand sides are non-terminals. -/
structure Declared (grammar : Grammar) : Prop where
  start : ∃ start ∈ grammar.nonTerminals, grammar.start = some start
  lhs : ∀ lhs ∈ grammar.productions, lhs ∈ grammar.nonTerminals

instance (grammar : Grammar) : Decidable grammar.Declared :=
  decidable_of_iff
    ((∃ start ∈ grammar.nonTerminals.toList, grammar.start = some start) ∧
      ∀ lhs ∈ grammar.productions.keys, lhs ∈ grammar.nonTerminals)
    ⟨fun ⟨start, lhs⟩ => ⟨start, lhs⟩, fun ⟨start, lhs⟩ => ⟨start, lhs⟩⟩

/-! ## Trimmed names -/

/-- All non-terminals and terminals are trimmed. -/
structure NamesTrimmed (grammar : Grammar) : Prop where
  nonTerminals : ∀ symbol ∈ grammar.nonTerminals, Trimmed symbol
  terminals : ∀ symbol ∈ grammar.terminals, Trimmed symbol

/-- The left-hand sides are trimmed as well, although they may not be declared any more. -/
structure LhsTrimmed (grammar : Grammar) : Prop where
  names : grammar.NamesTrimmed
  lhs : ∀ lhs ∈ grammar.productions, Trimmed lhs

/-- A left-hand side is declared at the time when it is added. -/
theorem LhsTrimmed.insertProduction
    {grammar : Grammar}
    (trimmed : grammar.LhsTrimmed)
    (production : Production) :
    (grammar.insertProduction production).model.LhsTrimmed := by
  unfold Grammar.insertProduction
  split
  · rename_i declared
    refine ⟨⟨trimmed.names.nonTerminals, trimmed.names.terminals⟩, ?_⟩
    intro lhs member
    rcases Table.mem_insert.mp member with rfl | earlier
    · exact trimmed.names.nonTerminals _ declared
    · exact trimmed.lhs lhs earlier
  · exact trimmed

theorem LhsTrimmed.addPiece
    {grammar : Grammar}
    (trimmed : grammar.LhsTrimmed)
    (piece : String) :
    (grammar.addPiece piece).model.LhsTrimmed := by
  unfold Grammar.addPiece
  split
  · exact trimmed.insertProduction _
  · exact trimmed

/-- Every operation keeps all symbols trimmed, also when it is refused. -/
theorem LhsTrimmed.apply
    {grammar : Grammar}
    (trimmed : grammar.LhsTrimmed)
    (operation : Operation) :
    (grammar.apply operation).model.LhsTrimmed := by
  rcases trimmed with ⟨⟨nonTerminals, terminals⟩, lhs⟩
  cases operation with
  | setNonTerminals symbols =>
      exact ⟨⟨fun _ member => trimmed_of_mem_ofList_trim member, terminals⟩, lhs⟩
  | setTerminals symbols =>
      exact ⟨⟨nonTerminals, fun _ member => trimmed_of_mem_ofList_trim member⟩, lhs⟩
  | setStart symbol =>
      simp only [Grammar.apply, setStart]
      split <;> exact ⟨⟨nonTerminals, terminals⟩, lhs⟩
  | addProduction left right =>
      exact LhsTrimmed.insertProduction ⟨⟨nonTerminals, terminals⟩, lhs⟩ _
  | addProductions text =>
      simp only [Grammar.apply, addProductions]
      exact Outcome.each_model_of LhsTrimmed (fun _ piece kept => kept.addPiece piece)
        ⟨⟨nonTerminals, terminals⟩, lhs⟩ _

/-- Left sides in built grammars have no blanks around them. -/
theorem Built.lhsTrimmed
    {grammar : Grammar}
    (built : grammar.Built) :
    grammar.LhsTrimmed := by
  induction built with
  | new name => exact ⟨by constructor <;> simp, fun _ member => absurd member List.not_mem_nil⟩
  | apply _ operation ih => exact ih.apply operation

/-- All non-terminals and terminals of a built grammar are trimmed. -/
theorem Built.namesTrimmed
    {grammar : Grammar}
    (built : grammar.Built) :
    grammar.NamesTrimmed :=
  built.lhsTrimmed.names

theorem start_insertProduction (grammar : Grammar) (production : Production) :
    (grammar.insertProduction production).model.start = grammar.start := by
  unfold Grammar.insertProduction
  split <;> rfl

theorem start_addPiece (grammar : Grammar) (piece : String) :
    (grammar.addPiece piece).model.start = grammar.start := by
  unfold Grammar.addPiece
  split
  · exact start_insertProduction grammar _
  · rfl

/-- An operation leaves the start symbol as it is, or chooses one that is trimmed. -/
theorem start_apply (grammar : Grammar) (operation : Operation) :
    (grammar.apply operation).model.start = grammar.start ∨
      ∃ symbol, (grammar.apply operation).model.start = some (Text.trim symbol) := by
  cases operation with
  | setNonTerminals | setTerminals => exact .inl rfl
  | setStart symbol =>
      simp only [Grammar.apply, setStart]
      split
      · exact .inr ⟨symbol, rfl⟩
      · exact .inl rfl
  | addProduction lhs rhs => exact .inl (start_insertProduction grammar _)
  | addProductions text =>
      left
      apply Outcome.each_model_of (fun reached : Grammar => reached.start = grammar.start)
      · intro reached piece same
        rw [start_addPiece, same]
      · rfl

/-- The start symbol is trimmed as well, although it may not be declared any more. -/
theorem Built.start_trimmed
    {grammar : Grammar}
    (built : grammar.Built)
    {start : String}
    (chosen : grammar.start = some start) :
    Trimmed start := by
  induction built with
  | new name => cases chosen
  | apply built operation ih =>
      rcases start_apply _ operation with same | ⟨symbol, new⟩
      · exact ih (same.symm.trans chosen)
      · rw [← Option.some.inj (new.symm.trans chosen)]
        exact Text.trimmed_trim symbol

end RegularModels.Grammar
