import RegularModels.Proofs.Grammar.Appending
import RegularModels.Proofs.Guarded

/-!
# When changes of a grammar go through

A start symbol and productions are accepted exactly when the symbols that they use as
non-terminals are declared, and the productions are then appended in their order.  All
that is ever refused is the use of an undeclared symbol, or a piece of a list that
cannot be read.
-/

namespace RegularModels

open Text (trim)

/-- The production as it is appended, with trimmed sides. -/
def Production.trimmed (production : Production) : Production :=
  ⟨trim production.lhs, trim production.rhs⟩

namespace Grammar

/-- Add productions one after the other, up to the first that is refused. -/
abbrev addAll (grammar : Grammar) (productions : List Production) : Outcome Grammar :=
  .each (fun grammar production => grammar.addProduction production.lhs production.rhs)
    grammar productions

variable {grammar : Grammar}

/-- Only a declared non-terminal becomes the start symbol. -/
theorem guarded_setStart (grammar : Grammar) (symbol : String) :
    (grammar.setStart symbol).Guarded (trim symbol ∈ grammar.nonTerminals)
      (· = { grammar with start := some (trim symbol) }) := by
  unfold setStart
  split
  · rename_i known
    exact .of_succeeds known rfl rfl
  · rename_i unknown
    exact .of_refuse unknown _ _

/-- A production is accepted exactly when its left side is declared. -/
theorem guarded_insertProduction (grammar : Grammar) (production : Production) :
    (grammar.insertProduction production).Guarded (production.lhs ∈ grammar.nonTerminals)
      (· = grammar.append production) := by
  unfold insertProduction
  split
  · rename_i known
    exact .of_succeeds known rfl rfl
  · rename_i unknown
    exact .of_refuse unknown _ _

theorem guarded_addPiece (grammar : Grammar) (piece : String) :
    (grammar.addPiece piece).Guarded
      (∃ production, Production.ofText? piece = some production ∧
        production.lhs ∈ grammar.nonTerminals)
      (· = (Production.ofText? piece).toList.foldl append grammar) := by
  unfold addPiece
  cases read : Production.ofText? piece with
  | some production =>
      apply (guarded_insertProduction grammar production).congr
      simp
  | none =>
      apply Outcome.Guarded.of_refuse
      simp

theorem foldl_append_nonTerminals (grammar : Grammar) (productions : List Production) :
    (productions.foldl append grammar).nonTerminals = grammar.nonTerminals := by
  rw [foldl_append_frame]

theorem guarded_addProductions (grammar : Grammar) (text : String) :
    (grammar.addProductions text).Guarded
      (∀ piece ∈ Text.splitAtChar ';' text, ∃ production,
        Production.ofText? piece = some production ∧ production.lhs ∈ grammar.nonTerminals)
      (· = ((Text.splitAtChar ';' text).filterMap Production.ofText?).foldl append grammar) := by
  apply Outcome.guarded_each_read
  intro earlier piece
  apply (guarded_addPiece _ piece).congr
  simp only [foldl_append_nonTerminals]

theorem guarded_addAll (grammar : Grammar) (productions : List Production) :
    (grammar.addAll productions).Guarded
      (∀ production ∈ productions, trim production.lhs ∈ grammar.nonTerminals)
      (· = (productions.map Production.trimmed).foldl append grammar) := by
  rw [← List.filterMap_eq_map]
  -- Every production of the list can be read: as what is appended for it.
  have guarded : (grammar.addAll productions).Guarded
      (∀ production ∈ productions, ∃ written,
        some production.trimmed = some written ∧ written.lhs ∈ grammar.nonTerminals)
      (· = (productions.filterMap (some ∘ Production.trimmed)).foldl append grammar) := by
    apply Outcome.guarded_each_read
    intro earlier production
    apply (guarded_insertProduction _ production.trimmed).congr
    simp [foldl_append_nonTerminals]
  apply guarded.congr
  simp [Production.trimmed]

/-! ## Reasons of refusals -/

theorem error_addAll
    {productions : List Production} {cause : ModelError}
    (refused : (grammar.addAll productions).error = some cause) :
    ∃ production ∈ productions, cause = .unknownNonTerminal (trim production.lhs) := by
  have stops : ∀ reached : Grammar, ∀ production : Production,
      (reached.addProduction production.lhs production.rhs).error = some cause →
        cause = .unknownNonTerminal (trim production.lhs) := by
    intro reached production stopped
    unfold addProduction insertProduction at stopped
    split at stopped
    · cases stopped
    · exact (Option.some.inj stopped).symm
  rcases Outcome.error_each (fun _ => True) (fun _ _ _ => trivial) trivial refused with
    ⟨reached, _, production, member, stopped⟩
  exact ⟨production, member, stops reached production stopped⟩

end Grammar

end RegularModels
