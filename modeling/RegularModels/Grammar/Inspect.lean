import RegularModels.Grammar.Shape
import RegularModels.Order
import RegularModels.Validation

/-!
# Looking at a grammar

Validation, the printed form, and equality of grammars up to their names and the
order of productions.
-/

namespace RegularModels.Grammar

/-- What is missing or wrong in a grammar: one finding for every irregular production. -/
def validate (grammar : Grammar) : Validation where
  errors :=
    Finding.when grammar.nonTerminals.isEmpty .noNonTerminals ++
      Finding.when grammar.terminals.isEmpty .noTerminals ++
      Finding.when grammar.start.isNone .noStartSymbol ++
      Finding.when grammar.productions.isEmpty .noProductions ++
      (grammar.productionList.filter fun production => ¬grammar.IsRegular production.rhs).map
        fun production => .irregularProduction production.lhs production.rhs
  warnings := []

/-- The productions as texts, one each. -/
def productionTexts (grammar : Grammar) : List String :=
  grammar.productionList.map fun production => production.lhs ++ " -> " ++ production.rhs

/-- Names between braces. -/
def braced (names : List String) : String :=
  "\x7b" ++ ", ".intercalate names ++ "\x7d"

/-- The printed form: one line for each part, one for each left-hand side. -/
def render (grammar : Grammar) : String :=
  String.join
    (["Regular grammar " ++ grammar.name ++ "\n",
      "  Non-terminals: " ++ braced grammar.nonTerminals.toList ++ "\n",
      "  Terminals: " ++ braced grammar.terminals.toList ++ "\n",
      "  Start symbol: " ++ grammar.start.getD "None" ++ "\n",
      "  Productions:\n"] ++
      grammar.productions.entries.map fun (lhs, rhsList) =>
        "    " ++ lhs ++ " -> " ++ " | ".intercalate rhsList ++ "\n")

/-- Every left-hand side of the one has the same right-hand sides in the other. -/
def Covers (left right : Grammar) : Prop :=
  ∀ entry ∈ left.productions.entries, ∃ other ∈ right.productions.entries,
    entry.1 = other.1 ∧ entry.2.isPerm other.2

instance (left right : Grammar) : Decidable (Covers left right) :=
  inferInstanceAs (Decidable (∀ entry ∈ _, _))

/--
Two grammars are the same when they differ at most in their names and in the
order of their productions.
-/
def Same (left right : Grammar) : Prop :=
  left.nonTerminals = right.nonTerminals ∧ left.terminals = right.terminals ∧
    left.start = right.start ∧ Covers left right ∧ Covers right left

instance (left right : Grammar) : Decidable (Same left right) :=
  inferInstanceAs (Decidable (_ ∧ _))

end RegularModels.Grammar
