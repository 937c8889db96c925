import RegularModels.Grammar.Basic

/-!
# Shapes of right-hand sides

A right-hand side is regular when it is empty or the sign for the empty word, a
terminal, or a terminal followed by a non-terminal.  Symbols may be longer than
one character, so a right-hand side can be cut into a terminal and a non-terminal
in several ways; the shortest terminal is taken.
-/

namespace RegularModels

/-- How a regular right-hand side is read. -/
inductive Shape where
  | epsilon
  | terminal (symbol : String)
  /-- A terminal and then a non-terminal. -/
  | step (symbol nonTerminal : String)
deriving DecidableEq, Repr

/-- The ways of cutting a list into two non-empty parts, shortest first part first. -/
def cuts {α : Type} (items : List α) : List (List α × List α) :=
  (List.range (items.length - 1)).map fun index => items.splitAt (index + 1)

namespace Grammar

/-- The shortest terminal at the front that leaves a non-terminal. -/
def findStep? (grammar : Grammar) (rhs : String) : Option (String × String) :=
  ((cuts rhs.toList).map fun cut => (String.ofList cut.1, String.ofList cut.2)).find?
    fun cut => decide (cut.1 ∈ grammar.terminals) && decide (cut.2 ∈ grammar.nonTerminals)

/-- The shape of a right-hand side, or nothing if it is not regular. -/
def classify (grammar : Grammar) (rhs : String) : Option Shape :=
  if rhs = epsilon ∨ rhs = "" then some .epsilon
  else if rhs ∈ grammar.terminals then some (.terminal rhs)
  else (grammar.findStep? rhs).map fun cut => .step cut.1 cut.2

/-- The right-hand side has one of the regular shapes. -/
def IsRegular (grammar : Grammar) (rhs : String) : Prop :=
  (grammar.classify rhs).isSome

instance (grammar : Grammar) (rhs : String) : Decidable (grammar.IsRegular rhs) :=
  inferInstanceAs (Decidable (_ = true))

end Grammar

end RegularModels
