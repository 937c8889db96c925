import RegularModels.Grammar.Shape

/-!
# Derivations

A rule says which shapes a non-terminal may be replaced by; `Derives rule` are the
words that it yields.  The rule of a grammar comes in two strengths: `Produces`
takes every regular right-hand side as it is read, and `Keeps` takes of several
steps with the same terminal only the one whose non-terminal appears last, counted
by first appearances.  A deterministic grammar has at most one such non-terminal,
and for it the two rules are the same.
-/

namespace RegularModels

/-- The item occurs, and every other item has occurred before it does so first. -/
def AppearsLast {α : Type} (items : List α) (item : α) : Prop :=
  ∃ before after, items = before ++ item :: after ∧ item ∉ before ∧
    ∀ other ∈ after, other = item ∨ other ∈ before

theorem AppearsLast.mem
    {α : Type} {items : List α} {item : α}
    (last : AppearsLast items item) :
    item ∈ items := by
  rcases last with ⟨before, after, rfl, _⟩
  simp

/-- When only one item occurs at all, it is the last to appear. -/
theorem appearsLast_of_forall_eq
    {α : Type} {items : List α} {item : α}
    (member : item ∈ items)
    (only : ∀ other ∈ items, other = item) :
    AppearsLast items item := by
  cases items with
  | nil => simp at member
  | cons first rest =>
      have firstEq : first = item := only first (by simp)
      subst firstEq
      exact ⟨[], rest, rfl, by simp, fun other inRest => .inl (only other (by simp [inRest]))⟩

/-- The words that a non-terminal yields under a rule. -/
inductive Derives (rule : String → Shape → Prop) : String → List String → Prop where
  | epsilon {lhs : String} :
      rule lhs .epsilon → Derives rule lhs []
  | terminal {lhs symbol : String} :
      rule lhs (.terminal symbol) → Derives rule lhs [symbol]
  | step {lhs symbol next : String} {rest : List String} :
      rule lhs (.step symbol next) → Derives rule next rest →
        Derives rule lhs (symbol :: rest)

namespace Derives

variable {rule : String → Shape → Prop} {lhs : String}

theorem nil_iff : Derives rule lhs [] ↔ rule lhs .epsilon := by
  constructor
  · intro derivation
    cases derivation with
    | epsilon allowed => exact allowed
  · exact .epsilon

theorem cons_iff {symbol : String} {rest : List String} :
    Derives rule lhs (symbol :: rest) ↔
      (rule lhs (.terminal symbol) ∧ rest = []) ∨
        ∃ next, rule lhs (.step symbol next) ∧ Derives rule next rest := by
  constructor
  · intro derivation
    cases derivation with
    | terminal allowed => exact .inl ⟨allowed, rfl⟩
    | step allowed further => exact .inr ⟨_, allowed, further⟩
  · rintro (⟨allowed, rfl⟩ | ⟨next, allowed, further⟩)
    · exact .terminal allowed
    · exact .step allowed further

/-- A rule that allows more yields more words. -/
theorem mono
    {wider : String → Shape → Prop}
    (allows : ∀ lhs shape, rule lhs shape → wider lhs shape)
    {word : List String}
    (derivation : Derives rule lhs word) :
    Derives wider lhs word := by
  induction derivation with
  | epsilon allowed => exact .epsilon (allows _ _ allowed)
  | terminal allowed => exact .terminal (allows _ _ allowed)
  | step allowed _ ih => exact .step (allows _ _ allowed) ih

theorem congr
    {other : String → Shape → Prop}
    (same : ∀ lhs shape, rule lhs shape ↔ other lhs shape)
    {word : List String} :
    Derives rule lhs word ↔ Derives other lhs word :=
  ⟨mono fun lhs shape => (same lhs shape).mp, mono fun lhs shape => (same lhs shape).mpr⟩

end Derives

namespace Grammar

/-- Some right-hand side of the non-terminal is read as the shape. -/
def Produces (grammar : Grammar) (lhs : String) (shape : Shape) : Prop :=
  ∃ rhs ∈ grammar.rhsList lhs, grammar.classify rhs = some shape

/-- The non-terminal of a step with the terminal. -/
def stepTarget? (symbol : String) : Option Shape → Option String
  | some (.step read next) => if read = symbol then some next else none
  | _ => none

/-- The non-terminals of the steps of a pair, in the order of the right-hand sides. -/
def nextNonTerminals (grammar : Grammar) (lhs symbol : String) : List String :=
  (grammar.rhsList lhs).filterMap fun rhs => stepTarget? symbol (grammar.classify rhs)

/--
The shape is produced and, if it is a step, its non-terminal is the last to appear
among the steps of the same non-terminal and terminal.
-/
def Keeps (grammar : Grammar) (lhs : String) : Shape → Prop
  | .step symbol next => AppearsLast (grammar.nextNonTerminals lhs symbol) next
  | shape => grammar.Produces lhs shape

/-- The start symbol yields the word under a rule. -/
def Generates
    (grammar : Grammar) (rule : String → Shape → Prop) (word : List String) : Prop :=
  ∃ start, grammar.start = some start ∧ Derives rule start word

/-- No non-terminal has steps to two non-terminals with one terminal. -/
def Deterministic (grammar : Grammar) : Prop :=
  ∀ lhs symbol left right,
    grammar.Produces lhs (.step symbol left) → grammar.Produces lhs (.step symbol right) →
      left = right

variable {grammar : Grammar} {lhs symbol next : String}

theorem stepTarget?_eq_some_iff {shape : Option Shape} :
    stepTarget? symbol shape = some next ↔ shape = some (.step symbol next) := by
  constructor
  · intro found
    unfold stepTarget? at found
    split at found
    · rename_i read target
      split at found
      · rename_i same
        rw [same, Option.some.inj found]
      · exact absurd found (by simp)
    · exact absurd found (by simp)
  · rintro rfl
    simp [stepTarget?]

theorem mem_nextNonTerminals_iff :
    next ∈ grammar.nextNonTerminals lhs symbol ↔ grammar.Produces lhs (.step symbol next) := by
  simp only [nextNonTerminals, List.mem_filterMap, stepTarget?_eq_some_iff, Produces]

theorem produces_of_keeps {shape : Shape} (kept : grammar.Keeps lhs shape) :
    grammar.Produces lhs shape := by
  cases shape with
  | epsilon | terminal => exact kept
  | step symbol next => exact mem_nextNonTerminals_iff.mp kept.mem

/-- In a deterministic grammar everything that is produced is kept. -/
theorem keeps_iff_produces
    (deterministic : grammar.Deterministic) {shape : Shape} :
    grammar.Keeps lhs shape ↔ grammar.Produces lhs shape := by
  constructor
  · exact produces_of_keeps
  · intro produced
    cases shape with
    | epsilon | terminal => exact produced
    | step symbol next =>
        apply appearsLast_of_forall_eq (mem_nextNonTerminals_iff.mpr produced)
        intro other member
        exact deterministic _ _ _ _ (mem_nextNonTerminals_iff.mp member) produced

end Grammar

end RegularModels
