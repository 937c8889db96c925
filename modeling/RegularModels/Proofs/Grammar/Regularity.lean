import Mathlib.Data.List.Basic
import RegularModels.Grammar.Inspect
import RegularModels.Proofs.Grammar.Classification
import RegularModels.Proofs.Grammar.Reachable

/-!
# The rule of regularity

`Admits` is the rule for right-hand sides without any search: a sign for the empty word, a
terminal, or a terminal and a non-terminal that are not empty.  What `classify` accepts is
exactly what is admitted, and a step is read with the shortest terminal that is not empty.
A grammar is valid when its parts are declared and all of its productions are admitted;
each production that is not gives one error, in the order of the productions.
-/

namespace RegularModels

/-- Among the cuts of a list, the ones with shorter first parts come first. -/
theorem pairwise_cuts {α : Type} (items : List α) :
    (cuts items).Pairwise fun left right => left.1.length < right.1.length := by
  rw [cuts, List.pairwise_map]
  apply List.pairwise_lt_range.imp_of_mem
  intro left right inLeft inRight lower
  rw [List.mem_range] at inLeft inRight
  simp only [List.splitAt_eq, List.length_take]
  omega

/-- The production that a finding rejects, if it is about a production. -/
def Finding.rejected? : Finding → Option Production
  | irregularProduction lhs rhs => some ⟨lhs, rhs⟩
  | noStates | noAlphabet | noInitialState | noFinalStates | missingTransitions _ => none
  | noNonTerminals | noTerminals | noStartSymbol | noProductions => none

theorem Finding.when_eq_nil_iff {condition : Bool} {finding : Finding} :
    Finding.when condition finding = [] ↔ condition = false := by
  cases condition <;> simp [Finding.when]

namespace Grammar

/-- The right-hand side has one of the declared shapes, wherever it may have to be cut. -/
inductive Admits (grammar : Grammar) : String → Prop where
  | epsilon : Admits grammar Grammar.epsilon
  | empty : Admits grammar ""
  | terminal {symbol : String} (declared : symbol ∈ grammar.terminals) : Admits grammar symbol
  | step {symbol next : String}
      (terminal : symbol ∈ grammar.terminals)
      (nonTerminal : next ∈ grammar.nonTerminals)
      (symbolNonempty : symbol ≠ "")
      (nextNonempty : next ≠ "") :
      Admits grammar (symbol ++ next)

variable {grammar : Grammar} {rhs symbol next : String}

/-! ## Right-hand sides -/

theorem admits_of_classify {shape : Shape} (read : grammar.classify rhs = some shape) :
    grammar.Admits rhs := by
  cases shape with
  | epsilon =>
      unfold classify at read
      split at read
      · rename_i sign
        rcases sign with rfl | rfl
        · exact .epsilon
        · exact .empty
      · split at read
        · cases read
        · rcases Option.map_eq_some_iff.mp read with ⟨cut, _, impossible⟩
          cases impossible
  | terminal symbol =>
      rcases terminal_of_classify read with ⟨rfl, declared⟩
      exact .terminal declared
  | step symbol next =>
      rcases step_of_classify read with
        ⟨rfl, symbolNonempty, nextNonempty, terminal, nonTerminal⟩
      exact .step terminal nonTerminal symbolNonempty nextNonempty

theorem isRegular_of_admits (admitted : grammar.Admits rhs) : grammar.IsRegular rhs := by
  unfold IsRegular classify
  split
  · rfl
  · rename_i notEmptyWord
    split
    · rfl
    · rename_i notTerminal
      cases admitted with
      | epsilon => exact absurd (.inl rfl) notEmptyWord
      | empty => exact absurd (.inr rfl) notEmptyWord
      | terminal declared => exact absurd declared notTerminal
      | step terminal nonTerminal symbolNonempty nextNonempty =>
          rcases exists_findStep? symbolNonempty nextNonempty terminal nonTerminal with
            ⟨cut, found⟩
          rw [found]
          rfl

/-- The search accepts what the rule admits. -/
theorem isRegular_iff_admits : grammar.IsRegular rhs ↔ grammar.Admits rhs := by
  constructor
  · intro regular
    rcases Option.isSome_iff_exists.mp regular with ⟨shape, read⟩
    exact admits_of_classify read
  · exact isRegular_of_admits

instance (grammar : Grammar) : DecidablePred grammar.Admits := fun _ =>
  decidable_of_iff _ isRegular_iff_admits

/-- A right side is not read exactly when the rule does not admit it. -/
theorem classify_eq_none_iff : grammar.classify rhs = none ↔ ¬grammar.Admits rhs := by
  rw [← isRegular_iff_admits, IsRegular, Option.not_isSome_iff_eq_none]

/-- The step that is found has the shortest terminal that leaves a non-terminal. -/
theorem length_le_of_findStep?
    (found : grammar.findStep? rhs = some (symbol, next))
    {other last : String}
    (cut : other ++ last = rhs)
    (otherNonempty : other ≠ "")
    (lastNonempty : last ≠ "")
    (terminal : other ∈ grammar.terminals)
    (nonTerminal : last ∈ grammar.nonTerminals) :
    symbol.length ≤ other.length := by
  have sorted : ((cuts rhs.toList).map fun cut =>
      (String.ofList cut.1, String.ofList cut.2)).Pairwise
        fun left right => left.1.length < right.1.length := by
    rw [List.pairwise_map]
    exact (pairwise_cuts rhs.toList).imp fun lower => by simpa using lower
  have candidate := mem_textCuts_iff.mpr ⟨cut, otherNonempty, lastNonempty⟩
  rw [findStep?, List.find?_eq_some_iff_append] at found
  rcases found with ⟨_, before, behind, split, passed⟩
  rw [split] at sorted candidate
  rcases List.mem_append.mp candidate with earlier | later
  · simpa [terminal, nonTerminal] using passed _ earlier
  · rcases List.mem_cons.mp later with same | later
    · cases same
      exact Nat.le_refl _
    · have behindFirst := (List.pairwise_append.mp sorted).2.1
      exact Nat.le_of_lt ((List.pairwise_cons.mp behindFirst).1 _ later)

theorem length_le_of_classify
    (read : grammar.classify rhs = some (.step symbol next))
    {other last : String}
    (cut : other ++ last = rhs)
    (otherNonempty : other ≠ "")
    (terminal : other ∈ grammar.terminals)
    (nonTerminal : last ∈ grammar.nonTerminals) :
    symbol.length ≤ other.length := by
  have whole := (step_of_classify read).1
  by_cases lastNonempty : last = ""
  · -- The other terminal is the whole right-hand side, so it cannot be shorter.
    rw [lastNonempty, String.append_empty] at cut
    rw [cut, ← whole, String.length_append]
    omega
  · unfold classify at read
    split at read
    · cases read
    · split at read
      · cases read
      · rcases Option.map_eq_some_iff.mp read with ⟨found, search, equal⟩
        cases equal
        exact length_le_of_findStep? search cut otherNonempty lastNonempty terminal nonTerminal

/-- A terminal that is not empty may be followed by any non-terminal, also by the empty one. -/
theorem admits_append
    (terminal : symbol ∈ grammar.terminals)
    (symbolNonempty : symbol ≠ "")
    (nonTerminal : next ∈ grammar.nonTerminals) :
    grammar.Admits (symbol ++ next) := by
  by_cases nextNonempty : next = ""
  · rw [nextNonempty, String.append_empty]
    exact .terminal terminal
  · exact .step terminal nonTerminal symbolNonempty nextNonempty

/-- The rule in one formula. -/
theorem admits_iff :
    grammar.Admits rhs ↔
      rhs = Grammar.epsilon ∨ rhs = "" ∨ rhs ∈ grammar.terminals ∨
        ∃ symbol ∈ grammar.terminals, ∃ next ∈ grammar.nonTerminals,
          symbol ≠ "" ∧ next ≠ "" ∧ symbol ++ next = rhs := by
  constructor
  · intro admitted
    cases admitted with
    | epsilon => exact .inl rfl
    | empty => exact .inr (.inl rfl)
    | terminal declared => exact .inr (.inr (.inl declared))
    | step terminal nonTerminal symbolNonempty nextNonempty =>
        exact .inr (.inr (.inr
          ⟨_, terminal, _, nonTerminal, symbolNonempty, nextNonempty, rfl⟩))
  · rintro (rfl | rfl | declared |
      ⟨symbol, terminal, next, nonTerminal, symbolNonempty, nextNonempty, rfl⟩)
    · exact .epsilon
    · exact .empty
    · exact .terminal declared
    · exact .step terminal nonTerminal symbolNonempty nextNonempty

/-! ## Symbols of one character -/

section Characters

variable
    (terminals : ∀ symbol ∈ grammar.terminals, symbol.length = 1)
    (nonTerminals : ∀ symbol ∈ grammar.nonTerminals, symbol.length = 1)
include terminals

theorem length_le_two_of_admits
    (nonTerminals : ∀ symbol ∈ grammar.nonTerminals, symbol.length = 1)
    (admitted : grammar.Admits rhs) :
    rhs.length ≤ 2 := by
  cases admitted with
  | epsilon => decide
  | empty => decide
  | terminal declared =>
      have one := terminals _ declared
      omega
  | step terminal nonTerminal _ _ =>
      have one := terminals _ terminal
      have other := nonTerminals _ nonTerminal
      rw [String.length_append]
      omega

include nonTerminals

/-- Among symbols of one character, none has to be said not to be empty. -/
theorem admits_iff_of_characters :
    grammar.Admits rhs ↔
      rhs = Grammar.epsilon ∨ rhs = "" ∨ rhs ∈ grammar.terminals ∨
        ∃ symbol ∈ grammar.terminals, ∃ next ∈ grammar.nonTerminals, rhs = symbol ++ next := by
  have nonempty {symbol : String} (single : symbol.length = 1) : symbol ≠ "" := by
    rintro rfl
    cases single
  rw [admits_iff]
  refine or_congr_right (or_congr_right (or_congr_right ?_))
  constructor
  · rintro ⟨symbol, terminal, next, nonTerminal, _, _, whole⟩
    exact ⟨symbol, terminal, next, nonTerminal, whole.symm⟩
  · rintro ⟨symbol, terminal, next, nonTerminal, whole⟩
    exact ⟨symbol, terminal, next, nonTerminal, nonempty (terminals _ terminal),
      nonempty (nonTerminals _ nonTerminal), whole.symm⟩

end Characters

/-! ## Validation -/

/-- Each production that is not admitted gives one error, in the order of the productions. -/
theorem rejected_errors_validate (grammar : Grammar) :
    grammar.validate.errors.filterMap Finding.rejected? =
      grammar.productionList.filter fun production => ¬grammar.Admits production.rhs := by
  have silent (condition : Bool) (finding : Finding) (missing : finding.rejected? = none) :
      (Finding.when condition finding).filterMap Finding.rejected? = [] := by
    cases condition <;> simp [Finding.when, missing]
  have rejections (productions : List Production) :
      (productions.map fun production =>
        Finding.irregularProduction production.lhs production.rhs).filterMap
          Finding.rejected? = productions := by
    rw [List.filterMap_map]
    exact List.filterMap_some
  simp only [validate, List.filterMap_append, rejections, isRegular_iff_admits]
  rw [silent _ _ rfl, silent _ _ rfl, silent _ _ rfl, silent _ _ rfl]
  rfl

/-- A grammar is valid when it has symbols, a start and productions, all of them admitted. -/
theorem isValid_validate_iff :
    grammar.validate.isValid = true ↔
      (∃ symbol, symbol ∈ grammar.nonTerminals) ∧
      (∃ symbol, symbol ∈ grammar.terminals) ∧
      (∃ start, grammar.start = some start) ∧
      (∃ lhs, lhs ∈ grammar.productions) ∧
      ∀ production ∈ grammar.productionList, grammar.Admits production.rhs := by
  have started : grammar.start.isNone = false ↔ ∃ start, grammar.start = some start := by
    cases grammar.start <;> simp
  simp only [Validation.isValid, validate, List.isEmpty_iff, List.append_eq_nil_iff,
    List.map_eq_nil_iff, List.filter_eq_nil_iff, Finding.when_eq_nil_iff,
    NameSet.isEmpty_eq_false_iff, Table.isEmpty_eq_false_iff, started, isRegular_iff_admits,
    decide_eq_true_eq, Decidable.not_not, and_assoc]

/-- When everything is declared and admitted, at most the productions themselves are missing. -/
theorem errors_validate_of_admits
    (nonTerminals : ∃ symbol, symbol ∈ grammar.nonTerminals)
    (terminals : ∃ symbol, symbol ∈ grammar.terminals)
    (started : ∃ start, grammar.start = some start)
    (admitted : ∀ production ∈ grammar.productionList, grammar.Admits production.rhs) :
    grammar.validate.errors = Finding.when grammar.productions.isEmpty .noProductions := by
  rcases started with ⟨start, chosen⟩
  have none : grammar.productionList.filter (fun production => ¬grammar.Admits production.rhs) =
      [] := by
    simpa using admitted
  simp only [validate, isRegular_iff_admits, none, NameSet.isEmpty_eq_false_iff.mpr nonTerminals,
    NameSet.isEmpty_eq_false_iff.mpr terminals, chosen]
  simp [Finding.when]

/--
A right-hand side is refused when the rule does not admit it, and only then.  A step is a
terminal and a non-terminal that make up the right-hand side, and no shorter terminal that
is not empty leaves a non-terminal.  With symbols of one character, at most two characters
are accepted.  A grammar is valid when its parts are declared and the rule admits all of
its productions, and each one that is not admitted gives one error, in their order.
-/
theorem rule_of_regularity (grammar : Grammar) :
    (∀ rhs, grammar.classify rhs = none ↔
      rhs ≠ epsilon ∧ rhs ≠ "" ∧ rhs ∉ grammar.terminals ∧
        ¬∃ symbol ∈ grammar.terminals, ∃ next ∈ grammar.nonTerminals,
          symbol ≠ "" ∧ next ≠ "" ∧ symbol ++ next = rhs) ∧
    (∀ rhs symbol next, grammar.classify rhs = some (.step symbol next) →
      symbol ++ next = rhs ∧ symbol ∈ grammar.terminals ∧ next ∈ grammar.nonTerminals ∧
        ∀ other ∈ grammar.terminals, ∀ last ∈ grammar.nonTerminals,
          other ≠ "" → other ++ last = rhs → symbol.length ≤ other.length) ∧
    ((∀ symbol ∈ grammar.terminals, symbol.length = 1) →
      (∀ symbol ∈ grammar.nonTerminals, symbol.length = 1) →
        ∀ rhs,
          (grammar.classify rhs ≠ none ↔
            rhs = epsilon ∨ rhs = "" ∨ rhs ∈ grammar.terminals ∨
              ∃ symbol ∈ grammar.terminals, ∃ next ∈ grammar.nonTerminals,
                rhs = symbol ++ next) ∧
          (grammar.classify rhs ≠ none → rhs.length ≤ 2)) ∧
    (grammar.validate.isValid = true ↔
      (∃ symbol, symbol ∈ grammar.nonTerminals) ∧
      (∃ symbol, symbol ∈ grammar.terminals) ∧
      (∃ start, grammar.start = some start) ∧
      (∃ lhs, lhs ∈ grammar.productions) ∧
      ∀ production ∈ grammar.productionList, grammar.Admits production.rhs) ∧
    grammar.validate.errors.filterMap Finding.rejected? =
      grammar.productionList.filter fun production => ¬grammar.Admits production.rhs := by
  refine ⟨?_, ?_, ?_, isValid_validate_iff, grammar.rejected_errors_validate⟩
  · intro rhs
    rw [classify_eq_none_iff, admits_iff, not_or, not_or, not_or]
  · intro rhs symbol next read
    rcases step_of_classify read with ⟨whole, _, _, terminal, nonTerminal⟩
    refine ⟨whole, terminal, nonTerminal, ?_⟩
    intro other otherTerminal last lastNonTerminal otherNonempty cut
    exact length_le_of_classify read cut otherNonempty otherTerminal lastNonTerminal
  · intro terminals nonTerminals rhs
    rw [ne_eq, classify_eq_none_iff, Decidable.not_not]
    exact ⟨admits_iff_of_characters terminals nonTerminals,
      length_le_two_of_admits terminals nonTerminals⟩

/-- Words of two letters with symbols of one character each. -/
def letters : Grammar where
  name := "letters"
  terminals := .ofList ["a", "b"]
  nonTerminals := .ofList ["A", "B"]

/-- Three letters are one too many, although the first two are accepted. -/
theorem rule_of_regularity_letters :
    (∀ symbol ∈ letters.terminals, symbol.length = 1) ∧
      (∀ symbol ∈ letters.nonTerminals, symbol.length = 1) ∧
      letters.classify "aB" = some (.step "a" "B") ∧
      letters.classify "aBA" = none := by
  have terminals : ∀ symbol ∈ letters.terminals, symbol.length = 1 := by
    change ∀ symbol ∈ letters.terminals.toList, symbol.length = 1
    decide
  have nonTerminals : ∀ symbol ∈ letters.nonTerminals, symbol.length = 1 := by
    change ∀ symbol ∈ letters.nonTerminals.toList, symbol.length = 1
    decide
  rcases rule_of_regularity letters with ⟨_, _, characters, _, _⟩
  refine ⟨terminals, nonTerminals, by decide, ?_⟩
  by_contra accepted
  have short := (characters terminals nonTerminals "aBA").2 accepted
  exact absurd short (by decide)

/-- A grammar with the empty terminal, where a non-terminal is also a step. -/
def emptyTerminal : Grammar :=
  after "emptyTerminal" [.setNonTerminals ["B", "aB"], .setTerminals ["", "a"]]

/-- The empty terminal at the front leaves a non-terminal, but the step is read without it. -/
theorem exists_shorter_terminal :
    emptyTerminal.Built ∧
      emptyTerminal.classify "aB" = some (.step "a" "B") ∧
      ∃ other ∈ emptyTerminal.terminals, ∃ last ∈ emptyTerminal.nonTerminals,
        other ++ last = "aB" ∧ other.length < "a".length := by
  refine ⟨built_after _ _, by decide +kernel, "", ?_, "aB", ?_, by decide, by decide⟩
  · decide +kernel
  · decide +kernel

end Grammar

end RegularModels
