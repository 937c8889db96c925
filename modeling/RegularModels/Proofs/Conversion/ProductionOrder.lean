import RegularModels.Grammar.Inspect
import RegularModels.Proofs.Conversion.GrammarLanguage

/-!
# The order of productions

Grammars that differ in the order of their productions only produce the same
shapes.  Their automata still need not accept the same words: of two steps of one
pair the automaton keeps the one whose non-terminal appears last, and that depends
on the order.  It is the only thing that does, so automata of grammars with the
same last non-terminals accept the same texts.
-/

namespace RegularModels.Grammar

variable {left right : Grammar}

/-- Of the steps of every pair, the same non-terminal appears last in both grammars. -/
def SameLastSteps (left right : Grammar) : Prop :=
  ∀ lhs symbol next,
    AppearsLast (left.nextNonTerminals lhs symbol) next ↔
      AppearsLast (right.nextNonTerminals lhs symbol) next

/-! ## What does not depend on the order -/

theorem classify_congr
    (nonTerminals : left.nonTerminals = right.nonTerminals)
    (terminals : left.terminals = right.terminals)
    (rhs : String) :
    left.classify rhs = right.classify rhs := by
  simp only [classify, findStep?, nonTerminals, terminals]

theorem exists_perm_of_covers
    (covers : Covers left right)
    {lhs : String} {rhsList : List String}
    (found : left.productions.get? lhs = some rhsList) :
    ∃ other, right.productions.get? lhs = some other ∧ rhsList.Perm other := by
  rcases covers _ (Table.get?_eq_some_iff.mp found) with ⟨⟨_, other⟩, member, rfl, perm⟩
  exact ⟨other, Table.get?_eq_some_iff.mpr member, List.isPerm_iff.mp perm⟩

/-- Grammars that cover each other have the same right sides in different orders. -/
theorem rhsList_perm
    (forth : Covers left right) (back : Covers right left) (lhs : String) :
    (left.rhsList lhs).Perm (right.rhsList lhs) := by
  unfold rhsList
  cases leftFound : left.productions.get? lhs with
  | some rhsList =>
      rcases exists_perm_of_covers forth leftFound with ⟨other, rightFound, perm⟩
      rw [rightFound]
      exact perm
  | none =>
      cases rightFound : right.productions.get? lhs with
      | none => exact .refl _
      | some rhsList =>
          rcases exists_perm_of_covers back rightFound with ⟨other, found, _⟩
          rw [leftFound] at found
          cases found

/-- The shapes that are produced do not depend on the order of productions. -/
theorem produces_congr
    (same : Same left right) (lhs : String) (shape : Shape) :
    left.Produces lhs shape ↔ right.Produces lhs shape := by
  rcases same with ⟨nonTerminals, terminals, _, forth, back⟩
  have perm := rhsList_perm forth back lhs
  simp only [Produces, perm.mem_iff, classify_congr nonTerminals terminals]

/-- Which steps are kept depends on which step comes last only. -/
theorem keeps_congr
    (same : Same left right) (lastSteps : SameLastSteps left right)
    (lhs : String) (shape : Shape) :
    left.Keeps lhs shape ↔ right.Keeps lhs shape := by
  cases shape with
  | epsilon | terminal => exact produces_congr same lhs _
  | step symbol next => exact lastSteps lhs symbol next

theorem generates_congr
    {leftRule rightRule : String → Shape → Prop}
    (starts : left.start = right.start)
    (same : ∀ lhs shape, leftRule lhs shape ↔ rightRule lhs shape)
    (word : List String) :
    left.Generates leftRule word ↔ right.Generates rightRule word := by
  simp only [Generates, starts, Derives.congr same]

/-- In grammars that are the same, deterministic ones have the same last steps. -/
theorem sameLastSteps_of_deterministic
    (same : Same left right) (deterministic : left.Deterministic) :
    SameLastSteps left right := by
  have rightDeterministic : right.Deterministic := by
    intro lhs symbol first second firstProduced secondProduced
    exact deterministic lhs symbol first second
      ((produces_congr same _ _).mpr firstProduced)
      ((produces_congr same _ _).mpr secondProduced)
  intro lhs symbol next
  have leftKeeps : left.Keeps lhs (.step symbol next) ↔ _ := keeps_iff_produces deterministic
  have rightKeeps : right.Keeps lhs (.step symbol next) ↔ _ :=
    keeps_iff_produces rightDeterministic
  exact leftKeeps.trans ((produces_congr same lhs _).trans rightKeeps.symm)

/-! ## What depends on the order -/

/-- A grammar with some right-hand sides for the start symbol and one for another. -/
def withSteps (rhsList : List String) : Grammar where
  name := "steps"
  nonTerminals := .ofList ["B", "C", "S"]
  terminals := .ofList ["a", "b"]
  start := some "S"
  productions := (Table.insert ∅ "S" rhsList).insert "C" ["b"]

theorem withSteps_built
    {rhsList : List String}
    (history : withSteps rhsList = after "steps"
      (.setNonTerminals ["S", "B", "C"] :: .setTerminals ["a", "b"] :: .setStart "S" ::
        rhsList.map (.addProduction "S") ++ [.addProduction "C" "b"])) :
    (withSteps rhsList).Built :=
  history ▸ built_after _ _

theorem withSteps_declared (rhsList : List String) : (withSteps rhsList).Declared where
  start := ⟨"S", by simp [withSteps, NameSet.mem_ofList], rfl⟩
  lhs lhs member := by
    have listed : lhs ∈ ["S", "C"] := member
    rcases List.mem_pair.mp listed with rfl | rfl <;> simp [withSteps, NameSet.mem_ofList]

/-- The order of two steps of one pair decides which text is accepted. -/
theorem exists_same_accepts_ne :
    ¬ ∀ left right : Grammar, left.Built → right.Built → Same left right →
      left.Declared → right.Declared → ∀ text,
        (left.toAutomaton none).model.accepts text =
          (right.toAutomaton none).model.accepts text := by
  intro unordered
  have equal := unordered (withSteps ["aB", "aC"]) (withSteps ["aC", "aB"])
    (withSteps_built (by decide +kernel)) (withSteps_built (by decide +kernel))
    (by decide +kernel) (withSteps_declared _) (withSteps_declared _) "ab"
  -- the first keeps the step to the non-terminal that goes on, the second the other one
  have accepted : ((withSteps ["aB", "aC"]).toAutomaton none).model.accepts "ab" = true := by
    decide +kernel
  have rejected : ((withSteps ["aC", "aB"]).toAutomaton none).model.accepts "ab" = false := by
    decide +kernel
  rw [accepted, rejected] at equal
  cases equal

/--
Automata of grammars that differ in the order of their productions accept the same
texts, as long as the order leaves the same step of every pair last; it does so
when no pair has steps to different non-terminals.
-/
theorem accepts_eq_of_same
    (leftBuilt : left.Built) (rightBuilt : right.Built)
    (same : Same left right)
    (leftDeclared : left.Declared) (rightDeclared : right.Declared)
    (leftName rightName : Option String) :
    (left.toAutomaton leftName).Succeeds ∧ (right.toAutomaton rightName).Succeeds ∧
      (SameLastSteps left right → ∀ text,
        (left.toAutomaton leftName).model.accepts text =
          (right.toAutomaton rightName).model.accepts text) ∧
      (left.Deterministic → ∀ text,
        (left.toAutomaton leftName).model.accepts text =
          (right.toAutomaton rightName).model.accepts text) := by
  rcases realizes_toAutomaton leftBuilt.namesTrimmed leftDeclared leftName with
    ⟨leftWent, leftRealizes⟩
  rcases realizes_toAutomaton rightBuilt.namesTrimmed rightDeclared rightName with
    ⟨rightWent, rightRealizes⟩
  have agree (lastSteps : SameLastSteps left right) (text : String) :
      (left.toAutomaton leftName).model.accepts text =
        (right.toAutomaton rightName).model.accepts text := by
    apply Automaton.accepts_text_congr
    intro word
    rw [leftRealizes.accepts_iff leftDeclared, rightRealizes.accepts_iff rightDeclared]
    exact generates_congr same.2.2.1 (keeps_congr same lastSteps) word
  exact ⟨leftWent, rightWent, agree,
    fun deterministic => agree (sameLastSteps_of_deterministic same deterministic)⟩

/-- An end may move among the steps of its pair. -/
theorem sameLastSteps_withSteps :
    SameLastSteps (withSteps ["aB", "a", "aC"]) (withSteps ["a", "aB", "aC"]) := by
  intro lhs symbol next
  have lists : (withSteps ["aB", "a", "aC"]).nextNonTerminals lhs symbol =
      (withSteps ["a", "aB", "aC"]).nextNonTerminals lhs symbol := by
    by_cases start : lhs = "S"
    · subst start
      have first : (withSteps ["aB", "a", "aC"]).rhsList "S" = ["aB", "a", "aC"] := rfl
      have second : (withSteps ["a", "aB", "aC"]).rhsList "S" = ["a", "aB", "aC"] := rfl
      have ends : ∀ rhsList, (withSteps rhsList).classify "a" = some (.terminal "a") := by
        intro rhsList
        rfl
      simp only [nextNonTerminals, first, second, List.filterMap_cons, ends, stepTarget?]
      rfl
    · have others : ∀ rhsList, (withSteps rhsList).rhsList lhs =
          if "C" = lhs then ["b"] else [] := by
        intro rhsList
        rw [Grammar.rhsList, withSteps, Table.get?_insert, Table.get?_insert,
          if_neg (Ne.symm start)]
        split <;> rfl
      simp only [nextNonTerminals, others]
      rfl
  rw [lists]

/-- Moving the end of a word about does not matter when the same step comes last. -/
theorem accepts_eq_of_same_withSteps :
    (withSteps ["aB", "a", "aC"]).Built ∧ (withSteps ["a", "aB", "aC"]).Built ∧
      Same (withSteps ["aB", "a", "aC"]) (withSteps ["a", "aB", "aC"]) ∧
      (withSteps ["aB", "a", "aC"]).Declared ∧ (withSteps ["a", "aB", "aC"]).Declared ∧
      ∀ text, ((withSteps ["aB", "a", "aC"]).toAutomaton none).model.accepts text =
        ((withSteps ["a", "aB", "aC"]).toAutomaton none).model.accepts text := by
  have leftBuilt : (withSteps ["aB", "a", "aC"]).Built := withSteps_built (by decide +kernel)
  have rightBuilt : (withSteps ["a", "aB", "aC"]).Built := withSteps_built (by decide +kernel)
  have same : Same (withSteps ["aB", "a", "aC"]) (withSteps ["a", "aB", "aC"]) := by
    decide +kernel
  exact ⟨leftBuilt, rightBuilt, same, withSteps_declared _, withSteps_declared _,
    (accepts_eq_of_same leftBuilt rightBuilt same (withSteps_declared _) (withSteps_declared _)
      none none).2.2.1 sameLastSteps_withSteps⟩

end RegularModels.Grammar
