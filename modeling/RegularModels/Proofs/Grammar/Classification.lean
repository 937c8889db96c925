import RegularModels.Grammar.Shape

/-!
# Reading right-hand sides

What `classify` says about a right-hand side, in both directions: a terminal and a
step are made of declared symbols whose texts put together are the right-hand side,
and a right-hand side that can be cut into a declared terminal and a declared
non-terminal is read as a step, if it is not read otherwise before.
-/

namespace RegularModels

/-- A cut is a pair of non-empty parts that make up the whole. -/
theorem mem_cuts_iff {α : Type} {items left right : List α} :
    (left, right) ∈ cuts items ↔ left ++ right = items ∧ left ≠ [] ∧ right ≠ [] := by
  simp only [cuts, List.mem_map, List.mem_range, List.splitAt_eq, Prod.mk.injEq]
  constructor
  · rintro ⟨index, inside, rfl, rfl⟩
    have long : index + 1 < items.length := by omega
    refine ⟨List.take_append_drop _ _, ?_, ?_⟩
    · rw [ne_eq, List.take_eq_nil_iff]
      rintro (zero | empty)
      · omega
      · simp [empty] at long
    · rw [ne_eq, List.drop_eq_nil_iff]
      omega
  · rintro ⟨rfl, leftNonempty, rightNonempty⟩
    have leftLong := List.length_pos_iff.mpr leftNonempty
    have rightLong := List.length_pos_iff.mpr rightNonempty
    refine ⟨left.length - 1, ?_, ?_, ?_⟩
    · rw [List.length_append]
      omega
    · rw [Nat.sub_add_cancel leftLong, List.take_left']
      rfl
    · rw [Nat.sub_add_cancel leftLong, List.drop_left']
      rfl

namespace Grammar

variable {grammar : Grammar} {rhs symbol next : String}

/-- The cuts of a text are its divisions into two parts that are not empty. -/
theorem mem_textCuts_iff :
    (symbol, next) ∈ (cuts rhs.toList).map (fun cut =>
        (String.ofList cut.1, String.ofList cut.2)) ↔
      symbol ++ next = rhs ∧ symbol ≠ "" ∧ next ≠ "" := by
  have lists : (symbol, next) ∈ (cuts rhs.toList).map (fun cut =>
        (String.ofList cut.1, String.ofList cut.2)) ↔
      (symbol.toList, next.toList) ∈ cuts rhs.toList := by
    constructor
    · intro member
      rcases List.mem_map.mp member with ⟨⟨left, right⟩, inCuts, equal⟩
      cases equal
      simpa using inCuts
    · intro member
      exact List.mem_map.mpr ⟨_, member, by simp⟩
  rw [lists, mem_cuts_iff, ← String.toList_append, String.toList_inj, ne_eq, ne_eq,
    String.toList_eq_nil_iff, String.toList_eq_nil_iff]

/-- A step that is found is a cut into two declared symbols. -/
theorem cut_of_findStep?
    (found : grammar.findStep? rhs = some (symbol, next)) :
    symbol ++ next = rhs ∧ symbol ≠ "" ∧ next ≠ "" ∧
      symbol ∈ grammar.terminals ∧ next ∈ grammar.nonTerminals := by
  have declared := List.find?_some found
  rw [Bool.and_eq_true, decide_eq_true_eq, decide_eq_true_eq] at declared
  rcases mem_textCuts_iff.mp (List.mem_of_find?_eq_some found) with ⟨whole, first, second⟩
  exact ⟨whole, first, second, declared⟩

/-- Where there is a cut into two declared symbols, a step is found. -/
theorem exists_findStep?
    (symbolNonempty : symbol ≠ "") (nextNonempty : next ≠ "")
    (terminal : symbol ∈ grammar.terminals) (nonTerminal : next ∈ grammar.nonTerminals) :
    ∃ cut, grammar.findStep? (symbol ++ next) = some cut := by
  rw [← Option.isSome_iff_exists, findStep?, List.find?_isSome]
  refine ⟨(symbol, next), mem_textCuts_iff.mpr ⟨rfl, symbolNonempty, nextNonempty⟩, ?_⟩
  simp [terminal, nonTerminal]

/-- What is read as a terminal is one. -/
theorem terminal_of_classify
    (read : grammar.classify rhs = some (.terminal symbol)) :
    rhs = symbol ∧ symbol ∈ grammar.terminals := by
  unfold classify at read
  split at read
  · cases read
  · split at read
    · cases read
      exact ⟨rfl, ‹_›⟩
    · rcases Option.map_eq_some_iff.mp read with ⟨cut, _, impossible⟩
      cases impossible

/-- What is read as a step is a terminal and a non-terminal, one after the other. -/
theorem step_of_classify
    (read : grammar.classify rhs = some (.step symbol next)) :
    symbol ++ next = rhs ∧ symbol ≠ "" ∧ next ≠ "" ∧
      symbol ∈ grammar.terminals ∧ next ∈ grammar.nonTerminals := by
  unfold classify at read
  split at read
  · cases read
  · split at read
    · cases read
    · rcases Option.map_eq_some_iff.mp read with ⟨cut, found, equal⟩
      cases equal
      exact cut_of_findStep? found

/-! ## Reading back what was put together -/

theorem append_ne_epsilon (symbolNonempty : symbol ≠ "") (nextNonempty : next ≠ "") :
    symbol ++ next ≠ epsilon := by
  intro equal
  have lists : symbol.toList ++ next.toList = ['ε'] := by
    rw [← String.toList_append, equal]
    rfl
  rcases List.append_eq_singleton_iff.mp lists with ⟨empty, _⟩ | ⟨_, empty⟩
  · exact symbolNonempty (String.toList_eq_nil_iff.mp empty)
  · exact nextNonempty (String.toList_eq_nil_iff.mp empty)

/-- The two signs for the empty word are read as such, whatever is declared. -/
theorem classify_epsilon (grammar : Grammar) : grammar.classify epsilon = some .epsilon := by
  simp [classify]

theorem classify_empty (grammar : Grammar) : grammar.classify "" = some .epsilon := by
  simp [classify]

/-- A declared terminal that is no sign for the empty word is read as itself. -/
theorem classify_terminal
    (symbolNonempty : symbol ≠ "") (notEpsilon : symbol ≠ epsilon)
    (terminal : symbol ∈ grammar.terminals) :
    grammar.classify symbol = some (.terminal symbol) := by
  simp [classify, symbolNonempty, notEpsilon, terminal]

/--
A terminal and a non-terminal put together are read back as a step, when the whole
is no terminal and there is no other way of cutting it.
-/
theorem classify_append
    (symbolNonempty : symbol ≠ "") (nextNonempty : next ≠ "")
    (terminal : symbol ∈ grammar.terminals) (nonTerminal : next ∈ grammar.nonTerminals)
    (whole : symbol ++ next ∉ grammar.terminals)
    (unique : ∀ other ∈ grammar.terminals, ∀ last ∈ grammar.nonTerminals,
      other ++ last = symbol ++ next → other = symbol ∧ last = next) :
    grammar.classify (symbol ++ next) = some (.step symbol next) := by
  have nonempty : symbol ++ next ≠ "" := by
    simp [symbolNonempty]
  rcases exists_findStep? symbolNonempty nextNonempty terminal nonTerminal with
    ⟨⟨other, last⟩, found⟩
  rcases cut_of_findStep? found with ⟨equal, _, _, otherTerminal, lastNonTerminal⟩
  rcases unique other otherTerminal last lastNonTerminal equal with ⟨rfl, rfl⟩
  have notEmptyWord : ¬ (other ++ last = epsilon ∨ other ++ last = "") := by
    rintro (sign | empty)
    · exact append_ne_epsilon symbolNonempty nextNonempty sign
    · exact nonempty empty
  rw [classify, if_neg notEmptyWord, if_neg whole, found]
  rfl

end Grammar

end RegularModels
