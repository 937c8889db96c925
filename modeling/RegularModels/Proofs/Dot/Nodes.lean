import Mathlib.Data.Finset.Card
import Mathlib.Data.List.TakeWhile
import RegularModels.Dot.Graph
import RegularModels.Dot.Identifier

/-!
# Nodes of a graph and their identifiers

The statements of a graph name its nodes by identifiers, and so do the ends of its edges;
how they are written is up to a quoting.  In a quoting that is as documented, a plain
name is its own identifier, and no quoted text is one.  In a quoted text a backslash
before a quote belongs to the quote, whether it was written to escape it or stood there
already; so two quoted names have the same identifier exactly when they are equal but for
such backslashes.
-/

namespace RegularModels.Dot

namespace Statement

/-- The name of the node that the statement is about. -/
def node? : Statement → Option String
  | .node name _ _ => some name
  | .edge _ _ _ _ => none

/-- The ends and the label of the edge that the statement is about. -/
def edge? : Statement → Option ((String × String) × Option String)
  | .node _ _ _ => none
  | .edge tail head label _ => some ((tail, head), label)

/-- The attributes of a statement beside its label. -/
def attributes : Statement → Attributes
  | .node _ _ attributes => attributes
  | .edge _ _ _ attributes => attributes

end Statement

namespace Digraph

/-- The identifiers of the nodes that have statements. -/
def nodeIdentifiers (quoting : Quoting) (graph : Digraph) : List String :=
  (graph.statements.filterMap Statement.node?).map quoting.identifier

/-- The ends of the edges as they are written. -/
def edgeEnds (quoting : Quoting) (graph : Digraph) : List String :=
  (graph.statements.filterMap Statement.edge?).flatMap fun edge =>
    [quoting.endpoint edge.1.1, quoting.endpoint edge.1.2]

/-- The nodes as they are written: those that have statements, and all ends of edges. -/
def writtenNodes (quoting : Quoting) (graph : Digraph) : Finset String :=
  (graph.nodeIdentifiers quoting ++ graph.edgeEnds quoting).toFinset

/-- Nodes with statements of their own are as many as their statements. -/
theorem card_writtenNodes
    {quoting : Quoting} {graph : Digraph}
    (distinct : (graph.nodeIdentifiers quoting).Nodup)
    (declared : ∀ node ∈ graph.edgeEnds quoting, node ∈ graph.nodeIdentifiers quoting) :
    (graph.writtenNodes quoting).card = (graph.nodeIdentifiers quoting).length := by
  have same : graph.writtenNodes quoting = (graph.nodeIdentifiers quoting).toFinset := by
    ext node
    rw [writtenNodes, List.mem_toFinset, List.mem_toFinset, List.mem_append]
    exact ⟨fun either => either.elim id (declared node), .inl⟩
  rw [same, List.toFinset_card_of_nodup distinct]

end Digraph

/-! ## Escaped quotes -/

/--
Drop the backslash before each quote that it escapes.  Of backslashes in a row, two and
two belong together and escape nothing.
-/
def dropEscapes : List Char → List Char
  | '\\' :: '\\' :: rest => '\\' :: '\\' :: dropEscapes rest
  | '\\' :: '"' :: rest => '"' :: dropEscapes rest
  | char :: rest => char :: dropEscapes rest
  | [] => []

/-- The character is no backslash that belongs together with the character behind it. -/
def Alone (char : Char) (rest : List Char) : Prop :=
  char = '\\' → rest.head? ≠ some '\\' ∧ rest.head? ≠ some '"'

theorem dropEscapes_cons_of_alone
    {char : Char} {rest : List Char}
    (alone : Alone char rest) :
    dropEscapes (char :: rest) = char :: dropEscapes rest := by
  rw [dropEscapes]
  · rintro behind rfl rfl
    exact (alone rfl).1 rfl
  · rintro behind rfl rfl
    exact (alone rfl).2 rfl

/-- Where the flag stands for a backslash that escapes nothing, it changes nothing. -/
theorem escapeQuotes_true_of_head?
    {rest : List Char}
    (noBackslash : rest.head? ≠ some '\\')
    (noQuote : rest.head? ≠ some '"') :
    escapeQuotes true rest = escapeQuotes false rest := by
  cases rest with
  | nil => rfl
  | cons next rest =>
      rw [List.head?_cons, ne_eq, Option.some.injEq] at noBackslash noQuote
      rw [escapeQuotes, escapeQuotes, if_neg noQuote, if_neg noQuote,
        beq_eq_false_iff_ne.mpr noBackslash]
      rfl

theorem escapeQuotes_cons_of_alone
    {char : Char} {rest : List Char}
    (alone : Alone char rest)
    (noQuote : char ≠ '"') :
    escapeQuotes false (char :: rest) = char :: escapeQuotes false rest := by
  rw [escapeQuotes, if_neg noQuote]
  by_cases backslash : char = '\\'
  · rw [backslash]
    exact congrArg _ (escapeQuotes_true_of_head? (alone backslash).1 (alone backslash).2)
  · rw [beq_eq_false_iff_ne.mpr backslash]
    rfl

/-- Escaping what follows does not pair a character that stands alone. -/
theorem Alone.escapeQuotes
    {char : Char} {rest : List Char}
    (alone : Alone char rest) :
    Alone char (Dot.escapeQuotes false rest) := by
  intro backslash
  rcases alone backslash with ⟨noBackslash, noQuote⟩
  cases rest with
  | nil => exact ⟨noBackslash, noQuote⟩
  | cons next rest =>
      have behind : next ≠ '"' := fun same => noQuote (congrArg some same)
      rw [Dot.escapeQuotes, if_neg behind]
      exact ⟨noBackslash, noQuote⟩

theorem Alone.dropEscapes
    {char : Char} {rest : List Char}
    (alone : Alone char rest) :
    Alone char (Dot.dropEscapes rest) := by
  intro backslash
  rcases alone backslash with ⟨noBackslash, noQuote⟩
  cases rest with
  | nil => exact ⟨noBackslash, noQuote⟩
  | cons next rest =>
      have behind : Alone next rest := fun same => absurd (congrArg some same) noBackslash
      rw [dropEscapes_cons_of_alone behind]
      exact ⟨noBackslash, noQuote⟩

/-- Cutting off a character that stands alone is the last case of `dropEscapes`. -/
theorem alone_of_forall
    {char : Char} {rest : List Char}
    (noPair : ∀ behind, char = '\\' → rest = '\\' :: behind → False)
    (noEscape : ∀ behind, char = '\\' → rest = '"' :: behind → False) :
    Alone char rest := by
  intro backslash
  constructor
  · intro next
    rcases List.head?_eq_some_iff.mp next with ⟨behind, equal⟩
    exact noPair behind backslash equal
  · intro next
    rcases List.head?_eq_some_iff.mp next with ⟨behind, equal⟩
    exact noEscape behind backslash equal

/-- What is read from a quoted text is the name without the escapes of its own. -/
theorem dropEscapes_escapeQuotes (chars : List Char) :
    dropEscapes (escapeQuotes false chars) = dropEscapes chars := by
  fun_induction dropEscapes chars with
  | case1 rest ih => simp [escapeQuotes, dropEscapes, ih]
  | case2 rest ih => simp [escapeQuotes, dropEscapes, ih]
  | case3 char rest noPair noEscape ih =>
      have alone := alone_of_forall noPair noEscape
      by_cases quote : char = '"'
      · simp [quote, escapeQuotes, dropEscapes, ih]
      · rw [escapeQuotes_cons_of_alone alone quote,
          dropEscapes_cons_of_alone alone.escapeQuotes, ih]
  | case4 => rfl

/-- A quote is escaped once, whether it was escaped before or not. -/
theorem escapeQuotes_dropEscapes (chars : List Char) :
    escapeQuotes false (dropEscapes chars) = escapeQuotes false chars := by
  fun_induction dropEscapes chars with
  | case1 rest ih => simp [escapeQuotes, ih]
  | case2 rest ih => simp [escapeQuotes, ih]
  | case3 char rest noPair noEscape ih =>
      have alone := alone_of_forall noPair noEscape
      by_cases quote : char = '"'
      · simp [quote, escapeQuotes, ih]
      · rw [escapeQuotes_cons_of_alone alone quote,
          escapeQuotes_cons_of_alone alone.dropEscapes quote, ih]
  | case4 => rfl

/-- Texts are quoted alike exactly when they differ in escapes only. -/
theorem escapeQuotes_eq_iff {left right : List Char} :
    escapeQuotes false left = escapeQuotes false right ↔ dropEscapes left = dropEscapes right := by
  constructor
  · intro same
    rw [← dropEscapes_escapeQuotes left, same, dropEscapes_escapeQuotes]
  · intro same
    rw [← escapeQuotes_dropEscapes left, same, escapeQuotes_dropEscapes]

/-! ## Identifiers -/

theorem withoutFinalBreak_cons_quote (rest : List Char) :
    ∃ behind, withoutFinalBreak ('"' :: rest) = '"' :: behind := by
  unfold withoutFinalBreak
  split
  · cases rest with
    | nil => contradiction
    | cons next rest => exact ⟨_, List.dropLast_cons_cons⟩
  · exact ⟨rest, rfl⟩

theorem isNumeral_cons_quote (rest : List Char) :
    isNumeral ('"' :: rest) = false := by
  have unsigned : isNumeral ('"' :: rest) = isUnsignedNumeral ('"' :: rest) := rfl
  rw [unsigned, isUnsignedNumeral, Text.splitWhere, if_neg (by decide)]
  rcases Text.splitWhere ('.' == ·) rest with _ | ⟨whole, _ | ⟨fraction, _ | ⟨_, _⟩⟩⟩
  · rfl
  · rfl
  · simp [Text.extendFirst]
  · rfl

/-- A plain name does not begin like a quoted text. -/
theorem head?_ne_of_isPlain
    {chars : List Char}
    (plain : isPlain chars = true) :
    chars.head? ≠ some '"' := by
  intro begins
  rcases List.head?_eq_some_iff.mp begins with ⟨rest, rfl⟩
  rcases withoutFinalBreak_cons_quote rest with ⟨behind, core⟩
  have noWord : isWord ('"' :: behind) = false := rfl
  simp [isPlain, isBracketed, core, noWord, isNumeral_cons_quote] at plain

/-- The names are equal, or both are quoted and equal but for backslashes before quotes. -/
def WrittenAlike (left right : String) : Prop :=
  left = right ∨
    isPlain left.toList = false ∧ isPlain right.toList = false ∧
      dropEscapes left.toList = dropEscapes right.toList

instance (left right : String) : Decidable (WrittenAlike left right) :=
  inferInstanceAs (Decidable (_ ∨ _))

namespace Quoting

variable {quoting : Quoting}

/-- A name that is quoted is never written like one that is not. -/
theorem Documented.ne_of_isPlain
    (documented : quoting.Documented)
    {left right : String}
    (plain : isPlain left.toList = true)
    (notPlain : isPlain right.toList = false) :
    quoting.identifier left ≠ quoting.identifier right := by
  intro same
  rw [documented.plain plain, documented.quoted notPlain] at same
  apply head?_ne_of_isPlain plain
  rw [same, Dot.quoted, String.toList_ofList]
  rfl

/-- Names have the same identifier exactly when they are written alike. -/
theorem Documented.identifier_eq_iff
    (documented : quoting.Documented)
    {left right : String} :
    quoting.identifier left = quoting.identifier right ↔ WrittenAlike left right := by
  constructor
  · intro same
    cases leftPlain : isPlain left.toList with
    | true =>
        cases rightPlain : isPlain right.toList with
        | true =>
            rw [documented.plain leftPlain, documented.plain rightPlain] at same
            exact .inl same
        | false => exact absurd same (documented.ne_of_isPlain leftPlain rightPlain)
    | false =>
        cases rightPlain : isPlain right.toList with
        | true => exact absurd same.symm (documented.ne_of_isPlain rightPlain leftPlain)
        | false =>
            rw [documented.quoted leftPlain, documented.quoted rightPlain, Dot.quoted, Dot.quoted,
              String.ofList_inj, List.append_left_inj, List.cons_inj_right] at same
            exact .inr ⟨leftPlain, rightPlain, escapeQuotes_eq_iff.mp same⟩
  · rintro (rfl | ⟨leftPlain, rightPlain, same⟩)
    · rfl
    · rw [documented.quoted leftPlain, documented.quoted rightPlain, Dot.quoted, Dot.quoted,
        escapeQuotes_eq_iff.mpr same]

/-- The standard way of writing names is as documented. -/
theorem documented_standard : standard.Documented where
  plain := fun plain => if_pos plain
  quoted := fun notPlain => if_neg (by simp [notPlain])
  whole := by
    intro name whole
    have solid : ∀ char ∈ name.toList, decide (char ≠ ':') = true :=
      fun char member => decide_eq_true fun same => whole (same ▸ member)
    have cut : cutAtColon name.toList = (name.toList, []) := by
      rw [cutAtColon, List.takeWhile_eq_self_iff.mpr solid, List.dropWhile_eq_nil_iff.mpr solid]
      rfl
    simp only [standard, atColons, cut, String.ofList_toList]
    rfl

end Quoting

end RegularModels.Dot
