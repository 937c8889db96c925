import RegularModels.Text.Lines

/-!
# Pieces and lines put together again

A text is the pieces between the occurrences of a character, with that character
between them, and no piece holds the character.  The lines of a text hold no line
break, and lines that hold none are the lines of the text that they make up when each
is followed by a line feed.
-/

namespace RegularModels.Text

/-! ## Pieces -/

/-- What holds of an item and of all items of pieces holds after the first is extended. -/
theorem forall_mem_extendFirst
    {α : Type} {Holds : α → Prop} {item : α} {pieces : List (List α)}
    (first : Holds item)
    (others : ∀ piece ∈ pieces, ∀ other ∈ piece, Holds other) :
    ∀ piece ∈ extendFirst item pieces, ∀ other ∈ piece, Holds other := by
  cases pieces with
  | nil => simpa [extendFirst] using first
  | cons piece rest =>
      rw [List.forall_mem_cons] at others
      rw [extendFirst, List.forall_mem_cons, List.forall_mem_cons]
      exact ⟨⟨first, others.1⟩, others.2⟩

theorem isCut_eq_false_of_mem_splitWhere
    {α : Type} (isCut : α → Bool) (items : List α) :
    ∀ piece ∈ splitWhere isCut items, ∀ item ∈ piece, isCut item = false := by
  induction items with
  | nil => simp [splitWhere]
  | cons item rest ih =>
      rw [splitWhere]
      split
      · rw [List.forall_mem_cons]
        exact ⟨by simp, ih⟩
      · rename_i kept
        exact forall_mem_extendFirst (Bool.of_not_eq_true kept) ih

theorem mem_of_mem_splitWhere
    {α : Type} (isCut : α → Bool) (items : List α) :
    ∀ piece ∈ splitWhere isCut items, ∀ item ∈ piece, item ∈ items := by
  induction items with
  | nil => simp [splitWhere]
  | cons first rest ih =>
      have later : ∀ piece ∈ splitWhere isCut rest, ∀ item ∈ piece, item ∈ first :: rest :=
        fun piece inPieces item member => List.mem_cons_of_mem _ (ih piece inPieces item member)
      rw [splitWhere]
      split
      · rw [List.forall_mem_cons]
        exact ⟨by simp, later⟩
      · exact forall_mem_extendFirst List.mem_cons_self later

theorem splitWhere_eq_splitOnP
    {α : Type} (isCut : α → Bool) (items : List α) :
    splitWhere isCut items = items.splitOnP isCut := by
  induction items with
  | nil => rfl
  | cons item rest ih =>
      rw [List.splitOnP_cons_eq_if_modifyHead, splitWhere, ih]
      split
      · rfl
      · rcases List.exists_cons_of_ne_nil (List.splitOnP_ne_nil isCut rest) with
          ⟨piece, pieces, shape⟩
        rw [shape]
        rfl

/-- A cut stands between the pieces before it and the pieces behind it. -/
theorem splitWhere_append_cons
    {α : Type} {isCut : α → Bool} {item : α}
    (cut : isCut item = true)
    (left right : List α) :
    splitWhere isCut (left ++ item :: right) = splitWhere isCut left ++ splitWhere isCut right := by
  simp only [splitWhere_eq_splitOnP]
  exact List.splitOnP_append_cons left right cut

/-- What stands before the first cut extends the first piece. -/
theorem splitWhere_append
    {α : Type} {isCut : α → Bool} {front rest first : List α} {pieces : List (List α)}
    (kept : ∀ item ∈ front, isCut item = false)
    (cut : splitWhere isCut rest = first :: pieces) :
    splitWhere isCut (front ++ rest) = (front ++ first) :: pieces := by
  induction front with
  | nil => exact cut
  | cons item front ih =>
      rw [List.forall_mem_cons] at kept
      rw [List.cons_append, splitWhere, kept.1, ih kept.2]
      rfl

section Pieces

variable {α : Type} [BEq α] [LawfulBEq α] {mark : α} {items : List α}

theorem splitWhere_eq_splitOn (mark : α) (items : List α) :
    splitWhere (mark == ·) items = items.splitOn mark := by
  rw [splitWhere_eq_splitOnP, List.splitOn]
  congr 1
  exact funext fun item => BEq.comm

/-- The pieces are the only ones without the mark that make up the whole. -/
theorem splitWhere_eq_iff {pieces : List (List α)} :
    splitWhere (mark == ·) items = pieces ↔
      pieces ≠ [] ∧ (∀ piece ∈ pieces, mark ∉ piece) ∧ [mark].intercalate pieces = items := by
  constructor
  · rintro rfl
    refine ⟨splitWhere_ne_nil _ items, ?_, ?_⟩
    · intro piece member found
      have kept := isCut_eq_false_of_mem_splitWhere _ items piece member mark found
      exact Bool.false_ne_true (kept.symm.trans (beq_self_eq_true mark))
    · rw [splitWhere_eq_splitOn, List.intercalate_splitOn]
  · rintro ⟨some, unmarked, rfl⟩
    rw [splitWhere_eq_splitOn, List.splitOn_intercalate mark unmarked some]

end Pieces

/-- A text has three pieces when the mark stands in it exactly twice. -/
theorem splitAtChar_eq_three_iff {mark : Char} {text first second third : String} :
    splitAtChar mark text = [first, second, third] ↔
      text.toList = first.toList ++ mark :: second.toList ++ mark :: third.toList ∧
        mark ∉ first.toList ∧ mark ∉ second.toList ∧ mark ∉ third.toList := by
  have lists : splitAtChar mark text = [first, second, third] ↔
      splitWhere (mark == ·) text.toList = [first.toList, second.toList, third.toList] := by
    constructor
    · intro equal
      have mapped := congrArg (List.map String.toList) equal
      simpa [splitAtChar, Function.comp_def] using mapped
    · intro equal
      simp [splitAtChar, equal]
  have whole : [mark].intercalate [first.toList, second.toList, third.toList] =
      first.toList ++ mark :: second.toList ++ mark :: third.toList := by
    simp [List.intercalate]
  rw [lists, splitWhere_eq_iff, whole, eq_comm (a := text.toList)]
  simp [and_comm]

/-! ## Lines -/

/-- The text of lines, each of which is followed by a line feed. -/
def unlines (lines : List String) : String :=
  String.ofList (lines.flatMap fun line => line.toList ++ ['\n'])

/-- The text holds no line breaks, so cutting at them leaves it whole. -/
def IsOneLine (text : String) : Prop :=
  ∀ char ∈ text.toList, isLineBreak char = false

/-- A line without line breaks is cut off at the line feed behind it. -/
theorem splitLines_append
    {line : List Char}
    (solid : ∀ char ∈ line, isLineBreak char = false)
    (rest : List Char) :
    splitLines (line ++ '\n' :: rest) = line :: splitLines rest := by
  induction line with
  | nil =>
      rw [List.nil_append, splitLines]
      · rfl
      · simp
  | cons char line ih =>
      have later := ih fun other member => solid other (List.mem_cons_of_mem _ member)
      have inside := solid char List.mem_cons_self
      rw [List.cons_append, splitLines, later, inside]
      · rfl
      · rintro _ rfl
        exact absurd inside (by decide)

/-- Texts without line breaks are read back from their lines. -/
theorem lines_unlines
    {texts : List String}
    (whole : ∀ text ∈ texts, IsOneLine text) :
    lines (unlines texts) = texts := by
  have split : splitLines (texts.flatMap fun line => line.toList ++ ['\n']) =
      texts.map String.toList := by
    induction texts with
    | nil => rfl
    | cons text rest ih =>
        rw [List.flatMap_cons, List.append_assoc, List.singleton_append,
          splitLines_append (whole text List.mem_cons_self),
          ih fun other member => whole other (List.mem_cons_of_mem _ member)]
        rfl
  rw [lines, unlines, String.toList_ofList, split, List.map_map]
  simp [Function.comp_def]

theorem isLineBreak_eq_false_of_mem_splitLines (chars : List Char) :
    ∀ line ∈ splitLines chars, ∀ char ∈ line, isLineBreak char = false := by
  fun_induction splitLines chars with
  | case1 => simp
  | case2 rest ih => simpa using ih
  | case3 char rest _ isBreak ih => simpa using ih
  | case4 char rest _ inside ih =>
      exact forall_mem_extendFirst (Bool.of_not_eq_true inside) ih

/-- The lines of a text hold no line breaks. -/
theorem isOneLine_of_mem_lines
    {text line : String}
    (member : line ∈ lines text) :
    IsOneLine line := by
  rcases List.mem_map.mp member with ⟨chars, inLines, rfl⟩
  simpa [IsOneLine] using isLineBreak_eq_false_of_mem_splitLines text.toList chars inLines

end RegularModels.Text
