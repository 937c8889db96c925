import Mathlib.Data.List.TakeWhile
import RegularModels.Proofs.Text.Cuts

/-!
# Texts with line breaks between them

Apart from empty ones, the lines of a text are its pieces between the characters that
end lines, for a carriage return with its line feed only makes one empty piece more, and
so does a break at the very end.  So when empty lines do not count, two texts with a line
break between them have the lines of the one and then the lines of the other, whatever
break it is and whatever the texts end and begin with.
-/

namespace RegularModels.Text

/--
The text is one line break: a character that ends lines, or a carriage return and a line
feed.
-/
def IsBreak (text : String) : Prop :=
  text = "\r\n" ∨ ∃ char, isLineBreak char = true ∧ text = String.singleton char

section Lines

variable {keeps : List Char → Bool} (dropsEmpty : keeps [] = false)
include dropsEmpty

/-- The first line is the first piece, and the lines behind it are pieces or left out. -/
theorem exists_pieces_of_splitLines (chars : List Char) :
    ∃ first pieces, splitWhere isLineBreak chars = first :: pieces ∧
      ((first = [] ∧ pieces = [] ∧ splitLines chars = []) ∨
        ∃ lines, splitLines chars = first :: lines ∧
          lines.filter keeps = pieces.filter keeps) := by
  fun_induction splitLines chars with
  | case1 => exact ⟨[], [], rfl, .inl ⟨rfl, rfl, rfl⟩⟩
  | case2 rest ih =>
      rcases ih with ⟨first, pieces, cut, same⟩
      have twice : splitWhere isLineBreak ('\r' :: '\n' :: rest) = [] :: [] :: first :: pieces := by
        rw [splitWhere, splitWhere, cut]
        rfl
      refine ⟨[], [] :: first :: pieces, twice, .inr ⟨splitLines rest, rfl, ?_⟩⟩
      rcases same with ⟨rfl, rfl, none⟩ | ⟨lines, some, kept⟩
      · simp [none, dropsEmpty]
      · simp [some, dropsEmpty, List.filter_cons, kept]
  | case3 char rest _ isBreak ih =>
      rcases ih with ⟨first, pieces, cut, same⟩
      refine ⟨[], first :: pieces, by rw [splitWhere, if_pos isBreak, cut], .inr ⟨_, rfl, ?_⟩⟩
      rcases same with ⟨rfl, rfl, none⟩ | ⟨lines, some, kept⟩
      · simp [none, dropsEmpty]
      · simp [some, List.filter_cons, kept]
  | case4 char rest _ inside ih =>
      rcases ih with ⟨first, pieces, cut, same⟩
      refine ⟨char :: first, pieces, by rw [splitWhere, if_neg inside, cut]; rfl, .inr ?_⟩
      rcases same with ⟨rfl, rfl, none⟩ | ⟨lines, some, kept⟩
      · exact ⟨[], by rw [none]; rfl, rfl⟩
      · exact ⟨lines, by rw [some]; rfl, kept⟩

/-- Apart from empty ones, lines are the pieces between the characters that end lines. -/
theorem filter_splitLines (chars : List Char) :
    (splitLines chars).filter keeps = (splitWhere isLineBreak chars).filter keeps := by
  rcases exists_pieces_of_splitLines dropsEmpty chars with
    ⟨first, pieces, cut, ⟨rfl, rfl, none⟩ | ⟨lines, some, kept⟩⟩
  · simp [cut, none, dropsEmpty]
  · simp [cut, some, List.filter_cons, kept]

/-- A character that ends a line stands between the lines before it and those behind it. -/
theorem filter_splitLines_append_cons
    {char : Char}
    (ends : isLineBreak char = true)
    (left right : List Char) :
    (splitLines (left ++ char :: right)).filter keeps =
      (splitLines left).filter keeps ++ (splitLines right).filter keeps := by
  simp only [filter_splitLines dropsEmpty, splitWhere_append_cons ends, List.filter_append]

/-- A line break stands between the lines before it and those behind it. -/
theorem filter_splitLines_append
    {lineBreak : String}
    (isBreak : IsBreak lineBreak)
    (left right : List Char) :
    (splitLines (left ++ lineBreak.toList ++ right)).filter keeps =
      (splitLines left).filter keeps ++ (splitLines right).filter keeps := by
  rcases isBreak with rfl | ⟨char, ends, rfl⟩
  · -- Behind the carriage return, the line feed ends a line that is empty.
    have pair :
        left ++ ("\r\n" : String).toList ++ right = left ++ '\r' :: ([] ++ '\n' :: right) := by
      simp
    rw [pair, filter_splitLines_append_cons dropsEmpty (by decide),
      filter_splitLines_append_cons dropsEmpty (by decide)]
    rfl
  · simpa using filter_splitLines_append_cons dropsEmpty ends left right

end Lines

/-! ## Blank texts -/

theorem mem_of_mem_splitLines (chars : List Char) :
    ∀ line ∈ splitLines chars, ∀ char ∈ line, char ∈ chars := by
  fun_induction splitLines chars with
  | case1 => simp
  | case2 rest ih =>
      rw [List.forall_mem_cons]
      exact ⟨by simp, fun line member char inLine => by simp [ih line member char inLine]⟩
  | case3 first rest _ isBreak ih =>
      rw [List.forall_mem_cons]
      exact ⟨by simp, fun line member char inLine => .tail first (ih line member char inLine)⟩
  | case4 first rest _ inside ih =>
      apply forall_mem_extendFirst List.mem_cons_self
      exact fun line member char inLine => .tail first (ih line member char inLine)

theorem mem_of_mem_lines
    {text line : String} {char : Char}
    (member : line ∈ lines text)
    (inLine : char ∈ line.toList) :
    char ∈ text.toList := by
  rcases List.mem_map.mp member with ⟨chars, inLines, rfl⟩
  exact mem_of_mem_splitLines text.toList chars inLines char (by simpa using inLine)

theorem trimStart_eq_nil_iff {chars : List Char} :
    trimStart chars = [] ↔ ∀ char ∈ chars, isBlank char = true :=
  List.dropWhile_eq_nil_iff

/-- A text is blank when all its characters are. -/
theorem isBlankText_iff {text : String} :
    IsBlankText text ↔ ∀ char ∈ text.toList, isBlank char = true := by
  have ends : IsBlankText text ↔ trimEnd (trimStart text.toList) = [] := by
    rw [IsBlankText, trim, ← String.toList_inj, String.toList_ofList]
    rfl
  rw [ends, trimEnd, List.reverse_eq_nil_iff, trimStart_eq_nil_iff]
  simp only [List.mem_reverse]
  constructor
  · intro blank
    have solid := startsSolid_trimStart text.toList
    apply trimStart_eq_nil_iff.mp
    -- What is left would begin with a character that is not blank.
    cases left : trimStart text.toList with
    | nil => rfl
    | cons first rest =>
        rw [left] at solid blank
        have notBlank := solid first rfl
        rw [blank first List.mem_cons_self] at notBlank
        cases notBlank
  · intro blank char member
    exact blank char ((List.dropWhile_suffix isBlank).subset member)

end RegularModels.Text
