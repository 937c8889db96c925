import RegularModels.Proofs.Text.Cuts

/-!
# Texts on one line

A text without line breaks stays on one line when it is trimmed or put together with
others, and the words of any text are on one line.  So what is printed with a line feed
behind it is a single line.
-/

namespace RegularModels.Text

instance (text : String) : Decidable (IsOneLine text) :=
  List.decidableBAll (fun char => isLineBreak char = false) text.toList

variable {text part : String}

/-! ## Parts of a text -/

theorem IsOneLine.of_subset
    (oneLine : IsOneLine text)
    (subset : ∀ char ∈ part.toList, char ∈ text.toList) :
    IsOneLine part :=
  fun char member => oneLine char (subset char member)

theorem mem_of_mem_trim
    {char : Char} (member : char ∈ (trim text).toList) :
    char ∈ text.toList := by
  rw [trim, String.toList_ofList, trimEnd, List.mem_reverse] at member
  have inStart := List.mem_reverse.mp ((List.dropWhile_suffix isBlank).subset member)
  exact (List.dropWhile_suffix isBlank).subset inStart

/-- Trimmed pieces have no characters but those of the text. -/
theorem mem_of_mem_pieces
    {mark char : Char} {text piece : String}
    (isPiece : piece ∈ pieces mark text)
    (member : char ∈ piece.toList) :
    char ∈ text.toList := by
  rcases List.mem_map.mp isPiece with ⟨cut, inCuts, rfl⟩
  rcases List.mem_map.mp inCuts with ⟨chars, inPieces, rfl⟩
  have inside := mem_of_mem_trim member
  rw [String.toList_ofList] at inside
  exact mem_of_mem_splitWhere _ _ chars inPieces char inside

theorem IsOneLine.trim (oneLine : IsOneLine text) : IsOneLine (trim text) :=
  oneLine.of_subset fun _ => mem_of_mem_trim

/-- Words hold no blanks, so they hold no line breaks either. -/
theorem isOneLine_of_mem_words (member : part ∈ words text) : IsOneLine part := by
  rcases List.mem_map.mp member with ⟨chars, inPieces, rfl⟩
  intro char inWord
  rw [String.toList_ofList] at inWord
  have solid := isCut_eq_false_of_mem_splitWhere isBlank text.toList chars
    (List.mem_filter.mp inPieces).1 char inWord
  apply Bool.of_not_eq_true
  intro isBreak
  rw [isBlank_of_isLineBreak isBreak] at solid
  cases solid

/-! ## Texts put together -/

theorem IsOneLine.append
    (left : IsOneLine text)
    (right : IsOneLine part) :
    IsOneLine (text ++ part) := by
  intro char member
  rw [String.toList_append] at member
  rcases List.mem_append.mp member with inLeft | inRight
  · exact left char inLeft
  · exact right char inRight

/-- Joining keeps texts in one line when the separator does. -/
theorem isOneLine_intercalate
    {separator : String} {texts : List String}
    (between : IsOneLine separator)
    (parts : ∀ text ∈ texts, IsOneLine text) :
    IsOneLine (separator.intercalate texts) := by
  induction texts with
  | nil => simp [IsOneLine]
  | cons text rest ih =>
      rw [List.forall_mem_cons] at parts
      by_cases last : rest = []
      · rw [last, String.intercalate_singleton]
        exact parts.1
      · rw [String.intercalate_cons_of_ne_nil last]
        exact (parts.1.append between).append (ih parts.2)

theorem isOneLine_toString (number : Nat) : IsOneLine (toString number) := by
  intro char member
  rw [Nat.toString_eq_repr, Nat.repr_eq_ofList_toDigits, String.toList_ofList] at member
  have digit := Nat.isDigit_of_mem_toDigits (by decide) (by decide) member
  simp only [Char.isDigit, Bool.and_eq_true, decide_eq_true_eq, UInt32.le_iff_toNat_le] at digit
  apply Bool.of_not_eq_true
  intro isBreak
  simp only [isLineBreak, Char.toNat, Bool.or_eq_true, Bool.and_eq_true, decide_eq_true_eq,
    beq_iff_eq] at isBreak
  have least : '0'.val.toNat = 48 := rfl
  have greatest : '9'.val.toNat = 57 := rfl
  omega

/-! ## What is printed -/

theorem IsOneLine.notMark (oneLine : IsOneLine text) :
    ∀ char ∈ text.toList, ('\n' == char) = false := by
  intro char member
  apply Bool.of_not_eq_true
  intro same
  have solid := oneLine char member
  rw [← beq_iff_eq.mp same] at solid
  cases solid

/-- A text on one line is printed as one line. -/
theorem splitAtChar_lineFeed (oneLine : IsOneLine text) :
    splitAtChar '\n' (text ++ "\n") = [text, ""] := by
  have cut : splitWhere ('\n' == ·) ['\n'] = [[], []] := rfl
  have whole : (text ++ "\n").toList = text.toList ++ ['\n'] := by simp
  rw [splitAtChar, whole, splitWhere_append oneLine.notMark cut]
  simp

/-- A printed text that begins on one line has this beginning on its first line. -/
theorem exists_mem_splitAtChar (begins : IsOneLine text) (rest : String) :
    ∃ first ∈ splitAtChar '\n' (text ++ rest), text.toList <+: first.toList := by
  rcases List.exists_cons_of_ne_nil (splitWhere_ne_nil ('\n' == ·) rest.toList) with
    ⟨first, pieces, cut⟩
  refine ⟨String.ofList (text.toList ++ first), ?_, ?_⟩
  · rw [splitAtChar, String.toList_append, splitWhere_append begins.notMark cut]
    exact List.mem_cons_self
  · rw [String.toList_ofList]
    exact List.prefix_append _ _

end RegularModels.Text
