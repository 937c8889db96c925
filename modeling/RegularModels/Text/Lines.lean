import RegularModels.Text.Split

/-!
# Lines of a text

A line ends at a line break or at the end of the text.  A carriage return
followed by a line feed is one break; a break at the very end starts no
further line, so the empty text has no lines.
-/

namespace RegularModels.Text

/-- The characters that end a line. -/
def isLineBreak (char : Char) : Bool :=
  let code := char.toNat
  (10 ≤ code && code ≤ 13) || (28 ≤ code && code ≤ 30) || code == 0x85 ||
    code == 0x2028 || code == 0x2029

/-- The lines of a list of characters, without their breaks. -/
def splitLines : List Char → List (List Char)
  | [] => []
  | '\r' :: '\n' :: rest => [] :: splitLines rest
  | char :: rest =>
    if isLineBreak char then [] :: splitLines rest
    else extendFirst char (splitLines rest)

/-- The lines of a text, without their breaks. -/
def lines (text : String) : List String :=
  (splitLines text.toList).map String.ofList

/-- Line breaks are blanks, so trimming takes them away. -/
theorem isBlank_of_isLineBreak {char : Char} (isBreak : isLineBreak char = true) :
    isBlank char = true := by
  simp only [isLineBreak, Bool.or_eq_true, Bool.and_eq_true, decide_eq_true_eq,
    beq_iff_eq] at isBreak
  simp only [isBlank, Bool.or_eq_true, Bool.and_eq_true, decide_eq_true_eq, beq_iff_eq]
  omega

end RegularModels.Text
