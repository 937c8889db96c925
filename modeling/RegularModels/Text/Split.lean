import RegularModels.Text.Blank

/-!
# Cutting texts into pieces

`splitWhere` cuts at every element that satisfies a test, `splitOn` at every
non-overlapping occurrence of a separator, looked for from the left.  Both give
one piece more than there are cuts, so a text without any cut is one piece.
`words` cuts at blanks and drops the empty pieces; `pieces` trims what it cuts.
-/

namespace RegularModels.Text

variable {α : Type}

/-- Put an element in front of the first piece. -/
def extendFirst (item : α) : List (List α) → List (List α)
  | [] => [[item]]
  | piece :: pieces => (item :: piece) :: pieces

/-- Cut at every element that satisfies the test. -/
def splitWhere (isCut : α → Bool) : List α → List (List α)
  | [] => [[]]
  | item :: rest =>
    if isCut item then [] :: splitWhere isCut rest
    else extendFirst item (splitWhere isCut rest)

/--
Cut at the occurrences of `separator`; the first `skip` elements belong to
an occurrence that has been seen already.
-/
def splitSkipping [BEq α] (separator : List α) : Nat → List α → List (List α)
  | _, [] => [[]]
  | skip + 1, _ :: rest => splitSkipping separator skip rest
  | 0, item :: rest =>
    if separator.isPrefixOf (item :: rest) then
      [] :: splitSkipping separator (separator.length - 1) rest
    else extendFirst item (splitSkipping separator 0 rest)

/-- Cut at every occurrence of a non-empty separator, from the left. -/
def splitOn [BEq α] (separator items : List α) : List (List α) :=
  splitSkipping separator 0 items

theorem splitWhere_ne_nil (isCut : α → Bool) (items : List α) :
    splitWhere isCut items ≠ [] := by
  cases items with
  | nil => simp [splitWhere]
  | cons item rest =>
    simp only [splitWhere]
    split
    · simp
    · cases splitWhere isCut rest <;> simp [extendFirst]

/-- A separator of one element cuts where that element stands. -/
theorem splitOn_singleton [BEq α] [LawfulBEq α] (mark : α) (items : List α) :
    splitOn [mark] items = splitWhere (mark == ·) items := by
  induction items with
  | nil => rfl
  | cons item rest ih =>
    simp only [splitOn] at ih
    cases equal : mark == item <;>
      simp [splitOn, splitSkipping, splitWhere, List.isPrefixOf, equal, ih]

/-- The pieces of a text between the occurrences of one character. -/
def splitAtChar (mark : Char) (text : String) : List String :=
  (splitWhere (mark == ·) text.toList).map String.ofList

/-- The pieces of a text between the occurrences of a separator. -/
def splitAtText (separator text : String) : List String :=
  (splitOn separator.toList text.toList).map String.ofList

/-- The trimmed pieces of a text between the occurrences of one character. -/
def pieces (mark : Char) (text : String) : List String :=
  (splitAtChar mark text).map trim

/--
The trimmed pieces of a text between the occurrences of a separator, which
must not be empty.
-/
def pieces? (separator text : String) : Option (List String) :=
  if separator = "" then none else some ((splitAtText separator text).map trim)

/-- The maximal runs of non-blank characters. -/
def words (text : String) : List String :=
  ((splitWhere isBlank text.toList).filter (!·.isEmpty)).map String.ofList

theorem pieces?_singleton (mark : Char) (text : String) :
    pieces? (String.ofList [mark]) text = some (pieces mark text) := by
  have solid : String.ofList [mark] ≠ "" := by
    intro equal
    have lists := congrArg String.toList equal
    simp at lists
  simp only [pieces?, if_neg solid, pieces, splitAtText, splitAtChar, String.toList_ofList,
    splitOn_singleton]

end RegularModels.Text
