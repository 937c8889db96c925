/-!
# Blank characters and trimming

The white space that surrounds names in records, command lines and
environment variables.  `trim` removes it from both ends of a text, and
`words` cuts a text into its maximal runs of non-blank characters.

Zero-width characters (U+200B, U+FEFF) and U+180E are not blank.
-/

namespace RegularModels.Text

/-- The characters that count as white space. -/
def isBlank (char : Char) : Bool :=
  let code := char.toNat
  (9 ≤ code && code ≤ 13) || (28 ≤ code && code ≤ 32) || code == 0x85 ||
    code == 0xA0 || code == 0x1680 || (0x2000 ≤ code && code ≤ 0x200A) ||
    code == 0x2028 || code == 0x2029 || code == 0x202F || code == 0x205F ||
    code == 0x3000

/-- Every white-space character of the core library is blank. -/
theorem isBlank_of_isWhitespace {char : Char} (white : char.isWhitespace = true) :
    isBlank char = true := by
  simp only [Char.isWhitespace, Bool.or_eq_true, decide_eq_true_eq] at white
  rcases white with ((rfl | rfl) | rfl) | rfl <;> rfl

/-- Remove the blanks at the front. -/
def trimStart (chars : List Char) : List Char :=
  chars.dropWhile isBlank

/-- Remove the blanks at the back. -/
def trimEnd (chars : List Char) : List Char :=
  (trimStart chars.reverse).reverse

/-- The text without the blanks at its two ends. -/
def trim (text : String) : String :=
  String.ofList (trimEnd (trimStart text.toList))

/-- A text is trimmed when trimming leaves it alone. -/
def Trimmed (text : String) : Prop :=
  trim text = text

instance (text : String) : Decidable (Trimmed text) :=
  inferInstanceAs (Decidable (trim text = text))

/-- A text of blanks only; the empty text is one. -/
def IsBlankText (text : String) : Prop :=
  trim text = ""

instance (text : String) : Decidable (IsBlankText text) :=
  inferInstanceAs (Decidable (trim text = ""))

/-! ## Ends of a list of characters -/

/-- The first character, if there is one, is not blank. -/
def StartsSolid (chars : List Char) : Prop :=
  ∀ char ∈ chars.head?, isBlank char = false

theorem startsSolid_trimStart (chars : List Char) : StartsSolid (trimStart chars) := by
  induction chars with
  | nil => simp [StartsSolid, trimStart]
  | cons char rest ih =>
    by_cases blank : isBlank char = true
    · simpa [trimStart, blank] using ih
    · simp [StartsSolid, trimStart, blank]

theorem trimStart_of_startsSolid {chars : List Char} (solid : StartsSolid chars) :
    trimStart chars = chars := by
  cases chars with
  | nil => rfl
  | cons char rest =>
    have notBlank : isBlank char = false := solid char (by simp)
    simp [trimStart, notBlank]

theorem trimStart_trimStart (chars : List Char) :
    trimStart (trimStart chars) = trimStart chars :=
  trimStart_of_startsSolid (startsSolid_trimStart chars)

theorem trimEnd_trimEnd (chars : List Char) : trimEnd (trimEnd chars) = trimEnd chars := by
  simp [trimEnd, trimStart_trimStart]

/-- Cutting blanks off the back keeps a solid front. -/
theorem startsSolid_trimEnd {chars : List Char} (solid : StartsSolid chars) :
    StartsSolid (trimEnd chars) := by
  obtain ⟨tail, split⟩ : ∃ tail, chars = trimEnd chars ++ tail := by
    refine ⟨(chars.reverse.takeWhile isBlank).reverse, ?_⟩
    rw [trimEnd, trimStart, ← List.reverse_append, List.takeWhile_append_dropWhile,
      List.reverse_reverse]
  intro char first
  cases shape : trimEnd chars with
  | nil => simp [shape] at first
  | cons head rest =>
    rw [shape] at first split
    exact solid char (by rw [split]; simpa using first)

theorem trimmed_trim (text : String) : Trimmed (trim text) := by
  have solid := startsSolid_trimEnd (startsSolid_trimStart text.toList)
  simp [Trimmed, trim, trimStart_of_startsSolid solid, trimEnd_trimEnd]

@[simp]
theorem trim_trim (text : String) : trim (trim text) = trim text :=
  trimmed_trim text

end RegularModels.Text
