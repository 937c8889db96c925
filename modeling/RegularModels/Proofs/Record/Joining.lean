import RegularModels.Proofs.Record.Reading
import RegularModels.Proofs.Text.Breaks

/-!
# Descriptions in parts

A description in two parts with a line break between them is read as the first part and
then, where that has led, the second: it has the lines of both parts, and a failure in
the second part is told with the number of lines of the first added.  So blank lines and
the kinds of line breaks between the lines do not matter.
-/

namespace RegularModels.Catalog

open Text (IsBlankText IsBreak trim)

/-! ## Lines of a description in parts -/

/-- A line that counts. -/
def isContent (line : List Char) : Bool :=
  ¬IsBlankText (String.ofList line)

theorem contentLines_eq (content : String) :
    contentLines content =
      ((Text.splitLines content.toList).filter isContent).map String.ofList := by
  rw [contentLines, Text.lines, List.filter_map]
  rfl

theorem isContent_nil : isContent [] = false := by
  decide

/-- The lines of two texts are those of the texts with a line break between them. -/
theorem contentLines_append
    {lineBreak : String}
    (isBreak : IsBreak lineBreak)
    (left right : String) :
    contentLines (left ++ lineBreak ++ right) = contentLines left ++ contentLines right := by
  simp only [contentLines_eq, String.toList_append]
  rw [Text.filter_splitLines_append isContent_nil isBreak, List.map_append]

/-- No line of a blank text counts. -/
theorem contentLines_of_isBlankText
    {text : String}
    (blank : IsBlankText text) :
    contentLines text = [] := by
  apply List.filter_eq_nil_iff.mpr
  intro line member counts
  rw [decide_eq_true_eq] at counts
  apply counts
  rw [Text.isBlankText_iff] at blank ⊢
  exact fun char inLine => blank char (Text.mem_of_mem_lines member inLine)

/-! ## Failures in parts -/

variable {catalog : Catalog} {number : Nat} {left right : List String} {failure : LineFailure}

/-- A line that is refused in the first part stops the whole. -/
theorem FailsFirst.append
    (fails : catalog.FailsFirst number left failure)
    (right : List String) :
    catalog.FailsFirst number (left ++ right) failure := by
  rcases fails with ⟨before, after, rfl, numbered, went, stopped⟩
  exact ⟨before, after ++ right, by simp, numbered, went, stopped⟩

/-- Behind a first part that is accepted, the lines of that part count as well. -/
theorem FailsFirst.behind
    (went : (catalog.applyEach left).Succeeds)
    (fails : (catalog.applyEach left).model.FailsFirst number right failure) :
    catalog.FailsFirst number (left ++ right)
      { failure with lineNumber := failure.lineNumber + left.length } := by
  rcases fails with ⟨before, after, rfl, numbered, further, stopped⟩
  have joined := catalog.applyEach_append left before
  rw [Outcome.andThen_of_succeeds went] at joined
  refine ⟨left ++ before, after, by simp, ?_, ?_, ?_⟩
  · dsimp only
    rw [numbered, List.length_append]
    omega
  · rw [joined]
    exact further
  · rw [joined]
    exact stopped

/-! ## Readings in parts -/

/-- A reading depends on the lines that count only. -/
theorem read_congr
    {content other : String}
    (same : contentLines content = contentLines other)
    (catalog : Catalog) :
    catalog.read content = catalog.read other := by
  simp only [read, same]

theorem failure_read_append
    {lineBreak : String}
    (isBreak : IsBreak lineBreak)
    (catalog : Catalog) (left right : String) :
    (catalog.read (left ++ lineBreak ++ right)).failure =
      match (catalog.read left).failure with
      | some failure => some failure
      | none => ((catalog.read left).catalog.read right).failure.map fun failure =>
          { failure with lineNumber := failure.lineNumber + (contentLines left).length } := by
  cases first : (catalog.read left).failure with
  | some failure =>
      rw [failure_read_eq_some_iff, contentLines_append isBreak]
      exact (failure_read_eq_some_iff.mp first).append _
  | none =>
      have went := failure_read_eq_none_iff.mp first
      have reached := congrArg Reading.catalog (read_of_succeeds went)
      cases second : ((catalog.read left).catalog.read right).failure with
      | some failure =>
          rw [reached, failure_read_eq_some_iff] at second
          rw [Option.map_some, failure_read_eq_some_iff, contentLines_append isBreak]
          exact second.behind went
      | none =>
          rw [reached, failure_read_eq_none_iff] at second
          rw [Option.map_none, failure_read_eq_none_iff, contentLines_append isBreak,
            applyEach_append, Outcome.succeeds_andThen_iff]
          exact ⟨went, second⟩

/-- The parts leave behind what the whole does, which is nothing when one of them fails. -/
theorem catalog_read_append
    {lineBreak : String}
    (isBreak : IsBreak lineBreak)
    {catalog : Catalog} {left : String}
    (accepted : (catalog.read left).failure = none)
    (right : String) :
    (catalog.read (left ++ lineBreak ++ right)).catalog =
      ((catalog.read left).catalog.read right).catalog := by
  have went := failure_read_eq_none_iff.mp accepted
  have reached := congrArg Reading.catalog (read_of_succeeds went)
  have whole := failure_read_append isBreak catalog left right
  rw [accepted] at whole
  cases second : ((catalog.read left).catalog.read right).failure with
  | some failure =>
      rw [second, Option.map_some] at whole
      rw [read_of_fails whole, read_of_fails second, reached, clear, clear, strict_applyEach]
  | none =>
      rw [second, Option.map_none] at whole
      rw [read_of_succeeds (failure_read_eq_none_iff.mp whole),
        read_of_succeeds (failure_read_eq_none_iff.mp second), reached]
      dsimp only
      rw [contentLines_append isBreak, applyEach_append, Outcome.andThen_of_succeeds went]

/--
A description in two parts with a line break between them is accepted when the first
part is, and the second where the first has led; then the catalog is the same.  A failure
in the first part is the failure of the whole, and one in the second part too, but with
the lines of the first part counted.  A line break may take the place of another, and a
blank line may stand at the beginning, at the end and between any two lines: what is
read stays the same, with the lines and numbers of failures.
-/
theorem read_append
    {lineBreak : String}
    (isBreak : IsBreak lineBreak)
    (catalog : Catalog) (left right : String) :
    let first := catalog.read left
    let second := first.catalog.read right
    let whole := catalog.read (left ++ lineBreak ++ right)
    (whole.failure = none ↔ first.failure = none ∧ second.failure = none) ∧
      (whole.failure = none → whole.catalog = second.catalog) ∧
      (∀ failure, first.failure = some failure →
        whole.failure = some failure ∧ whole.catalog = first.catalog) ∧
      (∀ failure, first.failure = none → second.failure = some failure →
        whole.failure = some
            { failure with lineNumber := failure.lineNumber + (contentLines left).length } ∧
          whole.catalog = second.catalog) ∧
      (∀ other, IsBreak other → catalog.read (left ++ other ++ right) = whole) ∧
      ∀ blank, IsBlankText blank →
        catalog.read (blank ++ lineBreak ++ right) = catalog.read right ∧
          catalog.read (left ++ lineBreak ++ blank) = catalog.read left ∧
          ∀ other, IsBreak other →
            catalog.read (left ++ other ++ blank ++ lineBreak ++ right) = whole := by
  intro first second whole
  have failed : whole.failure = _ := failure_read_append isBreak catalog left right
  have accepted : whole.failure = none ↔ first.failure = none ∧ second.failure = none := by
    rw [failed]
    cases first.failure <;> simp [second, first]
  refine ⟨accepted, ?_, ?_, ?_, ?_, ?_⟩
  · intro went
    exact catalog_read_append isBreak (accepted.mp went).1 right
  · intro failure stopped
    have wholeStopped : whole.failure = some failure := by
      rw [failed, stopped]
    have emptied := congrArg Reading.catalog (read_of_fails wholeStopped)
    exact ⟨wholeStopped, emptied.trans (congrArg Reading.catalog (read_of_fails stopped)).symm⟩
  · intro failure went stopped
    refine ⟨?_, catalog_read_append isBreak went right⟩
    rw [failed, went]
    exact congrArg (Option.map _) stopped
  · intro other otherBreak
    apply read_congr
    rw [contentLines_append otherBreak, contentLines_append isBreak]
  · intro blank isBlank
    refine ⟨?_, ?_, ?_⟩
    · apply read_congr
      rw [contentLines_append isBreak, contentLines_of_isBlankText isBlank, List.nil_append]
    · apply read_congr
      rw [contentLines_append isBreak, contentLines_of_isBlankText isBlank, List.append_nil]
    · intro other otherBreak
      apply read_congr
      rw [contentLines_append isBreak, contentLines_append otherBreak,
        contentLines_of_isBlankText isBlank, List.append_nil, contentLines_append isBreak]

/-- A line feed behind a carriage return is the same break, and the blank line does not count. -/
theorem read_append_seam :
    IsBreak "\n" ∧ IsBreak "\r\n" ∧ IsBlankText "\t" ∧
      (({} : Catalog).read ("1:m:q\r" ++ "\n" ++ " 3:m:p ")).failure =
        some ⟨2, " 3:m:p ", .unknownInitialState "p"⟩ ∧
      ({} : Catalog).read ("1:m:q\r" ++ "\r\n" ++ "\t" ++ "\n" ++ " 3:m:p ") =
        ({} : Catalog).read ("1:m:q\r" ++ "\n" ++ " 3:m:p ") := by
  have lineFeed : IsBreak "\n" := .inr ⟨'\n', by decide, by decide⟩
  have pair : IsBreak "\r\n" := .inl rfl
  have blank : IsBlankText "\t" := by decide
  have accepted : (({} : Catalog).read "1:m:q\r").failure = none := by decide +kernel
  have refused : ((({} : Catalog).read "1:m:q\r").catalog.read " 3:m:p ").failure =
      some ⟨1, " 3:m:p ", .unknownInitialState "p"⟩ := by
    decide +kernel
  rcases read_append lineFeed {} "1:m:q\r" " 3:m:p " with ⟨_, _, _, behind, _, blanks⟩
  refine ⟨lineFeed, pair, blank, ?_, (blanks "\t" blank).2.2 "\r\n" pair⟩
  exact (behind _ accepted refused).1.trans (by decide +kernel)

end RegularModels.Catalog
