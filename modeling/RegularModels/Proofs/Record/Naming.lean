import RegularModels.Proofs.Record.Format
import RegularModels.Proofs.Text.OneLine

/-!
# Names of models that are read

The name of a model that is read is part of a line, so it holds no line break.
-/

namespace RegularModels

open Text (IsOneLine trim)

/-- The name in a record holds no line breaks, since the record is one line. -/
theorem Record.isOneLine_name
    {record : Record} {line : String}
    (written : record.WrittenIn line)
    (oneLine : IsOneLine line) :
    IsOneLine record.name := by
  rcases written with ⟨code, name, payload, whole, _, _, nameEq, _⟩
  have part : IsOneLine name := by
    apply oneLine.of_subset
    intro char member
    simp [whole, member]
  rw [nameEq]
  exact part.trim

namespace Catalog

/-- No name of a model holds a line break. -/
structure NamesOneLine (catalog : Catalog) : Prop where
  automata : ∀ name ∈ catalog.automata, IsOneLine name
  grammars : ∀ name ∈ catalog.grammars, IsOneLine name

variable {catalog : Catalog}

theorem namesOneLine_clear (catalog : Catalog) : catalog.clear.NamesOneLine where
  automata := fun _ member => absurd member List.not_mem_nil
  grammars := fun _ member => absurd member List.not_mem_nil

theorem NamesOneLine.applyRecord
    (names : catalog.NamesOneLine)
    {record : Record}
    (oneLine : IsOneLine record.name) :
    (catalog.applyRecord record).model.NamesOneLine := by
  unfold Catalog.applyRecord
  split
  · refine ⟨?_, names.grammars⟩
    intro name member
    rcases Table.mem_insert.mp member with rfl | earlier
    · exact oneLine
    · exact names.automata name earlier
  · refine ⟨names.automata, ?_⟩
    intro name member
    rcases Table.mem_insert.mp member with rfl | earlier
    · exact oneLine
    · exact names.grammars name earlier

theorem NamesOneLine.applyLine
    (names : catalog.NamesOneLine)
    {line : String}
    (oneLine : IsOneLine line) :
    (catalog.applyLine line).model.NamesOneLine := by
  unfold Catalog.applyLine
  split
  · rename_i record found
    exact names.applyRecord (Record.isOneLine_name (Record.ofLine_eq_ok_iff.mp found) oneLine)
  · exact names

theorem isOneLine_of_mem_contentLines
    {content line : String}
    (member : line ∈ contentLines content) :
    IsOneLine line :=
  Text.isOneLine_of_mem_lines (List.mem_filter.mp member).1

/-- Reading names all models without line breaks. -/
theorem namesOneLine_read
    (names : catalog.NamesOneLine)
    (content : String) :
    (catalog.read content).catalog.NamesOneLine := by
  have applied : (catalog.applyEach (contentLines content)).model.NamesOneLine := by
    refine Outcome.each_model_of_mem NamesOneLine ?_ names
    intro reached line member kept
    exact kept.applyLine (isOneLine_of_mem_contentLines member).trim
  cases failed : (catalog.read content).failure with
  | none =>
      rw [read_of_succeeds (failure_read_eq_none_iff.mp failed)]
      exact applied
  | some failure =>
      rw [read_of_fails failed]
      exact catalog.namesOneLine_clear

end Catalog

end RegularModels
