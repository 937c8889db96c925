import RegularModels.NameSet
import RegularModels.Text.Split

/-!
# Texts without blanks at their ends

A text is trimmed when neither its first nor its last character is blank.  So
trimmed texts can be put together without trimming again: a symbol followed by a
state, and a state followed by a sign and primes, are trimmed names.
-/

namespace RegularModels.Text

theorem StartsSolid.append
    {left right : List Char}
    (leftSolid : StartsSolid left)
    (rightSolid : StartsSolid right) :
    StartsSolid (left ++ right) := by
  cases left with
  | nil => exact rightSolid
  | cons first rest =>
      intro char found
      exact leftSolid char (by simpa using found)

/-- Trimming leaves a text alone when both of its ends are solid. -/
theorem trimmed_iff {text : String} :
    Trimmed text ↔
      StartsSolid text.toList ∧ StartsSolid text.toList.reverse := by
  constructor
  · intro trimmed
    have lists : trimEnd (trimStart text.toList) = text.toList := by
      simpa [trim] using congrArg String.toList trimmed
    constructor
    · rw [← lists]
      exact startsSolid_trimEnd (startsSolid_trimStart text.toList)
    · rw [← lists, trimEnd, List.reverse_reverse]
      exact startsSolid_trimStart _
  · rintro ⟨front, back⟩
    simp [Trimmed, trim, trimEnd, trimStart_of_startsSolid front,
      trimStart_of_startsSolid back]

theorem Trimmed.append
    {left right : String}
    (leftTrimmed : Trimmed left)
    (rightTrimmed : Trimmed right) :
    Trimmed (left ++ right) := by
  obtain ⟨leftFront, leftBack⟩ := trimmed_iff.mp leftTrimmed
  obtain ⟨rightFront, rightBack⟩ := trimmed_iff.mp rightTrimmed
  rw [trimmed_iff, String.toList_append, List.reverse_append]
  exact ⟨leftFront.append rightFront, rightBack.append leftBack⟩

theorem map_trim_of_trimmed
    {names : List String}
    (trimmed : ∀ name ∈ names, Trimmed name) :
    names.map trim = names := by
  have pointwise : names.map trim = names.map id := List.map_congr_left trimmed
  rw [pointwise, List.map_id]

/-- The pieces of a text are trimmed already. -/
theorem map_trim_pieces (mark : Char) (text : String) :
    (pieces mark text).map trim = pieces mark text := by
  apply map_trim_of_trimmed
  intro piece member
  rcases List.mem_map.mp member with ⟨given, _, rfl⟩
  exact trimmed_trim given

/-- Trimming the members of a set of trimmed names gives the set again. -/
theorem ofList_map_trim_toList
    {names : NameSet}
    (trimmed : ∀ name ∈ names, Trimmed name) :
    NameSet.ofList (names.toList.map trim) = names := by
  rw [map_trim_of_trimmed trimmed]
  ext name
  rw [NameSet.mem_ofList, NameSet.mem_toList]

theorem trimmed_of_mem_ofList_trim
    {names : List String} {name : String}
    (member : name ∈ NameSet.ofList (names.map trim)) :
    Trimmed name := by
  rcases List.mem_map.mp (NameSet.mem_ofList.mp member) with ⟨given, _, rfl⟩
  exact trimmed_trim given

end RegularModels.Text
