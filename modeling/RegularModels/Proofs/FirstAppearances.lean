import Mathlib.Data.List.Induction
import Mathlib.Data.List.Nodup
import RegularModels.Table

/-!
# First appearances

A list says in which order its items first appear.  The keys of a table that is filled
by one write for each item of a list stand in that order.
-/

namespace RegularModels

/-- Every item once, in the order of first appearance. -/
def firstAppearances {α : Type} [DecidableEq α] (items : List α) : List α :=
  items.foldl (fun seen item => if item ∈ seen then seen else seen ++ [item]) []

variable {α : Type} [DecidableEq α] {items : List α} {item other : α}

theorem firstAppearances_concat :
    firstAppearances (items ++ [item]) =
      if item ∈ firstAppearances items then firstAppearances items
      else firstAppearances items ++ [item] := by
  rw [firstAppearances, List.foldl_append]
  rfl

/-- No item is lost with its repetitions. -/
theorem mem_firstAppearances : other ∈ firstAppearances items ↔ other ∈ items := by
  induction items using List.reverseRecOn with
  | nil => simp [firstAppearances]
  | append_singleton items item ih =>
      rw [firstAppearances_concat, List.mem_append, List.mem_singleton]
      split
      · rename_i seen
        constructor
        · exact fun member => .inl (ih.mp member)
        · rintro (member | rfl)
          · exact ih.mpr member
          · exact seen
      · rw [List.mem_append, List.mem_singleton, ih]

theorem nodup_firstAppearances : (firstAppearances items).Nodup := by
  induction items using List.reverseRecOn with
  | nil => simp [firstAppearances]
  | append_singleton items item ih =>
      rw [firstAppearances_concat]
      split
      · exact ih
      · rename_i new
        rw [← List.concat_eq_append]
        exact List.Nodup.concat new ih

/-! ## The keys of a table -/

namespace Table

variable {β : Type} {table : Table α β}

/-- Keys are kept in the order of their first appearance. -/
theorem keys_insert_eq_firstAppearances
    (keys : table.keys = firstAppearances items)
    (key : α) (value : β) :
    (table.insert key value).keys = firstAppearances (items ++ [key]) := by
  rw [keys_insert, firstAppearances_concat, ← keys]
  rfl

/-- The keys after steps that each write under the key of their item. -/
theorem keys_foldl_eq_firstAppearances
    {σ ι : Type}
    (view : σ → Table α β)
    {step : σ → ι → σ} {key : ι → α}
    (writes : ∀ model item, ∃ value, view (step model item) = (view model).insert (key item) value)
    {model : σ}
    (keys : (view model).keys = firstAppearances items)
    (steps : List ι) :
    (view (steps.foldl step model)).keys = firstAppearances (items ++ steps.map key) := by
  induction steps generalizing model items with
  | nil => simpa using keys
  | cons item rest ih =>
      rcases writes model item with ⟨value, written⟩
      have first : (view (step model item)).keys = firstAppearances (items ++ [key item]) := by
        rw [written]
        exact keys_insert_eq_firstAppearances keys (key item) value
      rw [List.foldl_cons, ih first, List.append_assoc]
      rfl

end Table

end RegularModels
