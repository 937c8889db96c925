import Mathlib.Data.List.Basic
import RegularModels.Table

/-!
# Items grouped under keys

A table of lists is filled by writing each item behind the others of its key.  The
list under a key then holds the items of that key in their order, and items that come
in another order give the same keys and the same lists up to order.
-/

namespace RegularModels.Table

variable {α β ι : Type} [DecidableEq α] {key : ι → α} {item : ι → β}

/-- Write an item behind the others of its key. -/
def push (table : Table α (List β)) (key : α) (item : β) : Table α (List β) :=
  table.insert key ((table.get? key).getD [] ++ [item])

/-- Write items one after the other, each behind the others of its key. -/
def pushAll (table : Table α (List β)) (key : ι → α) (item : ι → β) (items : List ι) :
    Table α (List β) :=
  items.foldl (fun table each => table.push (key each) (item each)) table

theorem get?_push (table : Table α (List β)) (key other : α) (item : β) :
    (table.push key item).get? other =
      if key = other then some ((table.get? other).getD [] ++ [item]) else table.get? other := by
  rw [push, get?_insert]
  split
  · rename_i same
    rw [same]
  · rfl

/-- A key to which nothing is written keeps what it has. -/
theorem get?_pushAll (table : Table α (List β)) (items : List ι) (group : α) :
    (table.pushAll key item items).get? group =
      if ∃ each ∈ items, key each = group then
        some ((table.get? group).getD [] ++ (items.filter (key · = group)).map item)
      else table.get? group := by
  induction items generalizing table with
  | nil => simp [pushAll]
  | cons first rest ih =>
      have further := ih (table.push (key first) (item first))
      rw [pushAll, List.foldl_cons, ← pushAll, further, get?_push]
      by_cases same : key first = group <;> by_cases later : ∃ each ∈ rest, key each = group
      · simp [same, later]
      · have none : rest.filter (key · = group) = [] := by
          simpa [List.filter_eq_nil_iff] using later
        simp [same, later, none]
      · simp [same, later]
      · simp [same, later]

theorem mem_pushAll_iff (table : Table α (List β)) (items : List ι) (group : α) :
    group ∈ table.pushAll key item items ↔
      group ∈ table ∨ ∃ each ∈ items, key each = group := by
  induction items generalizing table with
  | nil => simp [pushAll]
  | cons first rest ih =>
      have further := ih (table.push (key first) (item first))
      rw [pushAll, List.foldl_cons, ← pushAll, further, push, mem_insert,
        List.exists_mem_cons_iff, or_assoc, or_left_comm, eq_comm]

/-! ## Items in another order -/

/-- The lists under every key differ in their order only. -/
def Rearranged (left right : Table α (List β)) : Prop :=
  ∀ key, Option.Rel List.Perm (left.get? key) (right.get? key)

/-- Grouping in another order rearranges the groups and what is in them. -/
theorem rearranged_pushAll
    {left right : List ι}
    (perm : left.Perm right)
    (table : Table α (List β)) :
    Rearranged (table.pushAll key item left) (table.pushAll key item right) := by
  intro group
  have written : (∃ each ∈ left, key each = group) ↔ ∃ each ∈ right, key each = group :=
    exists_congr fun each => and_congr_left fun _ => perm.mem_iff
  rw [get?_pushAll, get?_pushAll, if_congr written rfl rfl]
  split
  · exact .some (((perm.filter _).map item).append_left _)
  · cases table.get? group with
    | none => exact .none
    | some items => exact .some (.refl items)

end RegularModels.Table
